import Gazette.Cache.Backend
import Gazette.Number.Decimal
import Gazette.Storage.Repository
import Gazette.Text.Blank

/-!
# Settings

The settings come from environment variables.  A variable that is missing, is not text, or
does not have the form of its setting leaves the setting at its default.
-/

set_option autoImplicit false

namespace Gazette

/-- The settings of the application. -/
structure Settings where
  databasePath : String := "inkpress.db"
  cacheEnabled : Bool := true
  keyStart : String := "article-"
  ttlSeconds : UInt64 := 60
  cacheSize : UInt64 := 10000
  remoteUrl : String := "redis://localhost:6379"
  metricsNamespace : String := "article_server"
  tagBatch : UInt64 := UInt64.ofNat Database.defaultTagBatch
  deriving DecidableEq

/-- The values of environment variables, where they are set. -/
abbrev Environment := String → Option Payload

namespace Settings

/-- The text of a variable. -/
def text? (environment : Environment) (name : String) : Option String :=
  (environment name).bind Utf8.text?

/-- A truth value in one of its spellings, in letters of either case. -/
def boolean? (text : List Char) : Option Bool :=
  match String.ofList (text.map Char.toLower) with
  | "1" | "true" | "yes" | "on" => some true
  | "0" | "false" | "no" | "off" => some false
  | _ => none

/-- The value of a variable, read without the blanks at its ends. -/
def trimmed? {α : Type} (read? : List Char → Option α) (environment : Environment)
    (name : String) : Option α :=
  (text? environment name).bind fun text => read? (Blank.trim text.toList)

/-- The settings in an environment. -/
def ofEnvironment (environment : Environment) : Settings :=
  let standard : Settings := {}
  { databasePath := (text? environment "SQLITE_PATH").getD standard.databasePath
    cacheEnabled := (trimmed? boolean? environment "CACHE_ENABLED").getD standard.cacheEnabled
    keyStart := (text? environment "CACHE_PREFIX").getD standard.keyStart
    ttlSeconds :=
      (trimmed? Decimal.uint64? environment "CACHE_TTL_SECONDS").getD standard.ttlSeconds
    cacheSize := (trimmed? Decimal.uint64? environment "CACHE_MAX_ENTRIES").getD standard.cacheSize
    remoteUrl := (text? environment "REDIS_URL").getD standard.remoteUrl
    metricsNamespace :=
      (text? environment "METRICS_NAMESPACE").getD standard.metricsNamespace
    tagBatch := (trimmed? Decimal.uint64? environment "TAG_BATCH_SIZE").getD standard.tagBatch }

/-- The time to live of cached entries. -/
def ttl (settings : Settings) : Duration :=
  settings.ttlSeconds.toNat * Duration.second

end Settings

end Gazette
