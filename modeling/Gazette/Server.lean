import Gazette.Json.Lexeme
import Gazette.Storage.Repository

/-!
# The server

Three resources tell an operator about the application: whether it is alive, whether its
storage answers, and its counters.  They can be read and nothing else; reading the head only
gives the same answer without its body.
-/

set_option autoImplicit false

namespace Gazette

/-- A request. -/
structure Request where
  method : String := "GET"
  target : String

/-- A response. -/
structure Response where
  status : Nat
  contentType : Option String := none
  allow : Option String := none
  body : Payload := []
  deriving DecidableEq

/-- What can be asked for. -/
inductive Resource where
  | liveness
  | readiness
  | metrics
  deriving DecidableEq

namespace Resource

/-- The resource at a path. -/
def ofPath? (path : String) : Option Resource :=
  match path with
  | "/livez" => some .liveness
  | "/readyz" => some .readiness
  | "/metrics" => some .metrics
  | _ => none

end Resource

namespace Request

/-- A text behind the first occurrence of `"://"`, if there is one. -/
def afterScheme? : List Char → Option (List Char)
  | ':' :: '/' :: '/' :: rest => some rest
  | _ :: rest => afterScheme? rest
  | [] => none

/-- What follows the host of a target, which may begin with a scheme. -/
def afterHost (target : List Char) : List Char :=
  match target with
  | '/' :: _ => target
  | _ => ((afterScheme? target).getD []).dropWhile fun c => c ≠ '/' && c ≠ '?' && c ≠ '#'

/-- The path that a request is about, without query and fragment.  If only the host is named,
it is the root. -/
def path (request : Request) : String :=
  match (afterHost request.target.toList).takeWhile fun c => c ≠ '?' && c ≠ '#' with
  | [] => "/"
  | path => String.ofList path

end Request

namespace Server

variable {σ : Type}

/-- The methods that every resource knows. -/
def knownMethods : String := "GET,HEAD"

/-- The media type of readiness reports. -/
def reportType : String := "application/json"

/-- The media type of the counters. -/
def countersType : String := "text/plain; version=0.0.4"

/-- An object with the given members. -/
def object (members : List (String × Payload)) : Payload :=
  Json.Ascii.openObject ::
    ((List.intersperse [Json.Ascii.comma] (members.map fun (name, value) =>
      Json.writeText name ++ Json.Ascii.colon :: value)).flatten ++ [Json.Ascii.closeObject])

/-- The report of storage that answers. -/
def readyReport (articles : Nat) : Payload :=
  object [("articles", Utf8.bytes (toString articles)), ("ready", Utf8.bytes "true")]

/-- The report of storage that does not answer. -/
def unreadyReport (error : StorageError) : Payload :=
  object [("error", Json.writeText error.message), ("ready", Utf8.bytes "false"),
    ("status", Utf8.bytes (toString error.status))]

/-- Whether the storage answers when it is asked for one article. -/
def readiness (articles : ArticleRepository σ) : Activity σ Response := do
  match ← articles.list { limit := 1 } with
  | .ok listing =>
    return { status := 200, contentType := reportType, body := readyReport listing.total }
  | .error error =>
    return { status := 503, contentType := reportType, body := unreadyReport error }

/-- The answer to reading a resource. -/
def read (articles : ArticleRepository σ) (counters : σ → String) (resource : Resource) :
    Activity σ Response :=
  match resource with
  | .liveness => return { status := 200 }
  | .readiness => readiness articles
  | .metrics => do
    let text ← .ofTask (Task.ofState fun state => (counters state, state))
    return { status := 200, contentType := countersType, body := Utf8.bytes text }

/-- The answer to a request. -/
def respond (articles : ArticleRepository σ) (counters : σ → String) (request : Request) :
    Activity σ Response :=
  match Resource.ofPath? request.path with
  | none => return { status := 404 }
  | some resource =>
    match request.method with
    | "GET" => read articles counters resource
    | "HEAD" => do
      let response ← read articles counters resource
      return { response with body := [] }
    | _ => return { status := 405, allow := knownMethods }

end Server

end Gazette
