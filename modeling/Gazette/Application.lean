import Gazette.Cache.Memory
import Gazette.Metrics
import Gazette.Repositories
import Gazette.Server
import Gazette.Settings
import Gazette.Storage.Opening

/-!
# The application

The settings decide whether the repositories work on the database directly or with a cache in
memory in front of it.  The application starts with the database at its path and with an
empty cache.
-/

set_option autoImplicit false

namespace Gazette

/-- The state of a running application. -/
abbrev Site := Layered Database TimedCache

/-- An application: its settings and its repositories. -/
structure Application where
  settings : Settings
  repositories : Repositories Site

namespace Application

/-- The cache in memory in front of the database, as the settings describe it. -/
def front (settings : Settings) : CacheFront TimedCache :=
  { store := { backend := TimedCache.backend, keyStart := settings.keyStart, ttl := settings.ttl } }

/-- The application with the given settings.  Lookups at the same time wait `patience` turns
for the database. -/
def ofSettings (settings : Settings) (patience : Nat) : Application where
  settings
  repositories :=
    let tagBatch := settings.tagBatch.toNat
    if settings.cacheEnabled then .cached (front settings) tagBatch patience else .plain tagBatch

/-- The state in which an application starts. -/
def start (settings : Settings) (files : FileTree) (clock : Nat → Instant) :
    Except StorageError Site :=
  (Database.openAt files clock settings.databasePath).map fun source =>
    { source, cache := { cache := .ofSize settings.cacheSize.toNat } }

/-- The counters of the lookups so far. -/
def counters (application : Application) (state : Site) : String :=
  Metrics.exposition application.settings.metricsNamespace state.observed

/-- The answer of the application to a request. -/
def respond (application : Application) (request : Request) : Activity Site Response :=
  Server.respond application.repositories.articles application.counters request

end Application

end Gazette
