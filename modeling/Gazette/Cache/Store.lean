import Gazette.Cache.Backend
import Gazette.Cache.Key
import Gazette.Json.Codec
import Gazette.Storage.Repository

/-!
# The typed store

A store puts typed values into a backend: it completes the keys, writes the payloads with a
codec and gives every entry the same time to live.  A fetch answers from the cache if it can,
and otherwise runs a generator and keeps its value.  Whatever goes wrong in the cache during
a fetch counts as an absent entry, so a fetch fails only if the generator does.
-/

set_option autoImplicit false

namespace Gazette

/-- A value that has been fetched, and whether that took no run of this caller's generator. -/
structure Fetched (α : Type) where
  value : α
  hit : Bool
  deriving DecidableEq

/-- A typed store over a backend.  No time to live means that entries do not expire. -/
structure CacheStore (β : Type) where
  backend : Backend β
  keyStart : String
  ttl : Duration

namespace CacheStore

variable {σ β α : Type}

/-- The complete key.  The empty key is not allowed. -/
def fullKey (store : CacheStore β) (key : String) : Except CacheError String :=
  if key = "" then .error .invalidKey else .ok (CacheKey.namespaced store.keyStart key)

/-- The time to live of an entry. -/
def entryTtl (store : CacheStore β) : Option Duration :=
  if store.ttl = 0 then none else some store.ttl

/-- A cache operation on a complete key. -/
def onKey (store : CacheStore β) (key : String)
    (operation : String → Task β (Except CacheError α)) : Task β (Except CacheError α) :=
  match store.fullKey key with
  | .error error => return .error error
  | .ok key => operation key

/-- A payload as a value, or the error that it is none. -/
def decoded (codec : Codec α) (payload : Payload) : Except CacheError α :=
  (codec.decode payload).mapError fun fault => .invalidValue fault.message

/-- The value under a key. -/
def get (store : CacheStore β) (codec : Codec α) (key : String) :
    Task β (Except CacheError α) :=
  store.onKey key fun key => do
    match ← store.backend.get key with
    | .error error => return .error error
    | .ok none => return .error .miss
    | .ok (some payload) => return decoded codec payload

/-- Puts a value under a key. -/
def set (store : CacheStore β) (codec : Codec α) (key : String) (value : α) :
    Task β (Except CacheError Unit) :=
  store.onKey key fun key => store.backend.set key (codec.encode value) store.entryTtl

/-- Whether there is an entry under a key. -/
def contains (store : CacheStore β) (key : String) : Task β (Except CacheError Bool) :=
  store.onKey key store.backend.contains

/-- Removes the entry under a key. -/
def delete (store : CacheStore β) (key : String) : Task β (Except CacheError Unit) :=
  store.onKey key store.backend.delete

/-- The payload under a complete key.  A failed read counts as an absent entry. -/
def payload? (store : CacheStore β) (key : String) : Task β (Option Payload) := do
  match ← store.backend.get key with
  | .ok found => return found
  | .error _ => return none

/-- The value under a complete key.  A payload that is no value counts as an absent entry. -/
def cached? (store : CacheStore β) (codec : Codec α) (key : String) : Task β (Option α) := do
  match ← store.payload? key with
  | some payload => return (codec.decode payload).toOption
  | none => return none

/-- Writes a value under a complete key, whether that succeeds or not. -/
def populate (store : CacheStore β) (codec : Codec α) (key : String) (value : α) : Task β Unit := do
  let _ ← store.backend.set key (codec.encode value) store.entryTtl
  return

/-- The value under a key, from the cache or else from the generator.  A caller without company
looks into the cache twice: once on its own, and once more when nobody else is found to be
fetching the key. -/
def fetch (store : CacheStore β) (codec : Codec α) (key : String) (generate : Answers σ α) :
    Activity (Layered σ β) (Except StorageError (Fetched α)) :=
  match store.fullKey key with
  | .error error => return .error (.cache error)
  | .ok key => do
    match ← .onCache (store.cached? codec key) with
    | some value => return .ok ⟨value, true⟩
    | none =>
      match ← .onCache (store.cached? codec key) with
      | some value => return .ok ⟨value, true⟩
      | none =>
        match ← generate.onSource with
        | .error error => return .error error
        | .ok value =>
          .onCache (store.populate codec key value)
          return .ok ⟨value, false⟩

end CacheStore

end Gazette
