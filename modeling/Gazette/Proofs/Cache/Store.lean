import Gazette.Cache.Store
import Gazette.Proofs.Outcome

/-!
# What a store makes of its backend

A call of the store comes to what the call of its backend comes to.  A failed read counts as an
absent entry, and so does a payload that is no value.
-/

set_option autoImplicit false

namespace Gazette

variable {α β γ : Type}

/-- The payload in the answer to a read.  A failed read holds none. -/
def payloadOf : Except CacheError (Option Payload) → Option Payload
  | .ok found => found
  | .error _ => none

namespace CacheStore

variable {store : CacheStore β} {key full : String} {codec : Codec α} {cache after : β}
  {answer : Except CacheError (Option Payload)}

/-- Every key but the empty one can be completed. -/
theorem fullKey_named (named : key ≠ "") :
    store.fullKey key = .ok (CacheKey.namespaced store.keyStart key) :=
  if_neg named

/-- A store works on a key that is not empty with its start before it. -/
theorem onKey_named (named : key ≠ "") (operation : String → Task β (Except CacheError γ)) :
    store.onKey key operation = operation (CacheKey.namespaced store.keyStart key) := by
  rw [onKey, fullKey_named named]

/-- The payload under a complete key, told by the read. -/
theorem outcome_payload?_of_get
    (got : (store.backend.get full).outcome cache = (.ok answer, after)) :
    (store.payload? full).outcome cache = (.ok (payloadOf answer), after) := by
  rw [payload?, Task.outcome_bind_of_ok got]
  cases answer <;> rfl

/-- The value under a complete key, told by the read. -/
theorem outcome_cached?_of_get
    (got : (store.backend.get full).outcome cache = (.ok answer, after)) :
    (store.cached? codec full).outcome cache =
      (.ok ((payloadOf answer).bind fun payload => (codec.decode payload).toOption), after) := by
  rw [cached?, Task.outcome_bind_of_ok (outcome_payload?_of_get got)]
  cases payloadOf answer <;> rfl

/-- Whether a value can be written or not, populating goes on. -/
theorem outcome_populate_of_set {value : α} {done : Except CacheError Unit}
    (wrote : (store.backend.set full (codec.encode value) store.entryTtl).outcome cache =
      (.ok done, after)) :
    (store.populate codec full value).outcome cache = (.ok (), after) := by
  rw [populate, Task.outcome_bind_of_ok wrote]
  rfl

end CacheStore

end Gazette
