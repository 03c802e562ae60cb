import Mathlib.Data.List.Basic
import Gazette.Cache.Memory
import Gazette.Cache.Watched
import Gazette.Proofs.Outcome

/-!
# Calls of a backend

The four operations of a backend as data: a call is performed and comes to an answer or an error.
What a sequence of calls leaves of a backend is told one call at a time.
-/

set_option autoImplicit false

namespace Gazette

variable {α β γ : Type}

/-- What a backend answers to a call. -/
inductive CacheAnswer where
  | payload (found : Option Payload)
  | presence (found : Bool)
  | done
  deriving DecidableEq

namespace CacheCall

/-- A call as a task of a backend. -/
def perform (backend : Backend β) : CacheCall → Task β (Except CacheError CacheAnswer)
  | get key => do return (← backend.get key).map .payload
  | set key value ttl => do return (← backend.set key value ttl).map fun () => .done
  | contains key => do return (← backend.contains key).map .presence
  | delete key => do return (← backend.delete key).map fun () => .done

/-- The backend after a call. -/
def leave (backend : Backend β) (cache : β) (call : CacheCall) : β :=
  ((call.perform backend).outcome cache).2

end CacheCall

/-- The backend after some calls, one after the other. -/
def Backend.afterCalls (backend : Backend β) (cache : β) (calls : List CacheCall) : β :=
  calls.foldl (CacheCall.leave backend) cache

/-- A task whose answer is only turned into another one. -/
theorem Task.outcome_bind_pure (task : Task β γ) (use : γ → α) (cache : β) :
    (task >>= fun answer => pure (use answer)).outcome cache =
      ((task.outcome cache).1.map use, (task.outcome cache).2) := by
  rcases ran : task.outcome cache with ⟨cause | answer, after⟩
  · rw [Task.outcome_bind_of_error ran]
    rfl
  · rw [Task.outcome_bind_of_ok ran]
    rfl

namespace CacheCall

variable {backend : Backend β} {cache : β} {key : String} {value : Payload} {ttl : Option Duration}

/-- A get does what the get of the cache does. -/
theorem outcome_perform_get :
    ((get key).perform backend).outcome cache =
      (((backend.get key).outcome cache).1.map (Except.map .payload),
        ((backend.get key).outcome cache).2) :=
  Task.outcome_bind_pure _ _ _

/-- A set does what the set of the cache does. -/
theorem outcome_perform_set :
    ((set key value ttl).perform backend).outcome cache =
      (((backend.set key value ttl).outcome cache).1.map (Except.map fun () => .done),
        ((backend.set key value ttl).outcome cache).2) :=
  Task.outcome_bind_pure _ _ _

/-- An existence check does what that of the cache does. -/
theorem outcome_perform_contains :
    ((contains key).perform backend).outcome cache =
      (((backend.contains key).outcome cache).1.map (Except.map .presence),
        ((backend.contains key).outcome cache).2) :=
  Task.outcome_bind_pure _ _ _

/-- A delete does what the delete of the cache does. -/
theorem outcome_perform_delete :
    ((delete key).perform backend).outcome cache =
      (((backend.delete key).outcome cache).1.map (Except.map fun () => .done),
        ((backend.delete key).outcome cache).2) :=
  Task.outcome_bind_pure _ _ _

end CacheCall

namespace TimedCache

variable {state : TimedCache} {key : String} {value : Payload} {ttl : Option Duration}

/-- The cache in memory answers every read. -/
theorem outcome_get_call :
    ((CacheCall.get key).perform backend).outcome state =
      (.ok (.ok (.payload (state.cache.get state.now key).1)),
        { state with cache := (state.cache.get state.now key).2 }) :=
  rfl

/-- The cache in memory answers whether there is an entry. -/
theorem outcome_contains_call :
    ((CacheCall.contains key).perform backend).outcome state =
      (.ok (.ok (.presence (state.cache.contains state.now key).1)),
        { state with cache := (state.cache.contains state.now key).2 }) :=
  rfl

/-- The cache in memory answers every delete. -/
theorem outcome_delete_call :
    ((CacheCall.delete key).perform backend).outcome state =
      (.ok (.ok .done), { state with cache := state.cache.erase key }) :=
  rfl

/-- The cache in memory answers a write whose deadline the clock can show. -/
theorem outcome_set_call {deadline : Option Nat}
    (dated : MemoryCache.deadline state.now ttl = .ok deadline) :
    ((CacheCall.set key value ttl).perform backend).outcome state =
      (.ok (.ok .done), { state with cache := state.cache.put { key, value, deadline } }) := by
  have made : state.cache.set state.now key value ttl =
      .ok (state.cache.put { key, value, deadline }) := by
    rw [MemoryCache.set, dated]
    rfl
  have wrote : (backend.set key value ttl).outcome state =
      (.ok (.ok ()), { state with cache := state.cache.put { key, value, deadline } }) := by
    simp [backend, Task.outcome, ExceptT.run, ExceptT.mk, made]
  rw [CacheCall.outcome_perform_set, wrote]
  rfl

end TimedCache

end Gazette
