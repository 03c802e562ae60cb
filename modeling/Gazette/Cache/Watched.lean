import Gazette.Cache.Backend

/-!
# Watched backends

A watched backend notes every call that reaches it.  It can also be disturbed: chosen
operations fail with a given error, and the answers of reads stay under way for a number of
turns.
-/

set_option autoImplicit false

namespace Gazette

/-- The operations of a backend. -/
inductive CacheOperation where
  | get
  | set
  | contains
  | delete
  deriving DecidableEq

/-- A call that has reached a backend. -/
inductive CacheCall where
  | get (key : String)
  | set (key : String) (value : Payload) (ttl : Option Duration)
  | contains (key : String)
  | delete (key : String)
  deriving DecidableEq

/-- A backend's state with the calls so far in their order, the operations that fail, and the
turns that the answers of the next reads take. -/
structure Watched (β : Type) where
  inner : β
  calls : List CacheCall := []
  failing : List (CacheOperation × CacheError) := []
  latencies : List Nat := []

namespace Watched

variable {β α : Type}

/-- Notes a call and carries it out, unless its operation fails. -/
def watch (operation : CacheOperation) (call : CacheCall) (task : Task β (Except CacheError α)) :
    Task (Watched β) (Except CacheError α) :=
  ExceptT.mk fun state =>
    let state := { state with calls := state.calls ++ [call] }
    match state.failing.lookup operation with
    | some error => (.ok (.error error), state)
    | none =>
      let (answer, inner) := task.outcome state.inner
      (answer, { state with inner })

/-- Whether an operation fails. -/
def isFailing (state : Watched β) (operation : CacheOperation) : Bool :=
  (state.failing.lookup operation).isSome

/-- The turns that the answer of the next read takes.  A failure is answered at once. -/
def latency (inner : Backend β) (state : Watched β) : Nat :=
  if state.isFailing .get then 0 else state.latencies.headD 0 + inner.latency state.inner

/-- Notes that a read has been answered. -/
def answered (state : Watched β) : Watched β :=
  if state.isFailing .get then state else { state with latencies := state.latencies.drop 1 }

/-- The watched form of a backend. -/
def backend (inner : Backend β) : Backend (Watched β) where
  get key := do
    let found ← watch .get (.get key) (inner.get key)
    modify answered
    return found
  set key value ttl := watch .set (.set key value ttl) (inner.set key value ttl)
  contains key := watch .contains (.contains key) (inner.contains key)
  delete key := watch .delete (.delete key) (inner.delete key)
  latency := latency inner

end Watched

end Gazette
