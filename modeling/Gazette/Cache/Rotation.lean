import Gazette.Cache.Burst

/-!
# Rotations

A burst on a single thread.  The callers take turns in their order, round after round.  In
its turn a caller makes steps until it has to wait for another caller, gives up its turn, or
has its result.  A caller gives up turns before it begins, while the answer of a read is
under way, and while its generator is running.
-/

set_option autoImplicit false

namespace Gazette

/-- How many turns a caller gives up before it begins, and while its generator is running. -/
structure Pace where
  delay : Nat := 0
  yields : Nat := 0

/-- A caller's pace and the turns that it is going to give up next. -/
structure Turn where
  pace : Pace
  pause : Nat

/-- A burst whose callers take turns.  Those that have ended are listed in the order in which
they did. -/
structure Rotation (σ β α : Type) where
  burst : Burst σ β α
  turns : List Turn
  ended : List Nat := []

namespace Rotation

variable {σ β α : Type}

/-- A rotation that is about to begin. -/
def start (store : CacheStore β) (state : Layered σ β) (calls : List (FetchCall σ α × Pace)) :
    Rotation σ β α :=
  { burst := store.burst state (calls.map Prod.fst)
    turns := calls.map fun call => ⟨call.2, call.2.delay⟩ }

/-- The turns that are going to be given up. -/
def pauses (rotation : Rotation σ β α) : Nat :=
  rotation.turns.foldr (fun turn total => turn.pause + total) 0

/-- The turns that a caller gives up after a step from one phase to another, which it has made
at a time when answers of reads took `latency` turns. -/
def pauseBetween (latency yields : Nat) (before after : FetchPhase α) : Nat :=
  match before with
  | .called | .leading _ => latency
  | .checked _ _ => if after.isGenerating then yields else 0
  | _ => 0

/-- Lists a caller as ended. -/
def close (rotation : Rotation σ β α) (i : Nat) : Rotation σ β α :=
  if i ∈ rotation.ended then rotation else { rotation with ended := rotation.ended ++ [i] }

/-- The turn of the caller with number `i`, of at most `steps` steps. -/
def turn (store : CacheStore β) (i : Nat) : Nat → Rotation σ β α → Rotation σ β α
  | 0, rotation => rotation
  | steps + 1, rotation =>
    match rotation.turns[i]?, rotation.burst.callers[i]? with
    | some turn, some caller =>
      if turn.pause > 0 then
        { rotation with turns := rotation.turns.set i { turn with pause := turn.pause - 1 } }
      else if caller.phase.result?.isSome then rotation.close i
      else
        match store.stepBurst rotation.burst i with
        | none => rotation
        | some burst =>
          let after := (burst.callers.map Caller.phase)[i]?.getD caller.phase
          let latency := store.backend.latency rotation.burst.world.state.cache
          match pauseBetween latency turn.pace.yields caller.phase after with
          | 0 => Rotation.turn store i steps { rotation with burst }
          | pause + 1 =>
            { rotation with burst, turns := rotation.turns.set i { turn with pause } }
    | _, _ => rotation

/-- The number of steps that a turn has room for. -/
def turnSteps : Nat := 10

/-- One turn of every caller.  As soon as a caller has stopped nobody moves any more. -/
def round (store : CacheStore β) (rotation : Rotation σ β α) : Rotation σ β α :=
  (List.range rotation.burst.callers.length).foldl
    (fun rotation i =>
      if rotation.burst.isStopped then rotation else rotation.turn store i turnSteps) rotation

/-- Rounds until one brings nobody forward. -/
def run (store : CacheStore β) (rotation : Rotation σ β α) : Rotation σ β α :=
  let next := rotation.round store
  if _progress : next.burst.rank < rotation.burst.rank ∨
      (next.burst.rank = rotation.burst.rank ∧ next.pauses < rotation.pauses) then
    next.run store
  else next
termination_by (rotation.burst.rank, rotation.pauses)
decreasing_by
  rcases _progress with h | ⟨h, h'⟩
  · exact Prod.Lex.left _ _ h
  · exact h ▸ Prod.Lex.right _ h'

end Rotation

/-- The results of some fetches at the same time on a single thread, and the numbers of the
callers in the order in which they ended. -/
def CacheStore.fetchMany {σ β α : Type} (store : CacheStore β)
    (calls : List (FetchCall σ α × Pace)) :
    Task (Layered σ β) (List (Except StorageError (Fetched α)) × List Nat) :=
  ExceptT.mk fun state =>
    let rotation := (Rotation.start store state calls).run store
    let state := rotation.burst.world.state
    if rotation.burst.isStopped then (.error .deadlineOverflow, state)
    else (.ok (rotation.burst.results.filterMap id, rotation.ended), state)

end Gazette
