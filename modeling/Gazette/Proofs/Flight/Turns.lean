import Gazette.Cache.Rotation
import Gazette.Proofs.Flight.History

/-!
# Taking turns is one way to move

Fetches at the same time on a single thread take turns.  Whatever the pauses are, what they do is what
a chronicle tells of in which all of them are called first and then only steps are made.  So everything
that is known of all chronicles holds for them.
-/

set_option autoImplicit false

namespace Gazette

variable {σ β α : Type}

/-- The moves of some fetches that are called one after the other before the callers with some numbers
make a step each. -/
def BurstMove.script (calls : List (FetchCall σ α)) (steps : List Nat) : List (BurstMove σ β α) :=
  calls.map .call ++ steps.map .advance

namespace CacheStore

variable {store : CacheStore β} {state : Layered σ β} {calls : List (FetchCall σ α)}

/-- A step that a burst makes is recorded. -/
theorem burst_record_advance {chronicle : Chronicle σ β α} {i : Nat} {burst : Burst σ β α}
    (stepped : store.stepBurst chronicle.burst i = some burst) :
    (store.record chronicle (.advance i)).burst = burst := by
  obtain ⟨caller, world, phase, present, -, -⟩ := callerStep_of_stepBurst stepped
  simp [record, stepped, present]

/-- Whether a burst is one that some fetches of a store make by themselves. -/
def Scripted (store : CacheStore β) (state : Layered σ β) (calls : List (FetchCall σ α))
    (burst : Burst σ β α) : Prop :=
  ∃ steps, burst = (store.play (BurstMove.script calls steps) (Chronicle.start state)).burst

/-- Before anybody has made a step the fetches have been called. -/
theorem scripted_burst (store : CacheStore β) (state : Layered σ β) (calls : List (FetchCall σ α)) :
    store.Scripted state calls (store.burst state calls) := by
  refine ⟨[], ?_⟩
  rw [BurstMove.script, List.map_nil, List.append_nil, play_calls]

/-- The next step of a caller goes on with the script. -/
theorem Scripted.step {burst after : Burst σ β α} {i : Nat}
    (scripted : store.Scripted state calls burst) (stepped : store.stepBurst burst i = some after) :
    store.Scripted state calls after := by
  obtain ⟨steps, rfl⟩ := scripted
  refine ⟨steps ++ [i], ?_⟩
  rw [BurstMove.script, List.map_append, ← List.append_assoc, play, List.foldl_append]
  exact (burst_record_advance stepped).symm

end CacheStore

namespace Rotation

variable {store : CacheStore β} {state : Layered σ β} {calls : List (FetchCall σ α)}

/-- A turn of a caller goes on with the script. -/
theorem scripted_turn (i steps : Nat) {rotation : Rotation σ β α}
    (scripted : store.Scripted state calls rotation.burst) :
    store.Scripted state calls (rotation.turn store i steps).burst := by
  induction steps generalizing rotation with
  | zero => exact scripted
  | succ steps ih =>
    unfold turn
    split
    · split
      · exact scripted
      · split
        · unfold close
          split <;> exact scripted
        · split
          · exact scripted
          · rename_i burst stepped
            have next := scripted.step stepped
            dsimp only
            split
            · exact ih next
            · exact next
    · exact scripted

/-- A round of turns goes on with the script. -/
theorem scripted_round {rotation : Rotation σ β α}
    (scripted : store.Scripted state calls rotation.burst) :
    store.Scripted state calls (rotation.round store).burst := by
  unfold round
  generalize List.range rotation.burst.callers.length = order
  induction order generalizing rotation with
  | nil => exact scripted
  | cons i order ih =>
    rw [List.foldl_cons]
    apply ih
    split
    · exact scripted
    · exact scripted_turn i turnSteps scripted

/-- Rounds up to the end go on with the script. -/
theorem scripted_run (rotation : Rotation σ β α)
    (scripted : store.Scripted state calls rotation.burst) :
    store.Scripted state calls (rotation.run store).burst := by
  induction rotation using Rotation.run.induct store with
  | case1 rotation next progress ih =>
    rw [run, dif_pos progress]
    exact ih (scripted_round scripted)
  | case2 rotation next settled =>
    rw [run, dif_neg settled]
    exact scripted_round scripted

end Rotation

namespace CacheStore

/-- What fetches at the same time on a single thread leave behind and answer is what a chronicle tells
of in which they are called and then make some steps. -/
theorem fetchMany_follows_script (store : CacheStore β) (state : Layered σ β)
    (calls : List (FetchCall σ α × Pace)) :
    ∃ steps,
      let burst := (store.play (BurstMove.script (calls.map Prod.fst) steps)
        (Chronicle.start state)).burst
      ((store.fetchMany calls).outcome state).2 = burst.world.state ∧
        ∀ answers ended, ((store.fetchMany calls).outcome state).1 = .ok (answers, ended) →
          answers = burst.results.filterMap id := by
  obtain ⟨steps, same⟩ := Rotation.scripted_run (Rotation.start store state calls)
    (scripted_burst store state (calls.map Prod.fst))
  refine ⟨steps, ?_⟩
  intro burst
  have opened : (store.fetchMany calls).outcome state =
      if burst.isStopped then (.error .deadlineOverflow, burst.world.state)
      else (.ok (burst.results.filterMap id,
        ((Rotation.start store state calls).run store).ended), burst.world.state) := by
    have here : ((Rotation.start store state calls).run store).burst = burst := same
    rw [← here]
    rfl
  rw [opened]
  split
  · exact ⟨rfl, nofun⟩
  · refine ⟨rfl, ?_⟩
    rintro answers ended ⟨⟩
    rfl

end CacheStore

end Gazette
