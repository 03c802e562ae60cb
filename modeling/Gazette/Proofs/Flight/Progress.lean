import Gazette.Proofs.Flight.SingleFlight

/-!
# Progress of bursts

Every step of a caller brings the burst nearer to its end, and as long as somebody still waits
for a result somebody can make a step: whoever waits for a flight waits for its leader, and a
leader never waits.  A caller runs its generator at most once, and one whose generator has
failed never writes into the cache.
-/

set_option autoImplicit false

namespace Gazette

variable {σ β α : Type}

namespace FetchPhase

variable {phase : FetchPhase α} {flight : Nat}

/-- A caller that leads a flight still has steps to make. -/
theorem rank_of_led? (h : phase.led? = some flight) : 0 < phase.rank := by
  cases phase <;> simp_all [led?, rank]

/-- A caller that leads a flight is not waiting for one. -/
theorem not_joined_of_led? (h : phase.led? = some flight) {other : Nat} :
    phase ≠ .joined other := by
  rintro rfl
  cases h

end FetchPhase

namespace CallerStep

variable {store : CacheStore β} {i : Nat} {call : FetchCall σ α} {world after : BurstWorld σ β}
  {phase next : FetchPhase α}

/-- A step lowers the rank of the caller that makes it. -/
theorem rank_lt (step : CallerStep store i call world phase after next) :
    next.rank < phase.rank := by
  cases step <;> simp [FetchPhase.rank]

end CallerStep

namespace Burst

variable {burst : Burst σ β α} {i : Nat} {caller : Caller σ α}

/-- The rank of some callers one of which goes to another phase. -/
theorem rank_set (world : BurstWorld σ β) {callers : List (Caller σ α)} (next : FetchPhase α)
    (present : callers[i]? = some caller) :
    rank (⟨world, callers.set i { caller with phase := next }⟩ : Burst σ β α) +
        caller.phase.rank =
      rank (⟨world, callers⟩ : Burst σ β α) + next.rank := by
  simp only [rank]
  induction callers generalizing i with
  | nil => simp at present
  | cons first callers ih =>
    cases i with
    | zero =>
      simp only [List.getElem?_cons_zero, Option.some.injEq] at present
      subst present
      simp only [List.set_cons_zero, List.foldr_cons]
      omega
    | succ i =>
      have rest := ih (i := i) (by simpa using present)
      simp only [List.set_cons_succ, List.foldr_cons]
      omega

end Burst

namespace CacheStore

variable {store : CacheStore β} {burst later : Burst σ β α} {i : Nat}

/-- Every step lowers the rank of the burst, so no burst goes on for ever. -/
theorem rank_stepBurst (h : store.stepBurst burst i = some later) : later.rank < burst.rank := by
  obtain ⟨caller, world, phase, present, step, rfl⟩ := callerStep_of_stepBurst h
  have changed := Burst.rank_set world phase present
  have lower := step.rank_lt
  have same : burst.rank = Burst.rank (⟨world, burst.callers⟩ : Burst σ β α) := rfl
  omega

/-- A caller that is in no flight of somebody else, and that has not ended, can make a step. -/
theorem isSome_stepCaller (store : CacheStore β) (call : FetchCall σ α)
    (world : BurstWorld σ β) {phase : FetchPhase α} (goes_on : 0 < phase.rank)
    (free : ∀ flight, phase = .joined flight →
      world.flights.states[flight]? = some .idle ∨
        ∃ outcome, world.flights.states[flight]? = some (.settled outcome)) :
    (store.stepCaller i call world phase).isSome := by
  cases phase with
  | called => simp only [stepCaller]; split <;> rfl
  | missed => rfl
  | joined flight =>
    simp only [stepCaller]
    obtain idle | ⟨outcome, settled⟩ := free flight rfl
    · simp [idle]
    · simp [settled]
  | leading flight => simp only [stepCaller]; split <;> rfl
  | checked flight found => cases found <;> rfl
  | generating flight => simp only [stepCaller]; split <;> rfl
  | populating flight value => simp only [stepCaller]; split <;> rfl
  | populated flight value => rfl
  | leaving flight outcome produced => rfl
  | returned result => simp [FetchPhase.rank] at goes_on
  | stopped => simp [FetchPhase.rank] at goes_on
  | dropped => simp [FetchPhase.rank] at goes_on

/-- When nobody can make a step, everybody has a result or has been lost. -/
theorem ended_of_stuck (h : SingleFlight burst) (stuck : ∀ i, store.stepBurst burst i = none)
    {caller : Caller σ α} (present : burst.callers[i]? = some caller) :
    caller.phase.rank = 0 := by
  have waits : ∀ {j : Nat} {other : Caller σ α}, burst.callers[j]? = some other →
      store.stepCaller j other.call burst.world other.phase = none := by
    intro j other at_j
    have none_left := stuck j
    simp only [stepBurst, at_j, Option.bind_eq_bind, Option.bind_some] at none_left
    cases made : store.stepCaller j other.call burst.world other.phase with
    | none => rfl
    | some result => simp [made] at none_left
  -- a leader never waits
  have leads_no_flight : ∀ {j flight : Nat} {other : Caller σ α},
      burst.callers[j]? = some other → other.phase.led? ≠ some flight := by
    intro j flight other at_j leads
    have moves := store.isSome_stepCaller (i := j) other.call burst.world
      (FetchPhase.rank_of_led? leads)
      (fun _ joined => absurd joined (FetchPhase.not_joined_of_led? leads))
    rw [waits at_j] at moves
    cases moves
  apply Nat.eq_zero_of_not_pos
  intro goes_on
  have moves := store.isSome_stepCaller (i := i) caller.call burst.world goes_on
  rw [waits present] at moves
  apply absurd (moves _) (by simp)
  intro flight joined
  have inside := h.exists_joined present (by rw [joined]; rfl)
  cases state : burst.world.flights.states[flight] with
  | idle => exact .inl (by rw [List.getElem?_eq_getElem inside, state])
  | settled outcome => exact .inr ⟨outcome, by rw [List.getElem?_eq_getElem inside, state]⟩
  | led leader =>
    obtain ⟨other, at_leader, leads⟩ :=
      h.leader (by rw [List.getElem?_eq_getElem inside, state] :
        burst.world.flights.states[flight]? = some (.led leader))
    exact absurd leads (leads_no_flight at_leader)

end CacheStore

/-- A caller has come so far that it can make only some more steps. -/
def Burst.Past (burst : Burst σ β α) (i steps : Nat) : Prop :=
  ∃ caller, burst.callers[i]? = some caller ∧ caller.phase.rank ≤ steps

namespace Burst.Past

variable {burst : Burst σ β α} {i j steps : Nat} {caller : Caller σ α} {next : FetchPhase α}
  {world : BurstWorld σ β}

/-- A caller stays where it is when another one is called. -/
theorem append (h : burst.Past i steps) (newcomer : Caller σ α) :
    Past (⟨world, burst.callers ++ [newcomer]⟩ : Burst σ β α) i steps := by
  obtain ⟨caller, present, low⟩ := h
  have inside := (List.getElem?_eq_some_iff.mp present).1
  exact ⟨caller, by rw [List.getElem?_append_left inside, present], low⟩

/-- Nobody goes back. -/
theorem set (h : burst.Past j steps) (present : burst.callers[i]? = some caller)
    (lower : next.rank ≤ caller.phase.rank) :
    Past (⟨world, burst.callers.set i { caller with phase := next }⟩ : Burst σ β α) j steps := by
  obtain ⟨other, at_j, low⟩ := h
  by_cases same : i = j
  · subst same
    rw [present, Option.some.injEq] at at_j
    subst at_j
    have inside := (List.getElem?_eq_some_iff.mp present).1
    exact ⟨{ caller with phase := next }, List.getElem?_set_self inside, Nat.le_trans lower low⟩
  · exact ⟨other, by rw [List.getElem?_set_ne same, at_j], low⟩

end Burst.Past

namespace Event

variable {i j flight : Nat} {codec : Codec α} {before after : FetchPhase α}

/-- A generator that ends with an error has been running. -/
theorem failed_mem_ofStep {error : StorageError} {produced : Option α}
    (h : .ended j flight (.error error) produced ∈ ofStep i codec before after) :
    j = i ∧ before.rank = 4 ∧ after.rank = 1 := by
  unfold ofStep at h
  split at h <;> simp_all [FetchPhase.rank]

/-- A caller that writes has made a value. -/
theorem wrote_mem_ofStep {value : α} (h : .wrote j flight value ∈ ofStep i codec before after) :
    j = i ∧ before.rank = 3 ∧ after.rank = 2 := by
  unfold ofStep at h
  split at h <;> simp_all [FetchPhase.rank]

end Event

/-- The invariant that a caller runs its generator at most once: whoever has failed is about to
leave or has left, whoever has written is past its writing, and nobody has done both. -/
structure RunsOnce (chronicle : Chronicle σ β α) : Prop where
  failed {i flight : Nat} {error : StorageError} {produced : Option α} :
    .ended i flight (.error error) produced ∈ chronicle.events → chronicle.burst.Past i 1
  wrote {i flight : Nat} {value : α} :
    .wrote i flight value ∈ chronicle.events → chronicle.burst.Past i 2
  apart {i flight other : Nat} {error : StorageError} {produced : Option α} {value : α} :
    .ended i flight (.error error) produced ∈ chronicle.events →
      .wrote i other value ∉ chronicle.events

namespace RunsOnce

variable {store : CacheStore β} {chronicle : Chronicle σ β α} {i : Nat} {caller : Caller σ α}
  {world : BurstWorld σ β} {next : FetchPhase α}

/-- A step of a caller keeps the invariant. -/
theorem step_keeps (h : RunsOnce chronicle) (present : chronicle.burst.callers[i]? = some caller)
    (step : CallerStep store i caller.call chronicle.burst.world caller.phase world next) :
    RunsOnce ⟨⟨world, chronicle.burst.callers.set i { caller with phase := next }⟩,
      chronicle.events ++ Event.ofStep i caller.call.codec caller.phase next⟩ := by
  have lower := Nat.le_of_lt step.rank_lt
  have inside := (List.getElem?_eq_some_iff.mp present).1
  have here : (chronicle.burst.callers.set i { caller with phase := next })[i]? =
      some { caller with phase := next } := List.getElem?_set_self inside
  -- a caller that still has to make many steps has not come far before either
  have behind : ∀ {steps : Nat}, chronicle.burst.Past i steps → caller.phase.rank ≤ steps := by
    rintro steps ⟨other, at_i, low⟩
    rw [present, Option.some.injEq] at at_i
    subst at_i
    exact low
  constructor
  case failed =>
    intro j flight error produced ended
    obtain past | now := List.mem_append.mp ended
    · exact (h.failed past).set present lower
    · obtain ⟨rfl, -, low⟩ := Event.failed_mem_ofStep now
      exact ⟨_, here, Nat.le_of_eq low⟩
  case wrote =>
    intro j flight value wrote
    obtain past | now := List.mem_append.mp wrote
    · exact (h.wrote past).set present lower
    · obtain ⟨rfl, -, low⟩ := Event.wrote_mem_ofStep now
      exact ⟨_, here, Nat.le_of_eq low⟩
  case apart =>
    intro j flight other error produced value ended wrote
    obtain ended_before | ends := List.mem_append.mp ended
    · obtain wrote_before | writes := List.mem_append.mp wrote
      · exact h.apart ended_before wrote_before
      · obtain ⟨rfl, high, -⟩ := Event.wrote_mem_ofStep writes
        have low := behind (h.failed ended_before)
        omega
    · obtain ⟨rfl, high, low⟩ := Event.failed_mem_ofStep ends
      obtain wrote_before | writes := List.mem_append.mp wrote
      · have low := behind (h.wrote wrote_before)
        omega
      · obtain ⟨-, other_high, -⟩ := Event.wrote_mem_ofStep writes
        omega

/-- Every move keeps the invariant. -/
theorem record_keeps (h : RunsOnce chronicle) (move : BurstMove σ β α) :
    RunsOnce (store.record chronicle move) := by
  cases move with
  | call call =>
    constructor
    · intro i flight error produced ended
      have before : .ended i flight (.error error) produced ∈ chronicle.events := by
        simpa [CacheStore.record] using ended
      exact (h.failed before).append _
    · intro i flight value wrote
      have before : .wrote i flight value ∈ chronicle.events := by
        simpa [CacheStore.record] using wrote
      exact (h.wrote before).append _
    · intro i flight other error produced value ended
      have before : .ended i flight (.error error) produced ∈ chronicle.events := by
        simpa [CacheStore.record] using ended
      have apart : .wrote i other value ∉ chronicle.events := h.apart before
      simpa [CacheStore.record] using apart
  | advance i =>
    obtain same | ⟨caller, world, phase, present, step, made⟩ :=
      store.record_advance chronicle i
    · rwa [same]
    · rw [made]
      exact h.step_keeps present step
  | drop i =>
    show RunsOnce { chronicle with burst := chronicle.burst.drop i }
    cases present : chronicle.burst.callers[i]? with
    | none => rwa [Burst.drop_eq_self present]
    | some caller =>
      obtain ⟨flights, -, made⟩ := Burst.drop_eq present
      rw [made]
      exact ⟨fun ended => (h.failed ended).set present (Nat.zero_le _),
        fun wrote => (h.wrote wrote).set present (Nat.zero_le _), h.apart⟩
  | outside change => exact ⟨h.failed, h.wrote, h.apart⟩

end RunsOnce

/-- The invariant holds all the time. -/
theorem CacheStore.runsOnce_play (store : CacheStore β) (state : Layered σ β)
    (moves : List (BurstMove σ β α)) : RunsOnce (store.play moves (Chronicle.start state)) := by
  apply play_induction
  · constructor <;> simp [Chronicle.start]
  · intro chronicle move _ h
    exact h.record_keeps move

end Gazette
