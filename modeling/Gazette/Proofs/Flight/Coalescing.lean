import Mathlib.Control.Monad.Basic
import Gazette.Proofs.Flight.OneValue

/-!
# Bursts for one key

A burst for one key, in front of a backend that is faithful to it, comes to its end in whatever
order the callers make their steps.  One generator runs if none fails, all fetches share its
value, and only the caller whose generator it was is told of a miss.
-/

set_option autoImplicit false

namespace Gazette

variable {σ β α : Type}

/-- The result of a caller in a phase is a value that its own generator has made. -/
def FetchPhase.isMiss : FetchPhase α → Bool
  | .returned (.ok fetched) => !fetched.hit
  | _ => false

/-- What a burst for one key comes to in whatever order its callers make their steps. -/
structure Coalesces (store : CacheStore β) (chronicle : Chronicle σ β α) : Prop where
  /-- Every step brings the burst nearer to its end. -/
  descends {i : Nat} {later : Burst σ β α} :
    store.stepBurst chronicle.burst i = some later → later.rank < chronicle.burst.rank
  /-- When there is no step left, every fetch has returned. -/
  ends : (∀ i, store.stepBurst chronicle.burst i = none) →
    ∀ caller ∈ chronicle.burst.callers, caller.phase.result?.isSome
  /-- At most one run of a generator has succeeded. -/
  one_success : chronicle.events.countP Event.isSuccess ≤ 1
  /-- Whoever's run has failed writes nothing into the cache. -/
  failed_silent {leader flight other : Nat} {error : StorageError} {produced : Option α}
      {value : α} : .ended leader flight (.error error) produced ∈ chronicle.events →
    .wrote leader other value ∉ chronicle.events
  /-- Every error that a fetch returns is that of some run. -/
  errors {caller : Caller σ α} {error : StorageError} : caller ∈ chronicle.burst.callers →
    caller.phase = .returned (.error error) →
      ∃ leader flight produced, .ended leader flight (.error error) produced ∈ chronicle.events
  /-- When every fetch has returned, there are as many misses as successful runs. -/
  misses : (∀ caller ∈ chronicle.burst.callers, caller.phase.result?.isSome) →
    chronicle.burst.callers.countP (fun caller => caller.phase.isMiss) =
      chronicle.events.countP Event.isSuccess
  /-- If no run has failed and every fetch has returned, exactly one generator has run, all
  fetches have returned its value, and exactly one of them is a miss. -/
  success : chronicle.burst.callers ≠ [] →
    (∀ caller ∈ chronicle.burst.callers, caller.phase.result?.isSome) →
    (∀ leader flight error produced,
      .ended leader flight (.error error) produced ∉ chronicle.events) →
    chronicle.events.countP Event.isBegin = 1 ∧
      (∃ value, ∀ caller ∈ chronicle.burst.callers,
        ∃ hit, caller.phase = .returned (.ok ⟨value, hit⟩)) ∧
      chronicle.burst.callers.countP (fun caller => caller.phase.isMiss) = 1

/-- A count of what only one element of a list has. -/
theorem countP_le_one {γ : Type} {p : γ → Bool} {items : List γ}
    (only : ∀ (i j : Nat) (first second : γ), items[i]? = some first → p first →
      items[j]? = some second → p second → i = j) : items.countP p ≤ 1 := by
  induction items with
  | nil => simp
  | cons item items ih =>
    rw [List.countP_cons]
    cases chosen : p item with
    | false =>
      have rest := ih (fun i j first second at_i has at_j also_has => by
        have same := only (i + 1) (j + 1) first second (by simpa using at_i) has
          (by simpa using at_j) also_has
        omega)
      simpa using rest
    | true =>
      have nobody : items.countP p = 0 := by
        rw [List.countP_eq_zero]
        intro other member has
        obtain ⟨j, at_j⟩ := List.getElem?_of_mem member
        have same := only 0 (j + 1) item other (by simp) chosen (by simpa using at_j) has
        omega
      simp [nobody]

/-- A caller with a result has made a value just if the result is a miss. -/
theorem FetchPhase.hasMade_of_result? {phase : FetchPhase α} (h : phase.result?.isSome) :
    phase.hasMade = phase.isMiss := by
  cases phase with
  | returned result =>
    cases result with
    | ok fetched =>
      obtain ⟨value, hit⟩ := fetched
      cases hit <;> rfl
    | error error => rfl
  | _ => cases h

namespace Coalesced

variable {store : CacheStore β} {key : String} {codec : Codec α} {fit : β → Prop}
  {shown : β → Option Payload} {first : Option Payload} {made : Option α}
  {chronicle : Chronicle σ β α}

/-- A burst that satisfies the invariants comes to what it should. -/
theorem coalesces (h : Coalesced key codec fit shown first made chronicle)
    (single : SingleFlight chronicle.burst) (once : RunsOnce chronicle) :
    Coalesces store chronicle where
  descends := CacheStore.rank_stepBurst
  ends stuck caller member := by
    obtain ⟨i, present⟩ := List.getElem?_of_mem member
    have ended := CacheStore.ended_of_stuck single stuck present
    exact (h.agrees present).result?_of_rank ended
  one_success := by
    rw [h.successes]
    apply countP_le_one
    intro i j caller other at_i makes at_j also_makes
    exact h.one_maker at_i makes at_j also_makes
  failed_silent := once.apart
  errors {caller error} member returned := by
    obtain ⟨i, present⟩ := List.getElem?_of_mem member
    have agrees := h.agrees present
    rw [returned] at agrees
    exact agrees
  misses returned := by
    rw [h.successes]
    apply List.countP_congr
    intro caller member
    rw [FetchPhase.hasMade_of_result? (returned caller member)]
  success some_caller returned unfailed := by
    have misses : chronicle.burst.callers.countP (fun caller => caller.phase.isMiss) =
        chronicle.burst.callers.countP fun caller => caller.phase.hasMade := by
      apply List.countP_congr
      intro caller member
      rw [FetchPhase.hasMade_of_result? (returned caller member)]
    have values : ∀ caller ∈ chronicle.burst.callers, ∃ fetched,
        caller.phase = .returned (.ok fetched) ∧ made = some fetched.value := by
      intro caller member
      obtain ⟨i, present⟩ := List.getElem?_of_mem member
      have agrees := h.agrees present
      cases phase : caller.phase with
      | returned result =>
        rw [phase] at agrees
        cases result with
        | ok fetched => exact ⟨fetched, rfl, agrees⟩
        | error error =>
          obtain ⟨leader, flight, produced, ended⟩ := agrees
          exact absurd ended (unfailed leader flight error produced)
      | _ =>
        have result := returned caller member
        rw [phase] at result
        cases result
    obtain ⟨someone, member⟩ := List.exists_mem_of_ne_nil _ some_caller
    obtain ⟨fetched, -, known⟩ := values someone member
    have one : chronicle.burst.callers.countP (fun caller => caller.phase.hasMade) = 1 := by
      obtain ⟨i, maker, present, makes⟩ := h.maker (by rw [known]; rfl)
      have positive : 0 < chronicle.burst.callers.countP fun caller => caller.phase.hasMade :=
        List.countP_pos_iff.mpr ⟨maker, List.mem_of_getElem? present, makes⟩
      have at_most := countP_le_one (p := fun caller : Caller σ α => caller.phase.hasMade)
        fun i j caller other at_i makes at_j also_makes =>
          h.one_maker at_i makes at_j also_makes
      omega
    refine ⟨?_, ⟨fetched.value, ?_⟩, by rw [misses, one]⟩
    · -- every run has ended, and every end is a success
      have idle : chronicle.burst.callers.countP (fun caller => caller.phase.isGenerating) = 0 := by
        rw [List.countP_eq_zero]
        intro caller member runs
        obtain ⟨other, phase, -⟩ := values caller member
        rw [phase] at runs
        cases runs
      have ends : chronicle.events.countP Event.isEnd = chronicle.events.countP Event.isSuccess := by
        apply List.countP_congr
        intro event member
        cases event with
        | ended leader flight outcome produced =>
          cases outcome with
          | ok payload => rfl
          | error error => exact absurd member (unfailed leader flight error produced)
        | _ => rfl
      rw [h.runs, idle, ends, h.successes, one]
    · intro caller member
      obtain ⟨⟨value, hit⟩, phase, also_known⟩ := values caller member
      rw [known, Option.some.injEq] at also_known
      exact ⟨hit, by rw [phase, also_known]⟩

end Coalesced

namespace CacheStore

variable {store : CacheStore β} {key : String} {codec : Codec α} {fit : β → Prop}
  {shown : β → Option Payload} {first : Option Payload} {state : Layered σ β}
  {moves : List (BurstMove σ β α)}

/-- Every quiet move keeps the invariant of a burst for one key. -/
theorem coalesced_record {made : Option α} {chronicle : Chronicle σ β α}
    {move : BurstMove σ β α} (nonempty : key ≠ "")
    (round : ∀ value, codec.decode (codec.encode value) = .ok value)
    (faithful : Faithful store (CacheKey.namespaced store.keyStart key) fit shown)
    (unreadable : ∀ payload, first = some payload → (codec.decode payload).toBool = false)
    (quiet : move.Quiet key codec fit shown)
    (h : Coalesced (CacheKey.namespaced store.keyStart key) codec fit shown first made chronicle)
    (single : SingleFlight chronicle.burst) (traced : Traced chronicle) :
    ∃ later, Coalesced (CacheKey.namespaced store.keyStart key) codec fit shown first later
      (store.record chronicle move) := by
  cases quiet with
  | @call generate answers =>
    refine ⟨made, ?_⟩
    simp only [record]
    rw [caller_of_ne nonempty]
    exact h.call_keeps rfl ⟨rfl, rfl, answers⟩
  | @advance i =>
    obtain same | ⟨caller, world, phase, present, step, after⟩ := store.record_advance chronicle i
    · exact ⟨made, by rwa [same]⟩
    · rw [after]
      exact h.step_keeps faithful present step single traced round unreadable
  | @outside change still =>
    obtain ⟨still_fits, same⟩ := still _ h.fits
    exact ⟨made, h.outside_keeps still_fits same⟩

/-- A caller whose generator always succeeds ends no run with an error. -/
theorem unfailed_step {i : Nat} {call : FetchCall σ α} {world after : BurstWorld σ β}
    {phase next : FetchPhase α} (step : CallerStep store i call world phase after next)
    (succeeds : call.Succeeds) (leader flight : Nat) (error : StorageError)
    (produced : Option α) :
    .ended leader flight (.error error) produced ∉ Event.ofStep i call.codec phase next := by
  intro ended
  obtain ⟨-, high, low⟩ := Event.failed_mem_ofStep ended
  cases step with
  | fail ran =>
    obtain ⟨value, source, made⟩ := succeeds world.state.source
    rw [Layered.outcome_onSource, made] at ran
    cases ran
  | produce | stopGenerating => cases low
  | _ => cases high

/-- When every generator that is called for succeeds, no run fails. -/
theorem unfailed_play (store : CacheStore β) (state : Layered σ β)
    (moves : List (BurstMove σ β α)) (succeed : ∀ call, .call call ∈ moves → call.Succeeds) :
    ∀ leader flight error produced, .ended leader flight (.error error) produced ∉
      (store.play moves (Chronicle.start state)).events := by
  suffices both : (∀ caller ∈ (store.play moves (Chronicle.start state)).burst.callers,
      caller.call.Succeeds) ∧ ∀ leader flight error produced,
      .ended leader flight (.error error) produced ∉
        (store.play moves (Chronicle.start state)).events from both.2
  apply play_induction fun chronicle =>
    (∀ caller ∈ chronicle.burst.callers, caller.call.Succeeds) ∧
      ∀ leader flight error produced,
        .ended leader flight (.error error) produced ∉ chronicle.events
  · simp [Chronicle.start]
  · rintro chronicle move member ⟨all, unfailed⟩
    cases move with
    | call call =>
      refine ⟨?_, by simpa [record] using unfailed⟩
      intro caller present
      obtain earlier | new := List.mem_append.mp present
      · exact all caller earlier
      · have own : caller = store.caller call := by simpa using new
        have same : caller.call.generate = call.generate := by
          rw [own]
          unfold CacheStore.caller
          split <;> rfl
        intro source
        rw [same]
        exact succeed call member source
    | advance i =>
      obtain same | ⟨caller, world, phase, present, step, after⟩ :=
        store.record_advance chronicle i
      · rw [same]
        exact ⟨all, unfailed⟩
      · rw [after]
        have succeeds := all caller (List.mem_of_getElem? present)
        refine ⟨?_, ?_⟩
        · intro other present
          obtain earlier | rfl := List.mem_or_eq_of_mem_set present
          · exact all other earlier
          · exact succeeds
        · intro leader flight error produced ended
          obtain past | now := List.mem_append.mp ended
          · exact unfailed leader flight error produced past
          · exact unfailed_step step succeeds leader flight error produced now
    | drop i =>
      refine ⟨?_, unfailed⟩
      intro other present
      change other ∈ (chronicle.burst.drop i).callers at present
      cases at_i : chronicle.burst.callers[i]? with
      | none =>
        rw [Burst.drop_eq_self at_i] at present
        exact all other present
      | some caller =>
        obtain ⟨flights, -, after⟩ := Burst.drop_eq at_i
        rw [after] at present
        obtain earlier | rfl := List.mem_or_eq_of_mem_set present
        · exact all other earlier
        · exact all caller (List.mem_of_getElem? at_i)
    | outside change => exact ⟨all, unfailed⟩

/-- Take a key that is not empty, values that can be read back from their payloads, a backend
that is faithful to the key, and a first payload that is missing or cannot be read.  However the
fetches of the key and the steps of their callers follow each other, nothing else writing the
entry and nobody being dropped, the burst comes to what it should; and no run fails if all
generators succeed. -/
theorem fetches_coalesce (nonempty : key ≠ "")
    (round : ∀ value, codec.decode (codec.encode value) = .ok value)
    (faithful : Faithful store (CacheKey.namespaced store.keyStart key) fit shown)
    (fits : fit state.cache)
    (unreadable : ∀ payload, shown state.cache = some payload →
      (codec.decode payload).toBool = false)
    (quiet : ∀ move ∈ moves, move.Quiet key codec fit shown) :
    Coalesces store (store.play moves (Chronicle.start state)) ∧
      ((∀ call, .call call ∈ moves → call.Succeeds) → ∀ leader flight error produced,
        .ended leader flight (.error error) produced ∉
          (store.play moves (Chronicle.start state)).events) := by
  have invariants : (∃ made, Coalesced (CacheKey.namespaced store.keyStart key) codec fit shown
        (shown state.cache) made (store.play moves (Chronicle.start state))) ∧
      SingleFlight (store.play moves (Chronicle.start state)).burst ∧
      Traced (store.play moves (Chronicle.start state)) := by
    apply play_induction fun chronicle =>
      (∃ made, Coalesced (CacheKey.namespaced store.keyStart key) codec fit shown
        (shown state.cache) made chronicle) ∧ SingleFlight chronicle.burst ∧ Traced chronicle
    · exact ⟨⟨none, .of_start fits⟩, .of_start state, .of_start state⟩
    · rintro chronicle move member ⟨⟨made, h⟩, single, traced⟩
      exact ⟨coalesced_record nonempty round faithful unreadable (quiet move member) h single
        traced, singleFlight_record single move, traced_record traced single move⟩
  obtain ⟨⟨made, h⟩, single, -⟩ := invariants
  exact ⟨h.coalesces single (runsOnce_play store state moves), unfailed_play store state moves⟩

/-- Two fetches of a key whose generators succeed come to what they should: the second caller
misses as well, and when it gets to lead a flight of its own it finds the value of the first. -/
theorem fetches_coalesce_two_callers :
    let calls := [Sample.call .boolean "k" (.ok true), Sample.call .boolean "k" (.ok false)]
    let chronicle := Sample.store.play
      (calls.map .call ++ [0, 1, 0, 0, 0, 0, 0, 0, 0, 0, 1, 1, 1, 1, 1].map .advance)
      (Chronicle.start (Sample.state 1))
    chronicle.burst.callers.map (fun caller => caller.phase.result?) =
        [some (.ok ⟨true, false⟩), some (.ok ⟨true, true⟩)] ∧
      Coalesces Sample.store chronicle ∧
      ∀ leader flight error produced,
        .ended leader flight (.error error) produced ∉ chronicle.events := by
  intro calls chronicle
  have succeed : ∀ call ∈ calls, call.Succeeds := by
    intro call member source
    simp only [calls, List.mem_cons, List.not_mem_nil, or_false] at member
    rcases member with rfl | rfl
    · exact ⟨true, source, rfl⟩
    · exact ⟨false, source, rfl⟩
  have round : ∀ value, Codec.boolean.decode (Codec.boolean.encode value) = .ok value := by
    intro value
    cases value <;> rfl
  have fits : 0 < (Sample.state 1).cache.cache.capacity ∧
      TimedCache.fitsClock (Sample.state 1).cache.now Sample.store.entryTtl := by
    refine ⟨by decide, ?_⟩
    intro time same
    cases same
  have unreadable : ∀ payload, (Sample.state 1).cache.live? "article-k" = some payload →
      (Codec.boolean.decode payload).toBool = false := by
    intro payload shown
    cases shown
  have quiet : ∀ move ∈ calls.map .call ++
      [0, 1, 0, 0, 0, 0, 0, 0, 0, 0, 1, 1, 1, 1, 1].map .advance,
      BurstMove.Quiet "k" .boolean
        (fun cache : TimedCache => 0 < cache.cache.capacity ∧
          TimedCache.fitsClock cache.now Sample.store.entryTtl)
        (fun cache => cache.live? "article-k") move := by
    intro move member
    rcases List.mem_append.mp member with called | stepped
    · obtain ⟨call, among, rfl⟩ := List.mem_map.mp called
      simp only [calls, List.mem_cons, List.not_mem_nil, or_false] at among
      rcases among with rfl | rfl
      · exact .call fun source => ⟨.ok true, source, rfl⟩
      · exact .call fun source => ⟨.ok false, source, rfl⟩
    · obtain ⟨i, -, rfl⟩ := List.mem_map.mp stepped
      exact .advance
  obtain ⟨coalesces, unfailed⟩ := fetches_coalesce (by decide : "k" ≠ "") round
    (TimedCache.faithful "article-" 0 "article-k") fits unreadable quiet
  refine ⟨by rfl, coalesces, unfailed ?_⟩
  intro call member
  apply succeed
  simpa using member

/-- A burst does not come to what it should if its key is empty, for then no generator runs and
every fetch is refused; nor if its values cannot be read back, for then the callers that share
the value get another one. -/
theorem fetches_not_coalesce :
    let refused := Sample.store.play [.call (Sample.call .boolean "" (.ok true))]
      (Chronicle.start (Sample.state 1))
    let call := Sample.call (.optional (.optional .boolean)) "k" (.ok (some none))
    let lossy := Sample.store.play
      ([.call call, .call call] ++ [0, 1, 0, 1, 0, 0, 0, 0, 0, 0, 0, 1, 1].map .advance)
      (Chronicle.start (Sample.state 1))
    (refused.burst.callers.map (fun caller => caller.phase.result?) =
        [some (.error (.cache .invalidKey))] ∧ ¬ Coalesces Sample.store refused) ∧
      lossy.burst.callers.map (fun caller => caller.phase.result?) =
        [some (.ok ⟨some none, false⟩), some (.ok ⟨none, true⟩)] ∧
      ¬ Coalesces Sample.store lossy := by
  intro refused call lossy
  have results : lossy.burst.callers.map (fun caller => caller.phase.result?) =
      [some (.ok ⟨some none, false⟩), some (.ok ⟨none, true⟩)] := by decide +kernel
  refine ⟨⟨by decide +kernel, ?_⟩, results, ?_⟩
  · intro coalesces
    have events : refused.events = [.called 0] := by rfl
    obtain ⟨one, -⟩ := coalesces.success (by decide +kernel) (by decide +kernel) (by simp [events])
    cases one
  · intro coalesces
    have unfailed := unfailed_play Sample.store (Sample.state 1) ([.call call, .call call] ++
      [0, 1, 0, 1, 0, 0, 0, 0, 0, 0, 0, 1, 1].map .advance) (by
        intro other member source
        have same : other = call := by simpa using member
        rw [same]
        exact ⟨some none, source, rfl⟩)
    obtain ⟨-, ⟨value, same⟩, -⟩ :=
      coalesces.success (by decide +kernel) (by decide +kernel) unfailed
    have one_value : ∀ fetched : Fetched (Option (Option Bool)),
        some (.ok fetched) ∈ lossy.burst.callers.map (fun caller => caller.phase.result?) →
          fetched.value = value := by
      intro fetched member
      obtain ⟨caller, present, result⟩ := List.mem_map.mp member
      obtain ⟨hit, phase⟩ := same caller present
      rw [phase] at result
      cases result
      rfl
    have first : some none = value := one_value ⟨some none, false⟩ (by simp [results])
    have second : none = value := one_value ⟨none, true⟩ (by simp [results])
    rw [← second] at first
    cases first

end CacheStore

end Gazette
