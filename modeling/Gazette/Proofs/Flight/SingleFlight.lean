import Gazette.Proofs.Flight.History

/-!
# One flight at a time

The invariant of the flight protocol: a flight that has not been settled and that somebody
has joined is the one registered for its key.  Two callers that lead flights of one key
therefore lead the same flight, and a flight has one leader.  So two generators never run for
one key at the same time.  The invariant says nothing about what the cache answers, and so it
holds for every cache; it also survives callers that are dropped.
-/

set_option autoImplicit false

namespace Gazette

variable {σ β α : Type}

/-- The invariant of the flights of a burst. -/
structure SingleFlight (burst : Burst σ β α) : Prop where
  /-- A flight that a caller leads is in the state that says so. -/
  led {i : Nat} {caller : Caller σ α} {flight : Nat} :
    burst.callers[i]? = some caller → caller.phase.led? = some flight →
      burst.world.flights.states[flight]? = some (.led i)
  /-- The leader that the state of a flight names leads it. -/
  leader {i flight : Nat} : burst.world.flights.states[flight]? = some (.led i) →
    ∃ caller, burst.callers[i]? = some caller ∧ caller.phase.led? = some flight
  /-- A caller that is leaving a flight knows its outcome. -/
  settled {i : Nat} {caller : Caller σ α} {flight : Nat}
      {outcome : Except StorageError Payload} {produced : Option α} :
    burst.callers[i]? = some caller → caller.phase = .leaving flight outcome produced →
      burst.world.flights.states[flight]? = some (.settled outcome)
  /-- A flight that has been joined exists. -/
  exists_joined {i : Nat} {caller : Caller σ α} {flight : Nat} :
    burst.callers[i]? = some caller → caller.phase.flight? = some flight →
      flight < burst.world.flights.states.length
  /-- A flight that is registered exists. -/
  exists_registered {key : String} {flight : Nat} :
    burst.world.flights.flight? key = some flight → flight < burst.world.flights.states.length
  /-- A flight that has been joined and not been settled is registered for the key. -/
  registered {i : Nat} {caller : Caller σ α} {flight : Nat} :
    burst.callers[i]? = some caller → caller.phase.flight? = some flight →
      (∀ outcome, burst.world.flights.states[flight]? ≠ some (.settled outcome)) →
      burst.world.flights.flight? caller.call.key = some flight
  /-- A flight is registered under one key only. -/
  one_key {key other : String} {flight : Nat} :
    burst.world.flights.flight? key = some flight →
      burst.world.flights.flight? other = some flight → key = other
  /-- Whoever has joined the flight of a key fetches that key. -/
  keyed {i : Nat} {caller : Caller σ α} {key : String} {flight : Nat} :
    burst.world.flights.flight? key = some flight → burst.callers[i]? = some caller →
      caller.phase.flight? = some flight → caller.call.key = key
  /-- A registered flight has been joined by somebody who has not left it, unless somebody has
  been lost. -/
  held {key : String} {flight : Nat} : burst.world.flights.flight? key = some flight →
    ∃ (i : Nat) (caller : Caller σ α), burst.callers[i]? = some caller ∧
      (caller.phase.flight? = some flight ∨ caller.phase.isLost)

namespace SingleFlight

variable {burst : Burst σ β α} {i : Nat} {caller : Caller σ α} {next : FetchPhase α}
  {flights : Flights}

/-- The burst in which a caller has gone to another phase, with other flights. -/
abbrev moved (burst : Burst σ β α) (i : Nat) (caller : Caller σ α) (next : FetchPhase α)
    (flights : Flights) (state : Layered σ β) : Burst σ β α :=
  ⟨⟨state, flights⟩, burst.callers.set i { caller with phase := next }⟩

/-- The callers after a caller has gone to another phase. -/
theorem getElem?_moved (present : burst.callers[i]? = some caller) (next : FetchPhase α)
    (flights : Flights) (state : Layered σ β) (j : Nat) :
    (moved burst i caller next flights state).callers[j]? =
      if i = j then some { caller with phase := next } else burst.callers[j]? := by
  have inside : i < burst.callers.length := (List.getElem?_eq_some_iff.mp present).1
  simp [List.getElem?_set, inside]

/-- Two leaders of one flight are one caller. -/
theorem leader_unique (h : SingleFlight burst) {j flight : Nat} {other : Caller σ α}
    (first : burst.callers[i]? = some caller) (second : burst.callers[j]? = some other)
    (leads : caller.phase.led? = some flight) (also_leads : other.phase.led? = some flight) :
    i = j := by
  have one := h.led first leads
  have two := h.led second also_leads
  rw [one] at two
  simpa using two

/-- A flight with a leader is registered for the key that its leader fetches. -/
theorem registered_of_led (h : SingleFlight burst) {flight : Nat}
    (present : burst.callers[i]? = some caller) (leads : caller.phase.led? = some flight) :
    burst.world.flights.flight? caller.call.key = some flight := by
  apply h.registered present (FetchPhase.flight?_of_led? leads)
  intro outcome settled
  rw [h.led present leads] at settled
  cases settled

open FetchPhase

variable (h : SingleFlight burst) (present : burst.callers[i]? = some caller)
  (move : FlightMove i caller.call.key caller.phase burst.world.flights next flights)
  (state : Layered σ β)

include h present move

/-- Whoever leads a flight after a move is the leader that its state names. -/
theorem led_move {j flight : Nat} {other : Caller σ α}
    (at_j : (moved burst i caller next flights state).callers[j]? = some other)
    (leads : other.phase.led? = some flight) :
    flights.states[flight]? = some (.led j) := by
  rw [getElem?_moved present] at at_j
  have led := @h.led
  obtain ⟨call, phase⟩ := caller
  cases move with
  | stay before here after => grind
  | join =>
    have kept := fun flight state => @Flights.states_join burst.world.flights flight state
    grind [FetchPhase.led?]
  | lead idle => grind [FetchPhase.led?]
  | share settled => grind [FetchPhase.led?]
  | work before after => grind
  | settle before => grind [FetchPhase.led?]
  | abandon before after => grind
  | leave => grind [FetchPhase.led?]
  | quit before after => grind

/-- The leader that the state of a flight names after a move leads it. -/
theorem leader_move {j flight : Nat} (leads : flights.states[flight]? = some (.led j)) :
    ∃ other, (moved burst i caller next flights state).callers[j]? = some other ∧
      other.phase.led? = some flight := by
  rw [getElem?_moved present]
  have led := @h.led
  have leader := @h.leader
  obtain ⟨call, phase⟩ := caller
  cases move with
  | stay before here after => grind
  | join =>
    have before := Flights.states_of_join leads
    grind [FetchPhase.led?]
  | lead idle => grind [FetchPhase.led?]
  | share settled => grind [FetchPhase.led?]
  | work before after => grind
  | settle before => grind [FetchPhase.led?]
  | abandon before after => grind
  | leave => grind [FetchPhase.led?]
  | quit before after => grind

/-- Whoever is leaving a flight after a move knows its outcome. -/
theorem settled_move {j flight : Nat} {other : Caller σ α}
    {outcome : Except StorageError Payload} {produced : Option α}
    (at_j : (moved burst i caller next flights state).callers[j]? = some other)
    (leaves : other.phase = .leaving flight outcome produced) :
    flights.states[flight]? = some (.settled outcome) := by
  rw [getElem?_moved present] at at_j
  have led := @h.led
  have settled := @h.settled
  have exists_joined := @h.exists_joined
  obtain ⟨call, phase⟩ := caller
  cases move with
  | stay before here after => grind [FetchPhase.flight?]
  | join =>
    have kept := fun flight state => @Flights.states_join burst.world.flights flight state
    grind
  | lead idle => grind
  | share => grind
  | work before after => grind [FetchPhase.led?]
  | settle before => grind [FetchPhase.led?]
  | abandon before after => grind [FetchPhase.isLost]
  | leave => grind
  | quit before after => grind [FetchPhase.isLost]

/-- A flight that somebody is in after a move exists. -/
theorem exists_joined_move {j flight : Nat} {other : Caller σ α}
    (at_j : (moved burst i caller next flights state).callers[j]? = some other)
    (has_joined : other.phase.flight? = some flight) : flight < flights.states.length := by
  rw [getElem?_moved present] at at_j
  have exists_joined := @h.exists_joined
  have exists_registered := @h.exists_registered
  obtain ⟨call, phase⟩ := caller
  cases move with
  | stay before here after => grind
  | join =>
    have longer := Flights.length_join burst.world.flights call.key
    have cases_join := Flights.join_cases burst.world.flights call.key
    grind [FetchPhase.flight?, FetchPhase.led?]
  | lead idle => grind [FetchPhase.flight?, FetchPhase.led?]
  | share settled => grind [FetchPhase.flight?, FetchPhase.led?]
  | work before after => grind
  | settle before => grind [FetchPhase.flight?, FetchPhase.led?]
  | abandon before after => grind
  | leave => grind [FetchPhase.flight?, FetchPhase.led?]
  | quit before after => grind

omit present in
/-- A flight that is registered after a move exists. -/
theorem exists_registered_move {key : String} {flight : Nat}
    (registered : flights.flight? key = some flight) : flight < flights.states.length := by
  obtain ⟨call, phase⟩ := caller
  cases move with
  | stay | share | work | quit => exact h.exists_registered registered
  | join =>
    have longer := Flights.length_join burst.world.flights call.key
    have exists_registered := @h.exists_registered
    have cases_join := Flights.join_cases burst.world.flights call.key
    rw [Flights.flight?_join] at registered
    grind
  | lead | settle | abandon => simpa using h.exists_registered registered
  | leave => simpa using h.exists_registered (Flights.flight?_of_leave registered)

omit present in
/-- A flight is registered under one key only after a move. -/
theorem one_key_move {key other : String} {flight : Nat}
    (registered : flights.flight? key = some flight)
    (also_registered : flights.flight? other = some flight) : key = other := by
  obtain ⟨call, phase⟩ := caller
  cases move with
  | stay | share | work | quit | lead | settle | abandon =>
    exact h.one_key registered also_registered
  | join =>
    have one_key := @h.one_key
    have exists_registered := @h.exists_registered
    have cases_join := Flights.join_cases burst.world.flights call.key
    rw [Flights.flight?_join] at registered also_registered
    grind
  | leave =>
    exact h.one_key (Flights.flight?_of_leave registered)
      (Flights.flight?_of_leave also_registered)

/-- A flight that is not settled after a move is registered if somebody is in it. -/
theorem registered_move {j flight : Nat} {other : Caller σ α}
    (at_j : (moved burst i caller next flights state).callers[j]? = some other)
    (has_joined : other.phase.flight? = some flight)
    (unsettled : ∀ outcome, flights.states[flight]? ≠ some (.settled outcome)) :
    flights.flight? other.call.key = some flight := by
  rw [getElem?_moved present] at at_j
  have settled := @h.settled
  have registered := @h.registered
  obtain ⟨call, phase⟩ := caller
  cases move with
  | stay before here after => grind
  | join =>
    have kept := fun flight state => @Flights.states_join burst.world.flights flight state
    have cases_join := Flights.join_cases burst.world.flights call.key
    grind [FetchPhase.flight?, FetchPhase.led?, Flights.flight?_join]
  | lead idle => grind [FetchPhase.flight?, FetchPhase.led?]
  | share settled => grind [FetchPhase.flight?, FetchPhase.led?]
  | work before after => grind
  | settle before =>
    grind [FetchPhase.flight?, FetchPhase.led?]
  | abandon before after =>
    have led := @h.led
    grind
  | leave =>
    have left := Flights.flight?_leave burst.world.flights call.key
    grind [FetchPhase.flight?, FetchPhase.led?]
  | quit before after => grind

/-- Whoever is in the flight of a key after a move fetches that key. -/
theorem keyed_move {j flight : Nat} {key : String} {other : Caller σ α}
    (registered : flights.flight? key = some flight)
    (at_j : (moved burst i caller next flights state).callers[j]? = some other)
    (has_joined : other.phase.flight? = some flight) : other.call.key = key := by
  rw [getElem?_moved present] at at_j
  have keyed := @h.keyed
  obtain ⟨call, phase⟩ := caller
  cases move with
  | stay before here after => grind
  | join =>
    have one_key := @h.one_key
    have exists_joined := @h.exists_joined
    have exists_registered := @h.exists_registered
    have cases_join := Flights.join_cases burst.world.flights call.key
    grind [FetchPhase.flight?, FetchPhase.led?, Flights.flight?_join]
  | lead idle => grind [FetchPhase.flight?, FetchPhase.led?]
  | share settled => grind [FetchPhase.flight?, FetchPhase.led?]
  | work before after => grind
  | settle before => grind [FetchPhase.flight?, FetchPhase.led?]
  | abandon before after => grind
  | leave =>
    have before := Flights.flight?_of_leave registered
    grind [FetchPhase.flight?, FetchPhase.led?]
  | quit before after => grind

omit present in
/-- A caller that has been lost or is in a registered flight stays so as long as the flight
stays registered. -/
theorem held_phase {key : String} {flight : Nat} (present : burst.callers[i]? = some caller)
    (registered : flights.flight? key = some flight)
    (before : burst.world.flights.flight? key = some flight)
    (holds : caller.phase.flight? = some flight ∨ caller.phase.isLost) :
    next.flight? = some flight ∨ next.isLost := by
  have keyed := @h.keyed
  obtain ⟨call, phase⟩ := caller
  cases move with
  | stay | lead | share | work | settle | abandon | quit =>
    grind [FetchPhase.flight?, FetchPhase.led?, FetchPhase.isLost]
  | join => grind [FetchPhase.flight?, FetchPhase.led?, FetchPhase.isLost]
  | leave =>
    have gone := Flights.flight?_leave_ne burst.world.flights call.key
    grind [FetchPhase.flight?, FetchPhase.led?, FetchPhase.isLost]

/-- Somebody is in a flight that is registered after a move, or has been lost. -/
theorem held_move {key : String} {flight : Nat} (registered : flights.flight? key = some flight) :
    ∃ (j : Nat) (other : Caller σ α),
      (moved burst i caller next flights state).callers[j]? = some other ∧
        (other.phase.flight? = some flight ∨ other.phase.isLost) := by
  have after := getElem?_moved present next flights state
  by_cases before : burst.world.flights.flight? key = some flight
  · obtain ⟨j, other, at_j, holds⟩ := h.held before
    by_cases same : i = j
    · subst same
      rw [present, Option.some.injEq] at at_j
      subst at_j
      exact ⟨i, _, by rw [after, if_pos rfl],
        held_phase h move present registered before holds⟩
    · exact ⟨j, other, by rw [after, if_neg same, at_j], holds⟩
  · -- only a join puts a flight into the register
    refine ⟨i, { caller with phase := next }, by rw [after, if_pos rfl], .inl ?_⟩
    obtain ⟨call, phase⟩ := caller
    cases move with
    | stay | share | work | quit => exact absurd registered before
    | lead | settle | abandon => exact absurd registered before
    | leave => exact absurd (Flights.flight?_of_leave registered) before
    | join =>
      rw [Flights.flight?_join] at registered
      split at registered
      · exact registered
      · exact absurd registered before

/-- A move of a caller keeps the invariant. -/
theorem move_keeps : SingleFlight (moved burst i caller next flights state) where
  led := h.led_move present move state
  leader := h.leader_move present move state
  settled := h.settled_move present move state
  exists_joined := h.exists_joined_move present move state
  exists_registered := h.exists_registered_move move
  registered := h.registered_move present move state
  one_key := h.one_key_move move
  keyed := h.keyed_move present move state
  held := h.held_move present move state

omit h present move in
/-- A burst without callers keeps the invariant. -/
theorem of_start (state : Layered σ β) :
    SingleFlight (Chronicle.start state : Chronicle σ β α).burst where
  led at_i := by simp [Chronicle.start] at at_i
  leader leads := by simp [Chronicle.start] at leads
  settled at_i := by simp [Chronicle.start] at at_i
  exists_joined at_i := by simp [Chronicle.start] at at_i
  exists_registered registered := by simp [Chronicle.start, Flights.flight?] at registered
  registered at_i := by simp [Chronicle.start] at at_i
  one_key registered := by simp [Chronicle.start, Flights.flight?] at registered
  keyed registered := by simp [Chronicle.start, Flights.flight?] at registered
  held registered := by simp [Chronicle.start, Flights.flight?] at registered

omit present move in
/-- A caller that is in no flight yet can be added to a burst. -/
theorem of_call {newcomer : Caller σ α} (fresh : newcomer.phase.flight? = none) :
    SingleFlight { burst with callers := burst.callers ++ [newcomer] } := by
  -- whoever is in a flight has been there before
  have earlier : ∀ {i : Nat} {caller : Caller σ α} {flight : Nat},
      (burst.callers ++ [newcomer])[i]? = some caller → caller.phase.flight? = some flight →
        burst.callers[i]? = some caller := by
    intro i caller flight at_i joined
    rw [List.getElem?_append] at at_i
    split at at_i
    · exact at_i
    · grind
  have later : ∀ {i : Nat} {caller : Caller σ α}, burst.callers[i]? = some caller →
      (burst.callers ++ [newcomer])[i]? = some caller := by
    intro i caller at_i
    rwa [List.getElem?_append_left (List.getElem?_eq_some_iff.mp at_i).1]
  constructor
  case led => exact fun at_i leads => h.led (earlier at_i (flight?_of_led? leads)) leads
  case leader =>
    intro i flight leads
    obtain ⟨caller, at_i, holds⟩ := h.leader leads
    exact ⟨caller, later at_i, holds⟩
  case settled =>
    intro i caller flight outcome produced at_i leaves
    exact h.settled (earlier at_i (by rw [leaves]; rfl)) leaves
  case exists_joined => exact fun at_i joined => h.exists_joined (earlier at_i joined) joined
  case exists_registered => exact h.exists_registered
  case registered => exact fun at_i joined => h.registered (earlier at_i joined) joined
  case one_key => exact h.one_key
  case keyed => exact fun registered at_i joined => h.keyed registered (earlier at_i joined) joined
  case held =>
    intro key flight registered
    obtain ⟨i, caller, at_i, holds⟩ := h.held registered
    exact ⟨i, caller, later at_i, holds⟩

omit present move in
/-- The invariant only looks at the callers and at the flights. -/
theorem of_outside (state : Layered σ β) :
    SingleFlight { burst with world.state := state } :=
  ⟨h.led, h.leader, h.settled, h.exists_joined, h.exists_registered, h.registered, h.one_key,
    h.keyed, h.held⟩

end SingleFlight

namespace CacheStore

open FetchPhase

/-- A caller that has not moved yet is in no flight. -/
theorem flight?_caller (store : CacheStore β) (call : FetchCall σ α) :
    (store.caller call).phase.flight? = none := by
  unfold caller
  split <;> rfl

/-- A caller of a key that is not empty starts by looking into the cache. -/
theorem caller_of_ne {store : CacheStore β} {call : FetchCall σ α} (nonempty : call.key ≠ "") :
    store.caller call =
      ⟨{ call with key := CacheKey.namespaced store.keyStart call.key }, .called⟩ := by
  simp [caller, fullKey, nonempty]

/-- Every move keeps the invariant. -/
theorem singleFlight_record {store : CacheStore β} {chronicle : Chronicle σ β α}
    (h : SingleFlight chronicle.burst) (move : BurstMove σ β α) :
    SingleFlight (store.record chronicle move).burst := by
  cases move with
  | call call => exact h.of_call (store.flight?_caller call)
  | advance i =>
    obtain same | ⟨caller, world, phase, present, step, made⟩ := store.record_advance chronicle i
    · rwa [same]
    · rw [made]
      exact h.move_keeps present step.flightMove world.state
  | drop i =>
    show SingleFlight (chronicle.burst.drop i)
    cases present : chronicle.burst.callers[i]? with
    | none => rwa [Burst.drop_eq_self present]
    | some caller =>
      obtain ⟨flights, move, made⟩ := Burst.drop_eq present
      rw [made]
      exact h.move_keeps present move chronicle.burst.world.state
  | outside change => exact h.of_outside _

/-- The invariant holds all the time. -/
theorem singleFlight_play (store : CacheStore β) (state : Layered σ β)
    (moves : List (BurstMove σ β α)) :
    SingleFlight (store.play moves (Chronicle.start state)).burst := by
  apply play_induction fun chronicle => SingleFlight chronicle.burst
  · exact SingleFlight.of_start state
  · intro chronicle move _ h
    exact singleFlight_record h move

/-- Two callers of one key never run their generators at the same time, and when all callers
have returned no flight is registered any more. -/
theorem generators_exclude (store : CacheStore β) (state : Layered σ β)
    (moves : List (BurstMove σ β α)) :
    let burst := (store.play moves (Chronicle.start state)).burst
    (∀ (i j : Nat) (first second : Caller σ α), burst.callers[i]? = some first →
      burst.callers[j]? = some second → first.call.key = second.call.key →
      first.phase.isGenerating → second.phase.isGenerating → i = j) ∧
    ((∀ caller ∈ burst.callers, caller.phase.result?.isSome) →
      burst.world.flights.registered = []) := by
  intro burst
  have h : SingleFlight burst := singleFlight_play store state moves
  constructor
  · intro i j first second at_i at_j same_key first_runs second_runs
    obtain ⟨flight, leads⟩ := led?_of_isGenerating first_runs
    obtain ⟨other, also_leads⟩ := led?_of_isGenerating second_runs
    have registered := h.registered_of_led at_i leads
    have also_registered := h.registered_of_led at_j also_leads
    rw [same_key, also_registered, Option.some.injEq] at registered
    subst registered
    exact h.leader_unique at_i at_j leads also_leads
  · intro returned
    cases entries : burst.world.flights.registered with
    | nil => rfl
    | cons entry entries_left =>
      obtain ⟨key, flight⟩ := entry
      have registered : burst.world.flights.flight? key = some flight := by
        simp [Flights.flight?, entries]
      obtain ⟨i, caller, at_i, holds⟩ := h.held registered
      have ended := returned caller (List.mem_of_getElem? at_i)
      rw [flight?_of_result? ended, isLost_of_result? ended] at holds
      simp at holds

/-- While the first of two callers runs its generator the second one does not, and when both
have returned the register is empty. -/
theorem generators_exclude_two_callers :
    let calls := [.call (Sample.call .uint32 "k" (.ok 7)), .call (Sample.call .uint32 "k" (.ok 8))]
    let play (order : List Nat) :=
      (Sample.store.play (calls ++ order.map .advance) (Chronicle.start (Sample.state 1))).burst
    let running := play [0, 0, 1, 1, 0, 0, 0]
    let finished := play [0, 0, 1, 1, 0, 0, 0, 0, 0, 0, 0, 1, 1]
    running.callers.map (fun caller => caller.phase.isGenerating) = [true, false] ∧
      (∀ (j : Nat) (second : Caller Unit UInt32), running.callers[j]? = some second →
        second.call.key = "article-k" → second.phase.isGenerating → 0 = j) ∧
      finished.world.flights.registered = [] := by
  refine ⟨by decide +kernel, ?_, ?_⟩
  · intro j second at_j same_key second_runs
    exact (generators_exclude Sample.store (Sample.state 1) _).1 0 j _ second rfl at_j
      same_key.symm (by decide +kernel) second_runs
  · exact (generators_exclude Sample.store (Sample.state 1) _).2 (by decide +kernel)

end CacheStore

end Gazette
