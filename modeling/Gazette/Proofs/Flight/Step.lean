import Gazette.Cache.Burst
import Gazette.Proofs.Flight.Register

/-!
# The steps of a fetch

All steps that a caller of a burst can make, one rule for each, and what such a step does to
the flights.  Everything that is proved about bursts goes by cases on these rules and looks
no further into the step function.
-/

set_option autoImplicit false

namespace Gazette

variable {σ β α : Type}

namespace FetchPhase

/-- The flight that a caller in a phase has joined and not yet left. -/
def flight? : FetchPhase α → Option Nat
  | .joined flight | .leaving flight _ _ => some flight
  | phase => phase.led?

/-- Whether a caller in a phase has ended without a result, by stopping or being dropped. -/
def isLost : FetchPhase α → Bool
  | .stopped | .dropped => true
  | _ => false

/-- A caller that leads a flight has joined it. -/
@[grind →]
theorem flight?_of_led? {phase : FetchPhase α} {flight : Nat} (h : phase.led? = some flight) :
    phase.flight? = some flight := by
  cases phase <;> simp_all [led?, flight?]

/-- A caller outside of any flight leads none. -/
@[grind →]
theorem led?_of_flight? {phase : FetchPhase α} (h : phase.flight? = none) :
    phase.led? = none := by
  cases phase <;> simp_all [led?, flight?]

/-- A caller that has been lost is in no flight. -/
@[grind →]
theorem flight?_of_isLost {phase : FetchPhase α} (h : phase.isLost) : phase.flight? = none := by
  cases phase <;> simp_all [isLost, led?, flight?]

/-- A caller whose generator is running leads a flight. -/
theorem led?_of_isGenerating {phase : FetchPhase α} (h : phase.isGenerating) :
    ∃ flight, phase.led? = some flight := by
  cases phase with
  | generating flight => exact ⟨flight, rfl⟩
  | _ => cases h

/-- A caller with a result is in no flight. -/
theorem flight?_of_result? {phase : FetchPhase α} (h : phase.result?.isSome) :
    phase.flight? = none := by
  cases phase with
  | returned result => rfl
  | _ => cases h

/-- A caller with a result has not been lost. -/
theorem isLost_of_result? {phase : FetchPhase α} (h : phase.result?.isSome) :
    phase.isLost = false := by
  cases phase with
  | returned result => rfl
  | _ => cases h

end FetchPhase

/-- One step of the caller with number `i`, which fetches a complete key: the world and the
phase before it, and those after it. -/
inductive CallerStep (store : CacheStore β) (i : Nat) (call : FetchCall σ α) :
    BurstWorld σ β → FetchPhase α → BurstWorld σ β → FetchPhase α → Prop where
  | hit {world : BurstWorld σ β} {state : Layered σ β} {value : α}
      (look : (Layered.onCache (store.cached? call.codec call.key)).outcome world.state =
        (.ok (some value), state)) :
      CallerStep store i call world .called { world with state } (.returned (.ok ⟨value, true⟩))
  | miss {world : BurstWorld σ β} {state : Layered σ β}
      (look : (Layered.onCache (store.cached? call.codec call.key)).outcome world.state =
        (.ok none, state)) :
      CallerStep store i call world .called { world with state } .missed
  | stopLooking {world : BurstWorld σ β} {state : Layered σ β} {cause : DeadlineOverflow}
      (look : (Layered.onCache (store.cached? call.codec call.key)).outcome world.state =
        (.error cause, state)) :
      CallerStep store i call world .called { world with state } .stopped
  | join {world : BurstWorld σ β} :
      CallerStep store i call world .missed
        { world with flights := (world.flights.join call.key).2 }
        (.joined (world.flights.join call.key).1)
  | lead {world : BurstWorld σ β} {flight : Nat}
      (idle : world.flights.states[flight]? = some .idle) :
      CallerStep store i call world (.joined flight)
        { world with flights := world.flights.put flight (.led i) } (.leading flight)
  | share {world : BurstWorld σ β} {flight : Nat} {outcome : Except StorageError Payload}
      (settled : world.flights.states[flight]? = some (.settled outcome)) :
      CallerStep store i call world (.joined flight) world (.leaving flight outcome none)
  | check {world : BurstWorld σ β} {state : Layered σ β} {flight : Nat} {found : Option Payload}
      (look : (Layered.onCache (store.payload? call.key)).outcome world.state =
        (.ok found, state)) :
      CallerStep store i call world (.leading flight) { world with state }
        (.checked flight (found.filter fun payload => (call.codec.decode payload).toBool))
  | stopChecking {world : BurstWorld σ β} {state : Layered σ β} {flight : Nat}
      {cause : DeadlineOverflow}
      (look : (Layered.onCache (store.payload? call.key)).outcome world.state =
        (.error cause, state)) :
      CallerStep store i call world (.leading flight)
        { state, flights := world.flights.put flight .idle } .stopped
  | reuse {world : BurstWorld σ β} {flight : Nat} {payload : Payload} :
      CallerStep store i call world (.checked flight (some payload))
        { world with flights := world.flights.put flight (.settled (.ok payload)) }
        (.leaving flight (.ok payload) none)
  | begin {world : BurstWorld σ β} {flight : Nat} :
      CallerStep store i call world (.checked flight none) world (.generating flight)
  | produce {world : BurstWorld σ β} {state : Layered σ β} {flight : Nat} {value : α}
      (ran : (Layered.onSource call.generate).outcome world.state = (.ok (.ok value), state)) :
      CallerStep store i call world (.generating flight) { world with state }
        (.populating flight value)
  | fail {world : BurstWorld σ β} {state : Layered σ β} {flight : Nat} {error : StorageError}
      (ran : (Layered.onSource call.generate).outcome world.state = (.ok (.error error), state)) :
      CallerStep store i call world (.generating flight)
        { state, flights := world.flights.put flight (.settled (.error error)) }
        (.leaving flight (.error error) none)
  | stopGenerating {world : BurstWorld σ β} {state : Layered σ β} {flight : Nat}
      {cause : DeadlineOverflow}
      (ran : (Layered.onSource call.generate).outcome world.state = (.error cause, state)) :
      CallerStep store i call world (.generating flight)
        { state, flights := world.flights.put flight .idle } .stopped
  | write {world : BurstWorld σ β} {state : Layered σ β} {flight : Nat} {value : α}
      (wrote : (Layered.onCache (store.populate call.codec call.key value)).outcome world.state =
        (.ok (), state)) :
      CallerStep store i call world (.populating flight value) { world with state }
        (.populated flight value)
  | stopWriting {world : BurstWorld σ β} {state : Layered σ β} {flight : Nat} {value : α}
      {cause : DeadlineOverflow}
      (wrote : (Layered.onCache (store.populate call.codec call.key value)).outcome world.state =
        (.error cause, state)) :
      CallerStep store i call world (.populating flight value)
        { state, flights := world.flights.put flight .idle } .stopped
  | settle {world : BurstWorld σ β} {flight : Nat} {value : α} :
      CallerStep store i call world (.populated flight value)
        { world with
          flights := world.flights.put flight (.settled (.ok (call.codec.encode value))) }
        (.leaving flight (.ok (call.codec.encode value)) (some value))
  | leave {world : BurstWorld σ β} {flight : Nat} {outcome : Except StorageError Payload}
      {produced : Option α} :
      CallerStep store i call world (.leaving flight outcome produced)
        { world with flights := world.flights.leave call.key flight }
        (.returned (CacheStore.conclude call.codec outcome produced))

namespace CacheStore

variable {store : CacheStore β} {i : Nat} {call : FetchCall σ α} {world after : BurstWorld σ β}
  {phase next : FetchPhase α}

/-- The step function makes only steps of these rules. -/
theorem callerStep_of_stepCaller
    (h : store.stepCaller i call world phase = some (next, after)) :
    CallerStep store i call world phase after next := by
  cases phase with
  | called =>
    simp only [stepCaller] at h
    split at h
    · rename_i look
      cases h
      exact .hit look
    · rename_i look
      cases h
      exact .miss look
    · rename_i look
      cases h
      exact .stopLooking look
  | missed =>
    cases h
    exact .join
  | joined flight =>
    simp only [stepCaller] at h
    split at h
    · rename_i idle
      cases h
      exact .lead idle
    · rename_i settled
      cases h
      exact .share settled
    · cases h
    · cases h
  | leading flight =>
    simp only [stepCaller] at h
    split at h
    · rename_i look
      cases h
      exact .check look
    · rename_i look
      cases h
      exact .stopChecking look
  | checked flight found =>
    cases found with
    | none =>
      cases h
      exact .begin
    | some payload =>
      cases h
      exact .reuse
  | generating flight =>
    simp only [stepCaller] at h
    split at h
    · rename_i ran
      cases h
      exact .produce ran
    · rename_i ran
      cases h
      exact .fail ran
    · rename_i ran
      cases h
      exact .stopGenerating ran
  | populating flight value =>
    simp only [stepCaller] at h
    split at h
    · rename_i wrote
      cases h
      exact .write wrote
    · rename_i wrote
      cases h
      exact .stopWriting wrote
  | populated flight value =>
    cases h
    exact .settle
  | leaving flight outcome produced =>
    cases h
    exact .leave
  | returned result => cases h
  | stopped => cases h
  | dropped => cases h

/-- A step of a burst is a step of one of its callers. -/
theorem callerStep_of_stepBurst {burst later : Burst σ β α}
    (h : store.stepBurst burst i = some later) :
    ∃ caller world phase, burst.callers[i]? = some caller ∧
      CallerStep store i caller.call burst.world caller.phase world phase ∧
      later = ⟨world, burst.callers.set i { caller with phase }⟩ := by
  simp only [stepBurst, Option.bind_eq_bind, Option.bind_eq_some_iff] at h
  obtain ⟨caller, present, ⟨phase, world⟩, made, same⟩ := h
  simp only [Option.pure_def, Option.some.injEq] at same
  exact ⟨caller, world, phase, present, callerStep_of_stepCaller made, same.symm⟩

end CacheStore

/-- What a move of the caller with number `i`, which fetches `key`, does to the flights: its
phase and the flights before the move, and those after it. -/
inductive FlightMove (i : Nat) (key : String) :
    FetchPhase α → Flights → FetchPhase α → Flights → Prop where
  | stay {phase next : FetchPhase α} {flights : Flights} (before : phase.flight? = none)
      (present : phase.isLost = false) (after : next.flight? = none) :
      FlightMove i key phase flights next flights
  | join {flights : Flights} :
      FlightMove i key .missed flights (.joined (flights.join key).1) (flights.join key).2
  | lead {flight : Nat} {flights : Flights} (idle : flights.states[flight]? = some .idle) :
      FlightMove i key (.joined flight) flights (.leading flight) (flights.put flight (.led i))
  | share {flight : Nat} {flights : Flights} {outcome : Except StorageError Payload}
      (settled : flights.states[flight]? = some (.settled outcome)) :
      FlightMove i key (.joined flight) flights (.leaving flight outcome none) flights
  | work {phase next : FetchPhase α} {flight : Nat} {flights : Flights}
      (before : phase.led? = some flight) (after : next.led? = some flight) :
      FlightMove i key phase flights next flights
  | settle {phase : FetchPhase α} {flight : Nat} {flights : Flights}
      {outcome : Except StorageError Payload} {produced : Option α}
      (before : phase.led? = some flight) :
      FlightMove i key phase flights (.leaving flight outcome produced)
        (flights.put flight (.settled outcome))
  | abandon {phase next : FetchPhase α} {flight : Nat} {flights : Flights}
      (before : phase.led? = some flight) (after : next.isLost) :
      FlightMove i key phase flights next (flights.put flight .idle)
  | leave {flight : Nat} {flights : Flights} {outcome : Except StorageError Payload}
      {produced : Option α} {result : Except StorageError (Fetched α)} :
      FlightMove i key (.leaving flight outcome produced) flights (.returned result)
        (flights.leave key flight)
  | quit {phase next : FetchPhase α} {flights : Flights} (before : phase.led? = none)
      (after : next.isLost) : FlightMove i key phase flights next flights

/-- The effect of a step on the flights. -/
theorem CallerStep.flightMove {store : CacheStore β} {i : Nat} {call : FetchCall σ α}
    {world after : BurstWorld σ β} {phase next : FetchPhase α}
    (step : CallerStep store i call world phase after next) :
    FlightMove i call.key phase world.flights next after.flights := by
  cases step with
  | hit | miss => exact .stay rfl rfl rfl
  | stopLooking => exact .quit rfl rfl
  | join => exact .join
  | lead idle => exact .lead idle
  | share settled => exact .share settled
  | check | begin | produce | write => exact .work rfl rfl
  | stopChecking | stopGenerating | stopWriting => exact .abandon rfl rfl
  | reuse | fail | settle => exact .settle rfl
  | leave => exact .leave

namespace FlightMove

variable {i : Nat} {key other : String} {phase next : FetchPhase α} {flights later : Flights}
  {flight : Nat}

/-- A move takes no flight away. -/
theorem length_le (move : FlightMove i key phase flights next later) :
    flights.states.length ≤ later.states.length := by
  cases move with
  | stay | share | work | quit => exact Nat.le_refl _
  | join => exact Flights.length_join flights key
  | lead | settle | abandon | leave => simp

/-- A flight that is registered after a move was registered before it, or it is new. -/
theorem registered_cases (move : FlightMove i key phase flights next later)
    (registered : later.flight? other = some flight) :
    flights.flight? other = some flight ∨ flight = flights.states.length := by
  cases move with
  | stay | share | work | quit | lead | settle | abandon => exact .inl registered
  | leave => exact .inl (Flights.flight?_of_leave registered)
  | join =>
    have cases_join := Flights.join_cases flights key
    rw [Flights.flight?_join] at registered
    grind

/-- Whoever settles a flight is about to leave it. -/
theorem leaves_of_settled (move : FlightMove i key phase flights next later)
    {outcome : Except StorageError Payload}
    (settled : later.states[flight]? = some (.settled outcome))
    (unsettled : flights.states[flight]? ≠ some (.settled outcome)) :
    ∃ produced, next = .leaving flight outcome produced := by
  cases move with
  | stay | share | work | quit => exact absurd settled unsettled
  | leave => exact absurd (by simpa using settled) unsettled
  | join =>
    obtain before | ⟨new, -⟩ := Flights.states_of_join settled
    · exact absurd before unsettled
    · cases new
  | lead | abandon => grind
  | @settle _ _ _ _ produced before =>
    refine ⟨produced, ?_⟩
    grind

end FlightMove

end Gazette
