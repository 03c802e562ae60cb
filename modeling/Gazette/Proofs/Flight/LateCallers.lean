import Mathlib.Data.List.Basic
import Gazette.Proofs.Cache.Reliable
import Gazette.Proofs.Flight.Progress
import Gazette.Proofs.Json.RoundTrip

/-!
# What late callers learn

Some callers of a burst come after a given moment.  What they return has been made or found after
that moment, or it had been made or found before by a caller that was still under way then.  This
holds because a flight that has been settled is in the register only as long as somebody who knows
its outcome is about to take it out.
-/

set_option autoImplicit false

namespace Gazette

variable {σ β α : Type}

namespace FetchPhase

/-- The outcome that a caller in a phase has got and not yet returned. -/
def outcome? (codec : Codec α) : FetchPhase α → Option (Except StorageError Payload)
  | .checked _ (some payload) => some (.ok payload)
  | .populating _ value | .populated _ value => some (.ok (codec.encode value))
  | .leaving _ outcome _ => some outcome
  | _ => none

/-- Whoever leaves a flight with a value of its own has settled the flight with that value. -/
def Proper (codec : Codec α) (phase : FetchPhase α) : Prop :=
  ∀ flight outcome value, phase = .leaving flight outcome (some value) →
    outcome = .ok (codec.encode value)

end FetchPhase

namespace CacheStore

variable {codec : Codec α}

/-- What a caller returns that shares an outcome. -/
def shared (codec : Codec α) (outcome : Except StorageError Payload) : Except StorageError α :=
  (conclude codec outcome none).map Fetched.value

/-- A payload that can be read is shared as its value. -/
theorem shared_of_decode {payload : Payload} {value : α}
    (read : (codec.decode payload).toOption = some value) :
    shared codec (.ok payload) = .ok value := by
  cases decoded_payload : codec.decode payload with
  | error fault =>
    rw [decoded_payload] at read
    cases read
  | ok other =>
    rw [decoded_payload] at read
    cases read
    simp [shared, conclude, decoded, decoded_payload, Except.mapError, Except.map]

/-- Whoever leaves a flight returns what those return that share its outcome. -/
theorem map_conclude (lawful : codec.Lawful) {flight : Nat} {outcome : Except StorageError Payload}
    {produced : Option α} (proper : (FetchPhase.leaving flight outcome produced).Proper codec) :
    (conclude codec outcome produced).map Fetched.value = shared codec outcome := by
  cases produced with
  | none => rfl
  | some value =>
    rw [proper flight outcome value rfl]
    exact (shared_of_decode (by rw [lawful.decode_encode]; rfl)).symm

end CacheStore

/-- A caller that is in a flight after a move was in it before, or it has joined the flight that is
registered for its key. -/
theorem FlightMove.inside_cases {i : Nat} {key : String} {phase next : FetchPhase α}
    {flights later : Flights} {flight : Nat} (move : FlightMove i key phase flights next later)
    (inside : next.flight? = some flight) :
    phase.flight? = some flight ∨ later.flight? key = some flight := by
  cases move with
  | stay before goes_on after =>
    rw [after] at inside
    cases inside
  | join =>
    cases inside
    exact .inr (by rw [Flights.flight?_join, if_pos rfl])
  | lead | share => exact .inl inside
  | work before after =>
    rw [FetchPhase.flight?_of_led? after] at inside
    exact .inl (inside ▸ FetchPhase.flight?_of_led? before)
  | settle before =>
    cases inside
    exact .inl (FetchPhase.flight?_of_led? before)
  | abandon before lost | quit before lost =>
    rw [FetchPhase.flight?_of_isLost lost] at inside
    cases inside
  | leave => cases inside

/-- Somebody is about to leave a flight and knows its outcome. -/
def Burst.LeftWith (burst : Burst σ β α) (flight : Nat) (outcome : Except StorageError Payload) :
    Prop :=
  ∃ (i : Nat) (caller : Caller σ α), burst.callers[i]? = some caller ∧
    ∃ produced, caller.phase = .leaving flight outcome produced

/-- A flight that is registered and has been settled is about to be left by somebody who knows its
outcome. -/
def Attended (burst : Burst σ β α) : Prop :=
  ∀ key flight outcome, burst.world.flights.flight? key = some flight →
    burst.world.flights.states[flight]? = some (.settled outcome) → burst.LeftWith flight outcome

namespace Attended

variable {burst : Burst σ β α} {i : Nat} {caller : Caller σ α} {next : FetchPhase α}
  {flights : Flights}

/-- A caller that goes on after leaving a flight has taken it out of the register. -/
theorem not_registered_of_leave (single : SingleFlight burst)
    (present : burst.callers[i]? = some caller)
    (move : FlightMove i caller.call.key caller.phase burst.world.flights next flights)
    (goes_on : next.isLost = false) {key : String} {flight : Nat}
    {outcome : Except StorageError Payload} {produced : Option α}
    (leaving : caller.phase = .leaving flight outcome produced)
    (registered : burst.world.flights.flight? key = some flight) :
    flights.flight? key ≠ some flight := by
  have same : caller.call.key = key := single.keyed registered present (by rw [leaving]; rfl)
  subst same
  obtain ⟨call, phase⟩ := caller
  cases leaving
  cases move with
  | stay before => cases before
  | work before => cases before
  | settle before => cases before
  | abandon before => cases before
  | quit before after =>
    rw [goes_on] at after
    cases after
  | leave => exact Flights.flight?_leave_ne _ _ _

/-- A move of a caller that goes on keeps the invariant. -/
theorem move_keeps (h : Attended burst) (single : SingleFlight burst)
    (present : burst.callers[i]? = some caller)
    (move : FlightMove i caller.call.key caller.phase burst.world.flights next flights)
    (goes_on : next.isLost = false) (state : Layered σ β) :
    Attended (SingleFlight.moved burst i caller next flights state) := by
  have moved := SingleFlight.getElem?_moved present next flights state
  intro key flight outcome registered settled
  change flights.flight? key = some flight at registered
  change flights.states[flight]? = some (.settled outcome) at settled
  by_cases old : burst.world.flights.states[flight]? = some (.settled outcome)
  · have inside : flight < burst.world.flights.states.length :=
      (List.getElem?_eq_some_iff.mp old).1
    have before : burst.world.flights.flight? key = some flight :=
      (move.registered_cases registered).resolve_right (Nat.ne_of_lt inside)
    obtain ⟨j, leaver, at_j, produced, leaving⟩ := h key flight outcome before old
    refine ⟨j, leaver, ?_, produced, leaving⟩
    rw [moved, if_neg, at_j]
    rintro rfl
    rw [present, Option.some.injEq] at at_j
    subst at_j
    exact not_registered_of_leave single present move goes_on leaving before registered
  · obtain ⟨produced, leaving⟩ := move.leaves_of_settled settled old
    exact ⟨i, { caller with phase := next }, by rw [moved, if_pos rfl], produced, leaving⟩

/-- A caller that comes keeps the invariant. -/
theorem of_call (h : Attended burst) (newcomer : Caller σ α) :
    Attended { burst with callers := burst.callers ++ [newcomer] } := by
  intro key flight outcome registered settled
  obtain ⟨i, leaver, at_i, leaving⟩ := h key flight outcome registered settled
  exact ⟨i, leaver, by rw [List.getElem?_append_left (List.getElem?_eq_some_iff.mp at_i).1, at_i],
    leaving⟩

end Attended

/-- What a caller can get with its next step: what its generator makes, or what the cache shows. -/
def FetchCall.Gets (shown : β → String → Option Payload) (call : FetchCall σ α)
    (state : Layered σ β) (outcome : Except StorageError Payload) : Prop :=
  (∃ result, call.generate.outcome state.source = (.ok result, state.source) ∧
      outcome = result.map call.codec.encode) ∨
    ∃ payload, shown state.cache call.key = some payload ∧ outcome = .ok payload

/-- What a step of a caller does, if the cache is reliable and the generator only reads. -/
structure Learns (fit : β → Prop) (shown : β → String → Option Payload) (call : FetchCall σ α)
    (world : BurstWorld σ β) (phase : FetchPhase α) (after : BurstWorld σ β) (next : FetchPhase α) :
    Prop where
  source : after.state.source = world.state.source
  fits : fit after.state.cache
  goes_on : next.isLost = false
  proper : phase.Proper call.codec → next.Proper call.codec
  cache {key : String} {payload : Payload} : shown after.state.cache key = some payload →
    shown world.state.cache key = some payload ∨
      key = call.key ∧ phase.led?.isSome ∧ phase.outcome? call.codec = some (.ok payload)
  learned {outcome : Except StorageError Payload} : next.led?.isSome →
    next.outcome? call.codec = some outcome → call.Gets shown world.state outcome ∨
      phase.led?.isSome ∧ phase.outcome? call.codec = some outcome
  settled {flight : Nat} {outcome : Except StorageError Payload} :
    after.flights.states[flight]? = some (.settled outcome) →
    world.flights.states[flight]? = some (.settled outcome) ∨ phase.led? = some flight ∧
      (call.Gets shown world.state outcome ∨ phase.outcome? call.codec = some outcome)
  returned {result : Except StorageError (Fetched α)} : next = .returned result →
    (∃ outcome, call.Gets shown world.state outcome ∧
        result.map Fetched.value = CacheStore.shared call.codec outcome) ∨
      ∃ flight outcome produced, phase = .leaving flight outcome produced ∧
        result = CacheStore.conclude call.codec outcome produced

section Learns

variable {store : CacheStore β} {fit : β → Prop} {shown : β → String → Option Payload} {i : Nat}
  {call : FetchCall σ α} {world after : BurstWorld σ β} {phase next : FetchPhase α}

/-- A flight that is settled after another one has been put into an unsettled state was settled
before. -/
theorem Flights.settled_of_put {flights : Flights} {led flight : Nat} {state : FlightState}
    {outcome : Except StorageError Payload}
    (settled : (flights.put led state).states[flight]? = some (.settled outcome)) :
    flights.states[flight]? = some (.settled outcome) ∨
      led = flight ∧ state = .settled outcome := by
  rw [states_put, List.getElem?_set] at settled
  grind

/-- Every step of a caller is such a step. -/
theorem CallerStep.learns (step : CallerStep store i call world phase after next)
    (reliable : Reliable store fit shown) (fits : fit world.state.cache)
    {result : Except StorageError α}
    (reads : call.generate.outcome world.state.source = (.ok result, world.state.source)) :
    Learns fit shown call world phase after next := by
  cases step with
  | @hit state value look =>
    obtain ⟨found, source, still_fits, fades⟩ := reliable.of_cached? fits look
    refine ⟨source, still_fits, rfl, fun _ => nofun, fun live => .inl (fades _ _ live), nofun, .inl,
      ?_⟩
    rintro result ⟨⟩
    obtain ⟨payload, live, read⟩ := Option.bind_eq_some_iff.mp (Except.ok.inj found).symm
    exact .inl ⟨_, .inr ⟨payload, live, rfl⟩, (CacheStore.shared_of_decode read).symm⟩
  | miss look =>
    obtain ⟨-, source, still_fits, fades⟩ := reliable.of_cached? fits look
    exact ⟨source, still_fits, rfl, fun _ => nofun, fun live => .inl (fades _ _ live), nofun, .inl,
      nofun⟩
  | stopLooking look =>
    obtain ⟨found, -⟩ := reliable.of_cached? fits look
    cases found
  | join =>
    refine ⟨rfl, fits, rfl, fun _ => nofun, .inl, nofun, ?_, nofun⟩
    intro flight outcome settled
    rcases Flights.states_of_join settled with old | ⟨new, -⟩
    · exact .inl old
    · cases new
  | lead idle =>
    refine ⟨rfl, fits, rfl, fun _ => nofun, .inl, fun _ => nofun, ?_, nofun⟩
    intro flight outcome settled
    rcases Flights.settled_of_put settled with old | ⟨-, new⟩
    · exact .inl old
    · cases new
  | share settled =>
    exact ⟨rfl, fits, rfl, fun _ => nofun, .inl, nofun, .inl, nofun⟩
  | @check state flight found look =>
    obtain ⟨answer, source, still_fits, fades⟩ := reliable.of_payload? fits look
    refine ⟨source, still_fits, rfl, fun _ => nofun, fun live => .inl (fades _ _ live), ?_, .inl,
      nofun⟩
    intro outcome leads same
    cases readable : found.filter fun payload => (call.codec.decode payload).toBool with
    | none =>
      rw [readable] at same
      cases same
    | some payload =>
      rw [readable] at same
      cases same
      have there : found = some payload := (Option.filter_eq_some_iff.mp readable).1
      exact .inl (.inr ⟨payload, by rw [← Except.ok.inj answer, there], rfl⟩)
  | stopChecking look =>
    obtain ⟨found, -⟩ := reliable.of_payload? fits look
    cases found
  | @reuse led payload =>
    refine ⟨rfl, fits, rfl, fun _ => nofun, .inl, nofun, ?_, nofun⟩
    intro flight outcome settled
    rcases Flights.settled_of_put settled with old | ⟨rfl, new⟩
    · exact .inl old
    · cases new
      exact .inr ⟨rfl, .inr rfl⟩
  | begin =>
    exact ⟨rfl, fits, rfl, fun _ => nofun, .inl, fun _ => nofun, .inl, nofun⟩
  | @produce state flight value ran =>
    rw [Layered.outcome_onSource, reads] at ran
    cases ran
    refine ⟨rfl, fits, rfl, fun _ => nofun, .inl, ?_, .inl, nofun⟩
    rintro outcome - ⟨⟩
    exact .inl (.inl ⟨_, reads, rfl⟩)
  | @fail state led error ran =>
    rw [Layered.outcome_onSource, reads] at ran
    cases ran
    refine ⟨rfl, fits, rfl, fun _ => nofun, .inl, nofun, ?_, nofun⟩
    intro flight outcome settled
    rcases Flights.settled_of_put settled with old | ⟨rfl, new⟩
    · exact .inl old
    · cases new
      exact .inr ⟨rfl, .inl (.inl ⟨_, reads, rfl⟩)⟩
  | stopGenerating ran =>
    rw [Layered.outcome_onSource, reads] at ran
    cases ran
  | write wrote =>
    obtain ⟨-, source, still_fits, shows_⟩ := reliable.of_populate fits wrote
    refine ⟨source, still_fits, rfl, fun _ => nofun, ?_, fun _ same => .inr ⟨rfl, same⟩, .inl,
      nofun⟩
    intro key payload live
    rcases shows_ key payload live with ⟨here, rfl⟩ | ⟨-, old⟩
    · exact .inr ⟨here, rfl, rfl⟩
    · exact .inl old
  | stopWriting wrote =>
    obtain ⟨done, -⟩ := reliable.of_populate fits wrote
    cases done
  | @settle led value =>
    refine ⟨rfl, fits, rfl, ?_, .inl, nofun, ?_, nofun⟩
    · rintro - flight outcome value ⟨⟩
      rfl
    · intro flight outcome settled
      rcases Flights.settled_of_put settled with old | ⟨rfl, new⟩
      · exact .inl old
      · cases new
        exact .inr ⟨rfl, .inr rfl⟩
  | leave =>
    refine ⟨rfl, fits, rfl, fun _ => nofun, .inl, nofun, ?_, ?_⟩
    · intro flight outcome settled
      exact .inl (by simpa using settled)
    · rintro result ⟨⟩
      exact .inr ⟨_, _, _, rfl, rfl⟩

end Learns

/-- What holds of the outcomes for a key when `known` are those that can have been got since a
moment at which there were `early` callers: nobody else has been lost, and whatever the cache
shows, a leader has got, a registered flight has been settled with or a late caller returns is
known. -/
structure Informed (fit : β → Prop) (shown : β → String → Option Payload) (codec : Codec α)
    (key : String) (known : Except StorageError Payload → Prop) (early : Nat)
    (burst : Burst σ β α) : Prop where
  single : SingleFlight burst
  attended : Attended burst
  fits : fit burst.world.state.cache
  coded (caller : Caller σ α) : caller ∈ burst.callers → caller.call.codec = codec
  goes_on (caller : Caller σ α) : caller ∈ burst.callers → caller.phase.isLost = false
  proper (caller : Caller σ α) : caller ∈ burst.callers → caller.phase.Proper codec
  reads (caller : Caller σ α) : caller ∈ burst.callers →
    ∃ result, caller.call.generate.outcome burst.world.state.source =
        (.ok result, burst.world.state.source) ∧
      (caller.call.key = key → known (result.map codec.encode))
  cache {payload : Payload} :
    shown burst.world.state.cache key = some payload → known (.ok payload)
  leads {caller : Caller σ α} {outcome : Except StorageError Payload} : caller ∈ burst.callers →
    caller.call.key = key → caller.phase.led?.isSome →
    caller.phase.outcome? codec = some outcome → known outcome
  flights {flight : Nat} {outcome : Except StorageError Payload} :
    burst.world.flights.flight? key = some flight →
    burst.world.flights.states[flight]? = some (.settled outcome) → known outcome
  joined {j flight : Nat} {caller : Caller σ α} {outcome : Except StorageError Payload} :
    early ≤ j → burst.callers[j]? = some caller → caller.call.key = key →
    caller.phase.flight? = some flight →
    burst.world.flights.states[flight]? = some (.settled outcome) → known outcome
  returned {j : Nat} {caller : Caller σ α} {result : Except StorageError (Fetched α)} :
    early ≤ j → burst.callers[j]? = some caller → caller.call.key = key →
    caller.phase = .returned result →
    ∃ outcome, known outcome ∧ result.map Fetched.value = CacheStore.shared codec outcome

namespace Informed

variable {store : CacheStore β} {fit : β → Prop} {shown : β → String → Option Payload}
  {codec : Codec α} {key : String} {known : Except StorageError Payload → Prop} {early : Nat}
  {burst : Burst σ β α} {i : Nat} {caller : Caller σ α} {world : BurstWorld σ β}
  {next : FetchPhase α}

/-- As long as nobody asks what is known, nothing has to be told. -/
theorem of_start {state : Layered σ β} (fits : fit state.cache) :
    Informed fit shown codec key (fun _ => True) early (⟨{ state }, []⟩ : Burst σ β α) where
  single := .of_start state
  attended _ flight _ registered := by simp [Flights.flight?] at registered
  fits := fits
  coded _ there := by cases there
  goes_on _ there := by cases there
  proper _ there := by cases there
  reads _ there := by cases there
  cache _ := trivial
  leads _ _ _ _ := trivial
  flights _ _ := trivial
  joined _ _ _ _ _ := trivial
  returned _ at_j := by simp at at_j

/-- What a caller of the key can get is known. -/
theorem known_of_gets (h : Informed fit shown codec key known early burst)
    (present : caller ∈ burst.callers) (fetches : caller.call.key = key)
    {outcome : Except StorageError Payload}
    (gets : caller.call.Gets shown burst.world.state outcome) : known outcome := by
  rcases gets with ⟨result, made, rfl⟩ | ⟨payload, live, rfl⟩
  · obtain ⟨read, reads, known_read⟩ := h.reads caller present
    rw [made] at reads
    cases reads
    rw [h.coded caller present]
    exact known_read fetches
  · rw [fetches] at live
    exact h.cache live

section Step

variable (h : Informed fit shown codec key known early burst) (reliable : Reliable store fit shown)
  (present : burst.callers[i]? = some caller)
  (step : CallerStep store i caller.call burst.world caller.phase world next)

include h reliable present step

/-- What the caller learns with its step. -/
theorem learns_step : Learns fit shown caller.call burst.world caller.phase world next := by
  obtain ⟨read, reads, -⟩ := h.reads caller (List.mem_of_getElem? present)
  exact step.learns reliable h.fits reads

/-- A flight that is settled after a step was settled before, or the caller leads it and knows the
outcome. -/
theorem settled_step {flight : Nat} {outcome : Except StorageError Payload}
    (settled : world.flights.states[flight]? = some (.settled outcome)) :
    burst.world.flights.states[flight]? = some (.settled outcome) ∨
      caller.phase.led? = some flight ∧ (caller.call.key = key → known outcome) := by
  have member : caller ∈ burst.callers := List.mem_of_getElem? present
  rcases (h.learns_step reliable present step).settled settled with old | ⟨leads, gets | held⟩
  · exact .inl old
  · exact .inr ⟨leads, fun fetches => h.known_of_gets member fetches gets⟩
  · rw [h.coded caller member] at held
    exact .inr ⟨leads, fun fetches => h.leads member fetches (by rw [leads]; rfl) held⟩

/-- A registered flight that is settled after a step has been settled with a known outcome. -/
theorem flights_step {flight : Nat} {outcome : Except StorageError Payload}
    (registered : world.flights.flight? key = some flight)
    (settled : world.flights.states[flight]? = some (.settled outcome)) : known outcome := by
  have exists_before {flight : Nat} (there : flight < burst.world.flights.states.length)
      (registered : world.flights.flight? key = some flight) :
      burst.world.flights.flight? key = some flight :=
    (step.flightMove.registered_cases registered).resolve_right (Nat.ne_of_lt there)
  rcases h.settled_step reliable present step settled with old | ⟨leads, known_if⟩
  · have inside := (List.getElem?_eq_some_iff.mp old).1
    exact h.flights (exists_before inside registered) old
  · have joined := FetchPhase.flight?_of_led? leads
    have inside := h.single.exists_joined present joined
    exact known_if (h.single.keyed (exists_before inside registered) present joined)

/-- A late caller is in a flight after a step that has not been settled with an unknown outcome. -/
theorem joined_step {j flight : Nat} {other : Caller σ α} {outcome : Except StorageError Payload}
    (late : early ≤ j)
    (at_j : (burst.callers.set i { caller with phase := next })[j]? = some other)
    (fetches : other.call.key = key) (inside : other.phase.flight? = some flight)
    (settled : world.flights.states[flight]? = some (.settled outcome)) : known outcome := by
  have moved := SingleFlight.getElem?_moved present next world.flights world.state j
  change (burst.callers.set i { caller with phase := next })[j]? = _ at moved
  rw [moved] at at_j
  by_cases same : i = j
  · subst same
    rw [if_pos rfl, Option.some.injEq] at at_j
    subst at_j
    rcases step.flightMove.inside_cases inside with before | registered
    · rcases h.settled_step reliable present step settled with old | ⟨-, known_if⟩
      · exact h.joined late present fetches before old
      · exact known_if fetches
    · change caller.call.key = key at fetches
      rw [fetches] at registered
      exact h.flights_step reliable present step registered settled
  · rw [if_neg same] at at_j
    rcases h.settled_step reliable present step settled with old | ⟨leads, known_if⟩
    · exact h.joined late at_j fetches inside old
    · -- the flight of the late caller is the one that the other caller leads
      apply known_if
      have unsettled : ∀ outcome,
          burst.world.flights.states[flight]? ≠ some (.settled outcome) := by
        intro outcome settled
        rw [h.single.led present leads] at settled
        cases settled
      have registered := h.single.registered at_j inside unsettled
      rw [fetches] at registered
      exact h.single.keyed registered present (FetchPhase.flight?_of_led? leads)

/-- What a late caller has returned after a step is known. -/
theorem returned_step (lawful : codec.Lawful) {j : Nat} {other : Caller σ α}
    {result : Except StorageError (Fetched α)} (late : early ≤ j)
    (at_j : (burst.callers.set i { caller with phase := next })[j]? = some other)
    (fetches : other.call.key = key) (returns : other.phase = .returned result) :
    ∃ outcome, known outcome ∧ result.map Fetched.value = CacheStore.shared codec outcome := by
  have moved := SingleFlight.getElem?_moved present next world.flights world.state j
  change (burst.callers.set i { caller with phase := next })[j]? = _ at moved
  rw [moved] at at_j
  by_cases same : i = j
  · subst same
    rw [if_pos rfl, Option.some.injEq] at at_j
    subst at_j
    have member : caller ∈ burst.callers := List.mem_of_getElem? present
    have coded := h.coded caller member
    rcases (h.learns_step reliable present step).returned returns with
      ⟨outcome, gets, same⟩ | ⟨flight, outcome, produced, leaving, rfl⟩
    · exact ⟨outcome, h.known_of_gets member fetches gets, by rw [same, coded]⟩
    · have settled := h.single.settled present leaving
      have proper := h.proper caller member
      rw [leaving] at proper
      refine ⟨outcome, h.joined late present fetches (by rw [leaving]; rfl) settled, ?_⟩
      rw [coded, CacheStore.map_conclude lawful proper]
  · rw [if_neg same] at at_j
    exact h.returned late at_j fetches returns

/-- A step of a caller keeps what is known. -/
theorem step_keeps (lawful : codec.Lawful) :
    Informed fit shown codec key known early
      ⟨world, burst.callers.set i { caller with phase := next }⟩ := by
  have member : caller ∈ burst.callers := List.mem_of_getElem? present
  have learns := h.learns_step reliable present step
  have coded := h.coded caller member
  -- whoever is there after the step is the caller or has been there before
  have cases_of {other : Caller σ α}
      (there : other ∈ burst.callers.set i { caller with phase := next }) :
      other ∈ burst.callers ∨ other = { caller with phase := next } :=
    List.mem_or_eq_of_mem_set there
  constructor
  case single => exact h.single.move_keeps present step.flightMove world.state
  case attended =>
    exact h.attended.move_keeps h.single present step.flightMove learns.goes_on world.state
  case fits => exact learns.fits
  case coded =>
    intro other there
    rcases cases_of there with old | rfl
    · exact h.coded other old
    · exact coded
  case goes_on =>
    intro other there
    rcases cases_of there with old | rfl
    · exact h.goes_on other old
    · exact learns.goes_on
  case proper =>
    intro other there
    rcases cases_of there with old | rfl
    · exact h.proper other old
    · rw [← coded]
      exact learns.proper (coded ▸ h.proper caller member)
  case reads =>
    intro other there
    change ∃ result,
      other.call.generate.outcome world.state.source = (.ok result, world.state.source) ∧ _
    rw [learns.source]
    rcases cases_of there with old | rfl
    · exact h.reads other old
    · exact h.reads caller member
  case cache =>
    intro payload live
    rcases learns.cache live with old | ⟨fetches, leads, held⟩
    · exact h.cache old
    · exact h.leads member fetches.symm leads (coded ▸ held)
  case leads =>
    intro other outcome there fetches leads held
    rcases cases_of there with old | rfl
    · exact h.leads old fetches leads held
    · rcases learns.learned leads (coded ▸ held) with gets | ⟨led, before⟩
      · exact h.known_of_gets member fetches gets
      · exact h.leads member fetches led (coded ▸ before)
  case flights => exact h.flights_step reliable present step
  case joined => exact h.joined_step reliable present step
  case returned => exact h.returned_step reliable present step lawful

end Step

/-- A caller that comes keeps what is known. -/
theorem of_call (h : Informed fit shown codec key known early burst) {newcomer : Caller σ α}
    (called : newcomer.phase = .called) (coded : newcomer.call.codec = codec)
    (reads : ∃ result, newcomer.call.generate.outcome burst.world.state.source =
        (.ok result, burst.world.state.source) ∧
      (newcomer.call.key = key → known (result.map codec.encode))) :
    Informed fit shown codec key known early
      { burst with callers := burst.callers ++ [newcomer] } := by
  have cases_of {other : Caller σ α} (there : other ∈ burst.callers ++ [newcomer]) :
      other ∈ burst.callers ∨ other = newcomer := by
    simpa using there
  -- whoever is in a flight or has returned has been there before
  have earlier {j : Nat} {other : Caller σ α}
      (at_j : (burst.callers ++ [newcomer])[j]? = some other) (moved : other.phase ≠ .called) :
      burst.callers[j]? = some other := by
    rw [List.getElem?_append] at at_j
    split at at_j
    · exact at_j
    · grind
  constructor
  case single => exact h.single.of_call (by rw [called]; rfl)
  case attended => exact h.attended.of_call newcomer
  case fits => exact h.fits
  case coded =>
    intro other there
    rcases cases_of there with old | rfl
    · exact h.coded other old
    · exact coded
  case goes_on =>
    intro other there
    rcases cases_of there with old | rfl
    · exact h.goes_on other old
    · rw [called]
      rfl
  case proper =>
    intro other there
    rcases cases_of there with old | rfl
    · exact h.proper other old
    · rw [called]
      exact nofun
  case reads =>
    intro other there
    rcases cases_of there with old | rfl
    · exact h.reads other old
    · exact reads
  case cache => exact h.cache
  case leads =>
    intro other outcome there fetches leads held
    rcases cases_of there with old | rfl
    · exact h.leads old fetches leads held
    · rw [called] at leads
      cases leads
  case flights => exact h.flights
  case joined =>
    intro j flight other outcome late at_j fetches inside settled
    refine h.joined late (earlier at_j ?_) fetches inside settled
    intro fresh
    rw [fresh] at inside
    cases inside
  case returned =>
    intro j other result late at_j fetches returns
    refine h.returned late (earlier at_j ?_) fetches returns
    intro fresh
    rw [fresh] at returns
    cases returns

/-- What is known stays known while the cache loses entries and the generators go on to get what is
known. -/
theorem of_outside (h : Informed fit shown codec key known early burst) {state : Layered σ β}
    (fits : fit state.cache) (fades : Fading (shown burst.world.state.cache) (shown state.cache))
    (reads : ∀ caller ∈ burst.callers,
      ∃ result, caller.call.generate.outcome state.source = (.ok result, state.source) ∧
        (caller.call.key = key → known (result.map codec.encode))) :
    Informed fit shown codec key known early { burst with world.state := state } where
  single := h.single.of_outside state
  attended := h.attended
  fits := fits
  coded := h.coded
  goes_on := h.goes_on
  proper := h.proper
  reads := reads
  cache live := h.cache (fades _ _ live)
  leads := h.leads
  flights := h.flights
  joined := h.joined
  returned := h.returned

/-- From a moment on at which the cache shows nothing under a key, only that is known which the
generators get or a caller of the key has got already. -/
theorem from_now {other : String} {fresh : Except StorageError Payload → Prop}
    (h : Informed fit shown codec other known early burst)
    (empty : shown burst.world.state.cache key = none)
    (reads : ∀ caller ∈ burst.callers,
      ∃ result, caller.call.generate.outcome burst.world.state.source =
          (.ok result, burst.world.state.source) ∧
        (caller.call.key = key → fresh (result.map codec.encode))) :
    Informed fit shown codec key
      (fun outcome => fresh outcome ∨ ∃ caller ∈ burst.callers, caller.call.key = key ∧
        caller.phase.outcome? codec = some outcome)
      burst.callers.length burst where
  single := h.single
  attended := h.attended
  fits := h.fits
  coded := h.coded
  goes_on := h.goes_on
  proper := h.proper
  reads caller there := by
    obtain ⟨result, ran, gets⟩ := reads caller there
    exact ⟨result, ran, fun fetches => .inl (gets fetches)⟩
  cache live := by
    rw [empty] at live
    cases live
  leads there fetches _ held := .inr ⟨_, there, fetches, held⟩
  flights registered settled := by
    obtain ⟨i, caller, at_i, produced, leaving⟩ := h.attended key _ _ registered settled
    have fetches := h.single.keyed registered at_i (by rw [leaving]; rfl)
    exact .inr ⟨caller, List.mem_of_getElem? at_i, fetches, by rw [leaving]; rfl⟩
  joined late at_j := by
    rw [List.getElem?_eq_none late] at at_j
    cases at_j
  returned late at_j := by
    rw [List.getElem?_eq_none late] at at_j
    cases at_j

/-- When nobody can make a step any more, everybody has a result. -/
theorem result_of_stuck (h : Informed fit shown codec key known early burst)
    (stuck : ∀ i, store.stepBurst burst i = none) (present : burst.callers[i]? = some caller) :
    caller.phase.result?.isSome := by
  have ended := CacheStore.ended_of_stuck h.single stuck present
  have goes_on := h.goes_on caller (List.mem_of_getElem? present)
  cases phase : caller.phase with
  | returned result => rfl
  | stopped | dropped =>
    rw [phase] at goes_on
    cases goes_on
  | _ =>
    rw [phase] at ended
    cases ended

end Informed

end Gazette
