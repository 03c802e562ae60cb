import Gazette.Proofs.Cache.Faithful
import Gazette.Proofs.Flight.Progress
import Gazette.Proofs.Flight.Provenance

/-!
# The value of a burst

When all callers of a burst want the same key, the backend is faithful to it and nobody else
writes it, at most one run of a generator succeeds.  The invariant is about the value that
this run has made: whatever the phases of the callers, the settled flights and the cache say
about a value, they say it about that one.  A caller can miss, be delayed until the flight of
another one is over, and then lead a new flight; it finds the value by looking a second time.
-/

set_option autoImplicit false

namespace Gazette

variable {σ β α : Type}

/-- A call whose generator always ends, with a value or with an error. -/
def FetchCall.Answers (call : FetchCall σ α) : Prop :=
  ∀ source, ∃ outcome after, call.generate.outcome source = (.ok outcome, after)

/-- A call whose generator always ends with a value. -/
def FetchCall.Succeeds (call : FetchCall σ α) : Prop :=
  ∀ source, ∃ value after, call.generate.outcome source = (.ok (.ok value), after)

/-- The moves of a burst for one key in which nobody is dropped: fetches of the key, steps of
callers, and whatever else leaves the entry alone. -/
inductive BurstMove.Quiet (key : String) (codec : Codec α) (fit : β → Prop)
    (shown : β → Option Payload) : BurstMove σ β α → Prop where
  | call {generate : Task σ (Except StorageError α)}
      (answers : FetchCall.Answers ⟨key, codec, generate⟩) :
      BurstMove.Quiet key codec fit shown (.call ⟨key, codec, generate⟩)
  | advance {i : Nat} : BurstMove.Quiet key codec fit shown (.advance i)
  | outside {change : Layered σ β → Layered σ β}
      (still : ∀ state, fit state.cache →
        fit (change state).cache ∧ shown (change state).cache = shown state.cache) :
      BurstMove.Quiet key codec fit shown (.outside change)

namespace Event

/-- Whether an event is the start of a generator. -/
def isBegin : Event α → Bool
  | .began _ _ => true
  | _ => false

/-- Whether an event is the end of a generator. -/
def isEnd : Event α → Bool
  | .ended _ _ _ _ => true
  | _ => false

/-- Whether an event is the end of a generator that has made a value. -/
def isSuccess : Event α → Bool
  | .ended _ _ (.ok _) _ => true
  | _ => false

end Event

namespace FetchPhase

/-- Whether the generator of a caller in a phase has made a value. -/
def hasMade : FetchPhase α → Bool
  | .populating _ _ | .populated _ _ | .leaving _ _ (some _) | .returned (.ok ⟨_, false⟩) => true
  | _ => false

/-- Whether a caller in a phase is about to write into the cache. -/
def isPopulating : FetchPhase α → Bool
  | .populating _ _ => true
  | _ => false

/-- The result of a caller shows whether its own generator has made the value. -/
theorem hasMade_conclude (codec : Codec α) (flight : Nat)
    (outcome : Except StorageError Payload) (produced : Option α) :
    (FetchPhase.leaving flight outcome produced).hasMade =
      (FetchPhase.returned (CacheStore.conclude codec outcome produced)).hasMade := by
  cases produced with
  | some value => rfl
  | none =>
    cases outcome with
    | error error => rfl
    | ok payload =>
      cases decoded : CacheStore.decoded codec payload <;>
        simp [CacheStore.conclude, decoded, hasMade]

/-- A caller that is about to write into the cache leads a flight. -/
theorem led?_of_isPopulating {phase : FetchPhase α} (h : phase.isPopulating) :
    ∃ flight, phase.led? = some flight := by
  cases phase with
  | populating flight value => exact ⟨flight, rfl⟩
  | _ => cases h

/-- A phase says nothing about a value but that it is the one that has been made, if any, and an
error only if some generator has ended with it. -/
def Agrees (codec : Codec α) (events : List (Event α)) (made : Option α) : FetchPhase α → Prop
  | .called | .missed | .joined _ | .leading _ => True
  | .checked _ none | .generating _ => made = none
  | .checked _ (some payload) => ∃ value, made = some value ∧ payload = codec.encode value
  | .populating _ value | .populated _ value => made = some value
  | .leaving _ (.ok payload) produced =>
    ∃ value, made = some value ∧ payload = codec.encode value ∧
      (produced = none ∨ produced = some value)
  | .leaving _ (.error _) produced => produced = none
  | .returned (.ok fetched) => made = some fetched.value
  | .returned (.error error) =>
    ∃ leader flight produced, .ended leader flight (.error error) produced ∈ events
  | .stopped | .dropped => False

variable {codec : Codec α} {events : List (Event α)} {made : Option α} {phase : FetchPhase α}

/-- What a phase says about the value does not change with what others do. -/
theorem Agrees.append (h : phase.Agrees codec events made) (more : List (Event α)) :
    phase.Agrees codec (events ++ more) made := by
  cases phase with
  | returned result =>
    cases result with
    | ok fetched => exact h
    | error error =>
      obtain ⟨leader, flight, produced, ended⟩ := h
      exact ⟨leader, flight, produced, List.mem_append_left more ended⟩
  | checked flight found => cases found <;> exact h
  | leaving flight outcome produced => cases outcome <;> exact h
  | _ => exact h

/-- A value can be made while nobody else leads a flight. -/
theorem Agrees.make (h : phase.Agrees codec events none) (follows : phase.led? = none)
    (value : α) : phase.Agrees codec events (some value) := by
  cases phase with
  | returned result =>
    cases result with
    | ok fetched => cases h
    | error error => exact h
  | leaving flight outcome produced =>
    cases outcome with
    | ok payload =>
      obtain ⟨other, known, -⟩ := h
      cases known
    | error error => exact h
  | called | missed | joined flight | stopped | dropped => exact h
  | _ => cases follows

/-- In a burst for one key a caller can only end with a result. -/
theorem Agrees.result?_of_rank (h : phase.Agrees codec events made) (ended : phase.rank = 0) :
    phase.result?.isSome := by
  cases phase with
  | returned result => rfl
  | stopped | dropped => exact h.elim
  | _ => cases ended

/-- A caller that has made a value has made the one that the phases agree on. -/
theorem Agrees.isSome_of_hasMade (h : phase.Agrees codec events made) (makes : phase.hasMade) :
    made.isSome := by
  cases phase with
  | populating flight value | populated flight value =>
    have known : made = some value := h
    rw [known]
    rfl
  | returned result =>
    cases result with
    | ok fetched =>
      have known : made = some fetched.value := h
      rw [known]
      rfl
    | error error => cases makes
  | leaving flight outcome produced =>
    cases outcome with
    | ok payload =>
      obtain ⟨value, known, -⟩ := h
      rw [known]
      rfl
    | error error =>
      have nothing : produced = none := h
      subst nothing
      cases makes
  | _ => cases makes

end FetchPhase

/-- Replacing an element of a list changes a count by that element only. -/
theorem countP_set_add {γ : Type} (p : γ → Bool) (new : γ) {items : List γ} {i : Nat} {old : γ}
    (h : items[i]? = some old) :
    (items.set i new).countP p + (p old).toNat = items.countP p + (p new).toNat := by
  induction items generalizing i with
  | nil => simp at h
  | cons item items ih =>
    cases i with
    | zero =>
      simp only [List.getElem?_cons_zero, Option.some.injEq] at h
      subst h
      simp only [List.set_cons_zero, List.countP_cons]
      cases p item <;> cases p new <;> simp
    | succ i =>
      have rest := ih (i := i) (by simpa using h)
      simp only [List.set_cons_succ, List.countP_cons]
      omega

namespace CallerStep

variable {store : CacheStore β} {i : Nat} {call : FetchCall σ α} {world after : BurstWorld σ β}
  {phase next : FetchPhase α}

/-- The end of a successful run is the step that makes a value. -/
theorem countP_isSuccess (step : CallerStep store i call world phase after next)
    (kept : next.isLost = false) :
    (Event.ofStep i call.codec phase next).countP Event.isSuccess + phase.hasMade.toNat =
      next.hasMade.toNat := by
  cases step with
  | stopLooking | stopChecking | stopGenerating | stopWriting => cases kept
  | @leave flight outcome produced =>
    show 0 + (FetchPhase.leaving flight outcome produced).hasMade.toNat = _
    rw [FetchPhase.hasMade_conclude, Nat.zero_add]
  | _ => rfl

/-- A generator runs between its start and its end. -/
theorem countP_isBegin (step : CallerStep store i call world phase after next)
    (kept : next.isLost = false) :
    (Event.ofStep i call.codec phase next).countP Event.isBegin + phase.isGenerating.toNat =
      (Event.ofStep i call.codec phase next).countP Event.isEnd + next.isGenerating.toNat := by
  cases step with
  | stopLooking | stopChecking | stopGenerating | stopWriting => cases kept
  | _ => rfl

end CallerStep

/-- The invariant of a burst for one key, with the value that has been made so far.  The key
showed `first` at the beginning. -/
structure Coalesced (key : String) (codec : Codec α) (fit : β → Prop)
    (shown : β → Option Payload) (first : Option Payload) (made : Option α)
    (chronicle : Chronicle σ β α) : Prop where
  /-- Everybody fetches the key. -/
  call {i : Nat} {caller : Caller σ α} : chronicle.burst.callers[i]? = some caller →
    caller.call.key = key ∧ caller.call.codec = codec ∧ caller.call.Answers
  /-- The phases agree on the value. -/
  agrees {i : Nat} {caller : Caller σ α} : chronicle.burst.callers[i]? = some caller →
    caller.phase.Agrees codec chronicle.events made
  /-- Somebody has made the value. -/
  maker : made.isSome → ∃ (i : Nat) (caller : Caller σ α), chronicle.burst.callers[i]? = some caller ∧
    caller.phase.hasMade
  /-- Only one caller has made it. -/
  one_maker {i j : Nat} {caller other : Caller σ α} :
    chronicle.burst.callers[i]? = some caller → caller.phase.hasMade →
      chronicle.burst.callers[j]? = some other → other.phase.hasMade → i = j
  /-- The payloads of settled flights are that of the value. -/
  settled {flight : Nat} {payload : Payload} :
    chronicle.burst.world.flights.states[flight]? = some (.settled (.ok payload)) →
      ∃ value, made = some value ∧ payload = codec.encode value
  /-- The backend is in a fit state. -/
  fits : fit chronicle.burst.world.state.cache
  /-- The key shows what it showed at the beginning, or the value. -/
  shows : shown chronicle.burst.world.state.cache = first ∨
    ∃ value, made = some value ∧
      shown chronicle.burst.world.state.cache = some (codec.encode value)
  /-- The key shows the value unless it is still to be written. -/
  written {value : α} : made = some value →
    (∀ (i : Nat) (caller : Caller σ α), chronicle.burst.callers[i]? = some caller →
      caller.phase.isPopulating = false) →
    shown chronicle.burst.world.state.cache = some (codec.encode value)
  /-- There are as many callers that have made a value as successful runs. -/
  successes : chronicle.events.countP Event.isSuccess =
    chronicle.burst.callers.countP fun caller => caller.phase.hasMade
  /-- A generator that has started has ended or is running. -/
  runs : chronicle.events.countP Event.isBegin = chronicle.events.countP Event.isEnd +
    chronicle.burst.callers.countP fun caller => caller.phase.isGenerating

namespace Coalesced

variable {store : CacheStore β} {key : String} {codec : Codec α} {fit : β → Prop}
  {shown : β → Option Payload} {first : Option Payload} {made : Option α}
  {chronicle : Chronicle σ β α} {i : Nat} {caller : Caller σ α} {world : BurstWorld σ β}
  {next : FetchPhase α}
  (faithful : Faithful store key fit shown)
  (h : Coalesced key codec fit shown first made chronicle)
  (present : chronicle.burst.callers[i]? = some caller)
  (step : CallerStep store i caller.call chronicle.burst.world caller.phase world next)

include faithful h present step

/-- A step of a caller leaves the backend fit and what the key shows as it is, unless it writes
the value that the caller has made. -/
theorem cache_step :
    fit world.state.cache ∧ next.isLost = false ∧
      (caller.phase.isPopulating = false ∧
          shown world.state.cache = shown chronicle.burst.world.state.cache ∨
        ∃ flight value, caller.phase = .populating flight value ∧
          next = .populated flight value ∧
          shown world.state.cache = some (codec.encode value)) := by
  obtain ⟨same_key, same_codec, answers⟩ := h.call present
  have fits := h.fits
  obtain ⟨call, phase⟩ := caller
  cases step with
  | hit look | miss look =>
    rw [same_key] at look
    obtain ⟨-, still_fits, same⟩ := faithful.of_cached? fits look
    exact ⟨still_fits, rfl, .inl ⟨rfl, same⟩⟩
  | check look =>
    rw [same_key] at look
    obtain ⟨-, still_fits, same⟩ := faithful.of_payload? fits look
    exact ⟨still_fits, rfl, .inl ⟨rfl, same⟩⟩
  | stopLooking look =>
    rw [same_key] at look
    cases (faithful.of_cached? fits look).1
  | stopChecking look =>
    rw [same_key] at look
    cases (faithful.of_payload? fits look).1
  | @write state flight value wrote =>
    rw [same_key] at wrote
    obtain ⟨-, still_fits, same⟩ := faithful.of_populate fits wrote
    rw [same_codec] at same
    exact ⟨still_fits, rfl, .inr ⟨flight, value, rfl, rfl, same⟩⟩
  | stopWriting wrote =>
    rw [same_key] at wrote
    cases (faithful.of_populate fits wrote).1
  | produce ran | fail ran =>
    rw [Layered.outcome_onSource, Prod.mk.injEq] at ran
    obtain ⟨-, rfl⟩ := ran
    exact ⟨fits, rfl, .inl ⟨rfl, rfl⟩⟩
  | stopGenerating ran =>
    obtain ⟨outcome, after, ended⟩ := answers chronicle.burst.world.state.source
    rw [Layered.outcome_onSource, ended] at ran
    cases ran
  | join | lead | share | reuse | begin | settle | leave =>
    exact ⟨fits, rfl, .inl ⟨rfl, rfl⟩⟩

variable (single : SingleFlight chronicle.burst) (traced : Traced chronicle)
  (round : ∀ value, codec.decode (codec.encode value) = .ok value)
  (unreadable : ∀ payload, first = some payload → (codec.decode payload).toBool = false)

omit faithful present step in
/-- If the key shows a payload that can be read, then it is that of the value. -/
theorem made_of_shown {payload : Payload}
    (unreadable : ∀ payload, first = some payload → (codec.decode payload).toBool = false)
    (shows : shown chronicle.burst.world.state.cache = some payload)
    (readable : (codec.decode payload).toBool = true) :
    ∃ value, made = some value ∧ payload = codec.encode value := by
  rcases h.shows with same | ⟨value, known, same⟩
  · have not_readable := unreadable payload (by rw [← same, shows])
    rw [readable] at not_readable
    cases not_readable
  · rw [shows, Option.some.injEq] at same
    exact ⟨value, known, same⟩

omit faithful step in
/-- While a caller leads a flight nobody else leads one. -/
theorem only_leader (single : SingleFlight chronicle.burst) {j flight other_flight : Nat}
    {other : Caller σ α} (at_j : chronicle.burst.callers[j]? = some other)
    (leads : caller.phase.led? = some flight) (also_leads : other.phase.led? = some other_flight) :
    i = j := by
  have registered := single.registered_of_led present leads
  have also_registered := single.registered_of_led at_j also_leads
  rw [(h.call present).1] at registered
  rw [(h.call at_j).1, registered, Option.some.injEq] at also_registered
  subst also_registered
  exact single.leader_unique present at_j leads also_leads

include single traced round unreadable

omit faithful step traced unreadable in
/-- If a leader finds nothing that can be read then no value has been made. -/
theorem made_of_check {flight : Nat} {found : Option Payload}
    (leads : caller.phase = .leading flight)
    (shows : found = shown chronicle.burst.world.state.cache)
    (nothing : (found.filter fun payload => (codec.decode payload).toBool) = none) :
    made = none := by
  cases known : made with
  | none => rfl
  | some value =>
    -- whoever still had to write the value would lead the flight as well
    have nobody : ∀ (j : Nat) (other : Caller σ α), chronicle.burst.callers[j]? = some other →
        other.phase.isPopulating = false := by
      intro j other at_j
      cases writes : other.phase.isPopulating with
      | false => rfl
      | true =>
        obtain ⟨other_flight, also_leads⟩ := FetchPhase.led?_of_isPopulating writes
        have same := h.only_leader present single at_j (by rw [leads]; rfl) also_leads
        subst same
        rw [present, Option.some.injEq] at at_j
        subst at_j
        rw [leads] at writes
        cases writes
    rw [shows, h.written known nobody] at nothing
    simp [round, Except.toBool] at nothing

/-- After a step the phase of the caller agrees with the value, unless the step has made it. -/
theorem agrees_step :
    (next.hasMade = caller.phase.hasMade ∧
      next.Agrees codec
        (chronicle.events ++ Event.ofStep i caller.call.codec caller.phase next) made) ∨
    ∃ flight value, caller.phase = .generating flight ∧ next = .populating flight value := by
  have kept := (h.cache_step faithful present step).2.1
  have agrees := h.agrees present
  have accounts := traced.accounts present
  obtain ⟨same_key, same_codec, answers⟩ := h.call present
  have fits := h.fits
  obtain ⟨⟨own_key, own_codec, generate⟩, phase⟩ := caller
  subst same_key same_codec
  cases step with
  | stopLooking | stopChecking | stopGenerating | stopWriting => cases kept
  | miss | join | lead => exact .inl ⟨rfl, trivial⟩
  | @hit state value look =>
    obtain ⟨same, -, -⟩ := faithful.of_cached? fits look
    rw [Except.ok.injEq, eq_comm, Option.bind_eq_some_iff] at same
    obtain ⟨payload, shows, decoded⟩ := same
    obtain ⟨readable, ended⟩ : (own_codec.decode payload).toBool = true ∧
        own_codec.decode payload = .ok value := by
      cases result : own_codec.decode payload with
      | error fault => simp [result, Except.toOption] at decoded
      | ok other =>
        simp only [result, Except.toOption, Option.some.injEq] at decoded
        exact ⟨rfl, by rw [decoded]⟩
    obtain ⟨winner, known, rfl⟩ := h.made_of_shown unreadable shows readable
    rw [round winner, Except.ok.injEq] at ended
    subst ended
    exact .inl ⟨rfl, known⟩
  | @share flight outcome settled =>
    refine .inl ⟨rfl, ?_⟩
    cases outcome with
    | error error => rfl
    | ok payload =>
      obtain ⟨value, known, same⟩ := h.settled settled
      exact ⟨value, known, same, .inl rfl⟩
  | @check state flight found look =>
    obtain ⟨same, -, -⟩ := faithful.of_payload? fits look
    rw [Except.ok.injEq] at same
    refine .inl ⟨rfl, ?_⟩
    cases known : found.filter fun payload => (own_codec.decode payload).toBool with
    | none => exact h.made_of_check present single round rfl same known
    | some payload =>
      obtain ⟨shows, readable⟩ := Option.filter_eq_some_iff.mp known
      exact h.made_of_shown unreadable (by rw [← same, shows]) readable
  | reuse =>
    obtain ⟨value, known, same⟩ := agrees
    exact .inl ⟨rfl, value, known, same, .inl rfl⟩
  | begin => exact .inl ⟨rfl, agrees⟩
  | @produce state flight value ran => exact .inr ⟨flight, value, rfl, rfl⟩
  | fail ran => exact .inl ⟨rfl, rfl⟩
  | write wrote => exact .inl ⟨rfl, agrees⟩
  | settle => exact .inl ⟨rfl, _, agrees, rfl, .inr rfl⟩
  | @leave flight outcome produced =>
    cases outcome with
    | error error =>
      have nothing : produced = none := agrees
      subst nothing
      refine .inl ⟨rfl, ?_⟩
      obtain ⟨-, ⟨_, _, other, -⟩ | ⟨leader, made, ended⟩, -⟩ := accounts
      · cases other
      · exact ⟨leader, flight, made, List.mem_append_left _ ended⟩
    | ok payload =>
      obtain ⟨value, known, same, rfl | rfl⟩ := agrees
      · have decoded : own_codec.decode payload = .ok value := by rw [same, round]
        have concluded : CacheStore.conclude own_codec (.ok payload) none = .ok ⟨value, true⟩ := by
          simp [CacheStore.conclude, CacheStore.decoded, decoded, Except.mapError]
        rw [concluded]
        exact .inl ⟨rfl, known⟩
      · exact .inl ⟨rfl, known⟩

omit faithful step single traced round unreadable in
/-- A caller that goes to another phase still fetches the key. -/
theorem call_moved {j : Nat} {other : Caller σ α}
    (at_j : (chronicle.burst.callers.set i { caller with phase := next })[j]? = some other) :
    other.call.key = key ∧ other.call.codec = codec ∧ other.call.Answers := by
  by_cases same : i = j
  · subst same
    have inside : i < chronicle.burst.callers.length := (List.getElem?_eq_some_iff.mp present).1
    rw [List.getElem?_set_self inside, Option.some.injEq] at at_j
    subst at_j
    show caller.call.key = key ∧ caller.call.codec = codec ∧ caller.call.Answers
    exact h.call present
  · rw [List.getElem?_set_ne same] at at_j
    exact h.call at_j

omit single traced round unreadable in
/-- After a step there are still as many callers that have made a value as successful runs, and
every generator that has started has ended or is running. -/
theorem counts_step :
    (chronicle.events ++ Event.ofStep i caller.call.codec caller.phase next).countP
        Event.isSuccess =
      (chronicle.burst.callers.set i { caller with phase := next }).countP
        (fun caller => caller.phase.hasMade) ∧
    (chronicle.events ++ Event.ofStep i caller.call.codec caller.phase next).countP
        Event.isBegin =
      (chronicle.events ++ Event.ofStep i caller.call.codec caller.phase next).countP
        Event.isEnd +
      (chronicle.burst.callers.set i { caller with phase := next }).countP
        (fun caller => caller.phase.isGenerating) := by
  have kept := (h.cache_step faithful present step).2.1
  have successes := step.countP_isSuccess kept
  have begins := step.countP_isBegin kept
  have makers := countP_set_add (fun caller : Caller σ α => caller.phase.hasMade)
    { caller with phase := next } present
  have running := countP_set_add (fun caller : Caller σ α => caller.phase.isGenerating)
    { caller with phase := next } present
  have before_successes := h.successes
  have before_runs := h.runs
  simp only [List.countP_append] at makers running ⊢
  constructor <;> omega

omit single traced round unreadable in
/-- A step that makes no value keeps the invariant for the value. -/
theorem keeps_of_agrees (same_made : next.hasMade = caller.phase.hasMade)
    (agrees : next.Agrees codec
      (chronicle.events ++ Event.ofStep i caller.call.codec caller.phase next) made) :
    Coalesced key codec fit shown first made
      ⟨⟨world, chronicle.burst.callers.set i { caller with phase := next }⟩,
        chronicle.events ++ Event.ofStep i caller.call.codec caller.phase next⟩ := by
  obtain ⟨still_fits, kept, cache⟩ := h.cache_step faithful present step
  have own := h.agrees present
  have after := SingleFlight.getElem?_moved present next world.flights world.state
  constructor
  case call => exact h.call_moved present
  case agrees =>
    intro j other at_j
    rw [after] at at_j
    split at at_j
    · cases at_j
      exact agrees
    · exact (h.agrees at_j).append _
  case maker =>
    intro known
    obtain ⟨j, other, at_j, makes⟩ := h.maker known
    by_cases same : i = j
    · subst same
      rw [present, Option.some.injEq] at at_j
      subst at_j
      exact ⟨i, _, by rw [after, if_pos rfl], by rw [same_made]; exact makes⟩
    · exact ⟨j, other, by rw [after, if_neg same, at_j], makes⟩
  case one_maker =>
    -- the step makes no value, so both makers have been there before it
    have earlier : ∀ {j : Nat} {other : Caller σ α},
        (chronicle.burst.callers.set i { caller with phase := next })[j]? = some other →
          other.phase.hasMade →
          ∃ old, chronicle.burst.callers[j]? = some old ∧ old.phase.hasMade := by
      intro j other at_j makes
      rw [after] at at_j
      split at at_j
      · rename_i same
        subst same
        cases at_j
        exact ⟨caller, present, by rw [← same_made]; exact makes⟩
      · exact ⟨other, at_j, makes⟩
    intro j k other another at_j makes at_k also_makes
    obtain ⟨first_maker, at_j, makes⟩ := earlier at_j makes
    obtain ⟨second_maker, at_k, also_makes⟩ := earlier at_k also_makes
    exact h.one_maker at_j makes at_k also_makes
  case settled =>
    intro flight payload settled
    by_cases before :
        chronicle.burst.world.flights.states[flight]? = some (.settled (.ok payload))
    · exact h.settled before
    · obtain ⟨produced, rfl⟩ := step.flightMove.leaves_of_settled settled before
      obtain ⟨value, known, same, -⟩ := agrees
      exact ⟨value, known, same⟩
  case fits => exact still_fits
  case shows =>
    obtain ⟨-, same⟩ | ⟨flight, value, before, -, shows⟩ := cache
    · rw [same]
      exact h.shows
    · rw [before] at own
      exact .inr ⟨value, own, shows⟩
  case written =>
    intro value known nobody
    obtain ⟨idle, same⟩ | ⟨flight, written, before, -, shows⟩ := cache
    · rw [same]
      apply h.written known
      intro j other at_j
      by_cases same : i = j
      · subst same
        rw [present, Option.some.injEq] at at_j
        subst at_j
        exact idle
      · exact nobody j other (by rw [after, if_neg same, at_j])
    · rw [before] at own
      have also_known : made = some written := own
      rw [known, Option.some.injEq] at also_known
      rw [shows, also_known]
  case successes => exact (h.counts_step faithful present step).1
  case runs => exact (h.counts_step faithful present step).2

omit traced round unreadable in
/-- A step that makes a value keeps the invariant for that value. -/
theorem keeps_of_produce {flight : Nat} {value : α} (before : caller.phase = .generating flight)
    (produces : next = .populating flight value) :
    Coalesced key codec fit shown first (some value)
      ⟨⟨world, chronicle.burst.callers.set i { caller with phase := next }⟩,
        chronicle.events ++ Event.ofStep i caller.call.codec caller.phase next⟩ := by
  obtain ⟨still_fits, kept, cache⟩ := h.cache_step faithful present step
  have after := SingleFlight.getElem?_moved present next world.flights world.state
  have unmade : made = none := by
    have own := h.agrees present
    rw [before] at own
    exact own
  subst unmade
  constructor
  case call => exact h.call_moved present
  case agrees =>
    intro j other at_j
    rw [after] at at_j
    split at at_j
    · cases at_j
      rw [produces]
      exact rfl
    · rename_i different
      have follows : other.phase.led? = none := by
        cases also_leads : other.phase.led? with
        | none => rfl
        | some other_flight =>
          have leads : caller.phase.led? = some flight := by rw [before]; rfl
          exact absurd (h.only_leader present single at_j leads also_leads) different
      exact ((h.agrees at_j).make follows value).append _
  case maker => exact fun _ => ⟨i, _, by rw [after, if_pos rfl], by rw [produces]; rfl⟩
  case one_maker =>
    have only : ∀ {j : Nat} {other : Caller σ α},
        (chronicle.burst.callers.set i { caller with phase := next })[j]? = some other →
          other.phase.hasMade → i = j := by
      intro j other at_j makes
      rw [after] at at_j
      split at at_j
      · assumption
      · cases (h.agrees at_j).isSome_of_hasMade makes
    intro j k other another at_j makes at_k also_makes
    rw [← only at_j makes, ← only at_k also_makes]
  case settled =>
    intro other_flight payload settled
    by_cases earlier :
        chronicle.burst.world.flights.states[other_flight]? = some (.settled (.ok payload))
    · obtain ⟨other, known, -⟩ := h.settled earlier
      cases known
    · obtain ⟨produced, leaves⟩ := step.flightMove.leaves_of_settled settled earlier
      rw [produces] at leaves
      cases leaves
  case fits => exact still_fits
  case shows =>
    obtain ⟨-, same⟩ | ⟨_, _, writes, -⟩ := cache
    · obtain shows | ⟨other, known, -⟩ := h.shows
      · exact .inl (by rw [same, shows])
      · cases known
    · rw [before] at writes
      cases writes
  case written =>
    intro other known nobody
    have idle := nobody i _ (by rw [after, if_pos rfl])
    rw [produces] at idle
    cases idle
  case successes => exact (h.counts_step faithful present step).1
  case runs => exact (h.counts_step faithful present step).2

/-- A step of a caller keeps the invariant.  The value may be made by it. -/
theorem step_keeps :
    ∃ later, Coalesced key codec fit shown first later
      ⟨⟨world, chronicle.burst.callers.set i { caller with phase := next }⟩,
        chronicle.events ++ Event.ofStep i caller.call.codec caller.phase next⟩ := by
  obtain ⟨same_made, agrees⟩ | ⟨flight, value, before, produces⟩ :=
    h.agrees_step faithful present step single traced round unreadable
  · exact ⟨made, h.keeps_of_agrees faithful present step same_made agrees⟩
  · exact ⟨some value, h.keeps_of_produce faithful present step single before produces⟩

omit faithful h present step single traced round unreadable

/-- Before the first call no value has been made. -/
theorem of_start {state : Layered σ β} (fits : fit state.cache) :
    Coalesced key codec fit shown (shown state.cache) none
      (Chronicle.start state : Chronicle σ β α) where
  call at_i := by simp [Chronicle.start] at at_i
  agrees at_i := by simp [Chronicle.start] at at_i
  maker known := by cases known
  one_maker at_i := by simp [Chronicle.start] at at_i
  settled at_flight := by simp [Chronicle.start] at at_flight
  fits := fits
  shows := .inl rfl
  written known := by cases known
  successes := rfl
  runs := rfl

include h in
/-- A call of a fetch of the key keeps the invariant. -/
theorem call_keeps {newcomer : Caller σ α} (called : newcomer.phase = .called)
    (fetches : newcomer.call.key = key ∧ newcomer.call.codec = codec ∧ newcomer.call.Answers) :
    Coalesced key codec fit shown first made
      { burst := { chronicle.burst with callers := chronicle.burst.callers ++ [newcomer] }
        events := chronicle.events ++ [.called chronicle.burst.callers.length] } := by
  have after : ∀ {j : Nat} {other : Caller σ α},
      (chronicle.burst.callers ++ [newcomer])[j]? = some other →
        chronicle.burst.callers[j]? = some other ∨ other = newcomer := by
    intro j other at_j
    grind
  have makes_nothing : newcomer.phase.hasMade = false := by rw [called]; rfl
  have later : ∀ {j : Nat} {other : Caller σ α}, chronicle.burst.callers[j]? = some other →
      (chronicle.burst.callers ++ [newcomer])[j]? = some other := by
    intro j other at_j
    rwa [List.getElem?_append_left (List.getElem?_eq_some_iff.mp at_j).1]
  have earlier : ∀ {j : Nat} {other : Caller σ α},
      (chronicle.burst.callers ++ [newcomer])[j]? = some other → other.phase.hasMade →
        chronicle.burst.callers[j]? = some other := by
    intro j other at_j makes
    obtain at_j | rfl := after at_j
    · exact at_j
    · rw [makes_nothing] at makes
      cases makes
  constructor
  case call =>
    intro j other at_j
    obtain at_j | rfl := after at_j
    · exact h.call at_j
    · exact fetches
  case agrees =>
    intro j other at_j
    obtain at_j | rfl := after at_j
    · exact (h.agrees at_j).append _
    · rw [called]
      trivial
  case maker =>
    intro known
    obtain ⟨j, other, at_j, makes⟩ := h.maker known
    exact ⟨j, other, later at_j, makes⟩
  case one_maker =>
    intro j k other another at_j makes at_k also_makes
    exact h.one_maker (earlier at_j makes) makes (earlier at_k also_makes) also_makes
  case settled => exact h.settled
  case fits => exact h.fits
  case shows => exact h.shows
  case written =>
    intro value known nobody
    exact h.written known fun j other at_j => nobody j other (later at_j)
  case successes =>
    have before := h.successes
    simp [List.countP_append, Event.isSuccess, makes_nothing, before]
  case runs =>
    have before := h.runs
    have idle : newcomer.phase.isGenerating = false := by rw [called]; rfl
    simp [List.countP_append, Event.isBegin, Event.isEnd, idle, before]

include h in
/-- What leaves the entry alone keeps the invariant. -/
theorem outside_keeps {state : Layered σ β} (still_fits : fit state.cache)
    (same : shown state.cache = shown chronicle.burst.world.state.cache) :
    Coalesced key codec fit shown first made
      { chronicle with burst.world.state := state } where
  call := h.call
  agrees := h.agrees
  maker := h.maker
  one_maker := h.one_maker
  settled := h.settled
  fits := still_fits
  shows := by
    show shown state.cache = first ∨ ∃ value, made = some value ∧
      shown state.cache = some (codec.encode value)
    rw [same]
    exact h.shows
  written known nobody := by
    show shown state.cache = _
    rw [same]
    exact h.written known nobody
  successes := h.successes
  runs := h.runs

end Coalesced

end Gazette
