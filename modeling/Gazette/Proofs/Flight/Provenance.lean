import Gazette.Proofs.Flight.SingleFlight

/-!
# Where results come from

Every result of a fetch is explained by what has happened before: the caller has found it in
the cache after it was called, or it comes from a flight that the caller has joined after it
was called and found nothing.  The outcome of a flight is what its leader has read or made.  A
caller may join a flight that is already settled, but never one that somebody has left: the
first who leaves it takes it out of the register.
-/

set_option autoImplicit false

namespace Gazette

variable {σ β α : Type}

namespace Event

variable {events more : List (Event α)}

/-- A caller has joined a flight after it was called and has found nothing, and nobody had left
the flight by then. -/
structure Joins (events : List (Event α)) (i flight : Nat) : Prop where
  looked : Before events (.called i) (.looked i none)
  joined : Before events (.looked i none) (.joined i flight)
  unleft_joined (j : Nat) : ¬ Before events (.left j flight) (.joined i flight)
  unleft_called (j : Nat) : ¬ Before events (.left j flight) (.called i)

/-- Nothing among some events is the call of a caller or its joining of a flight. -/
structure Silent (i : Nat) (events : List (Event α)) : Prop where
  called : .called i ∉ events
  joined (flight : Nat) : .joined i flight ∉ events

/-- An outcome of a flight is a payload that a leader of it has read, or what the generator of
a leader of it has ended with. -/
def Source (events : List (Event α)) (flight : Nat) (outcome : Except StorageError Payload) :
    Prop :=
  (∃ leader payload, outcome = .ok payload ∧ .checked leader flight (some payload) ∈ events) ∨
    ∃ leader produced, .ended leader flight outcome produced ∈ events

/-- The ways in which a caller can have come to a result: its key is empty, it has found a value
in the cache, or it has shared in a flight, where only a value of its own generator counts as
produced. -/
inductive Explains (events : List (Event α)) (i : Nat) (call : FetchCall σ α) :
    Except StorageError (Fetched α) → Prop where
  | refused (empty : call.key = "") : Explains events i call (.error (.cache .invalidKey))
  | found {value : α} (look : Before events (.called i) (.looked i (some value))) :
      Explains events i call (.ok ⟨value, true⟩)
  | shared {flight : Nat} {outcome : Except StorageError Payload} {produced : Option α}
      (joins : Joins events i flight) (source : Source events flight outcome)
      (own : ∀ value, produced = some value → .ended i flight outcome (some value) ∈ events) :
      Explains events i call (CacheStore.conclude call.codec outcome produced)

/-- What the phase of a caller says about the events so far. -/
def Accounts (events : List (Event α)) (i : Nat) (call : FetchCall σ α) : FetchPhase α → Prop
  | .called | .stopped | .dropped => True
  | .missed => Before events (.called i) (.looked i none)
  | .joined flight | .leading flight | .checked flight none | .generating flight =>
    Joins events i flight
  | .checked flight (some payload) =>
    Joins events i flight ∧ .checked i flight (some payload) ∈ events
  | .populating flight value | .populated flight value =>
    Joins events i flight ∧ .ended i flight (.ok (call.codec.encode value)) (some value) ∈ events
  | .leaving flight outcome produced =>
    Joins events i flight ∧ Source events flight outcome ∧
      ∀ value, produced = some value → .ended i flight outcome (some value) ∈ events
  | .returned result => Explains events i call result

/-- When something happens next that is not the second of two events, their order is the same
as before. -/
theorem before_append {first second : Event α} (h : second ∉ more) :
    Before (events ++ more) first second ↔ Before events first second := by
  constructor
  · rintro ⟨past, later, split, early⟩
    obtain ⟨between, rfl, rfl⟩ | ⟨between, rfl, rest⟩ := List.append_eq_append_iff.mp split
    · simp at h
    · cases between with
      | nil =>
        rw [List.nil_append] at rest
        simp [← rest] at h
      | cons event between =>
        rw [List.cons_append, List.cons.injEq] at rest
        exact ⟨past, between, by rw [← rest.1], early⟩
  · exact fun before => before.append more

/-- What comes before the last event has happened earlier. -/
theorem mem_of_before {first second last : Event α} (h : Before (events ++ [last]) first second) :
    first ∈ events := by
  obtain ⟨past, later, split, early⟩ := h
  obtain ⟨between, rfl, rest⟩ | ⟨between, rfl, -⟩ := List.append_eq_append_iff.mp split
  · cases between with
    | nil => simpa using early
    | cons event between => simp at rest
  · exact List.mem_append_left between early

/-- A caller that has joined a flight has done so whatever others do next. -/
theorem Joins.append {i flight : Nat} (h : Joins events i flight) (silent : Silent i more) :
    Joins (events ++ more) i flight where
  looked := h.looked.append more
  joined := h.joined.append more
  unleft_joined j := by
    rw [before_append (silent.joined flight)]
    exact h.unleft_joined j
  unleft_called j := by
    rw [before_append silent.called]
    exact h.unleft_called j

/-- The source of an outcome stays one. -/
theorem Source.append {flight : Nat} {outcome : Except StorageError Payload}
    (h : Source events flight outcome) (more : List (Event α)) :
    Source (events ++ more) flight outcome := by
  rcases h with ⟨leader, payload, same, checked⟩ | ⟨leader, produced, ended⟩
  · exact .inl ⟨leader, payload, same, List.mem_append_left more checked⟩
  · exact .inr ⟨leader, produced, List.mem_append_left more ended⟩

/-- What explains a result goes on explaining it. -/
theorem Explains.append {i : Nat} {call : FetchCall σ α}
    {result : Except StorageError (Fetched α)} (h : Explains events i call result)
    (silent : Silent i more) : Explains (events ++ more) i call result := by
  cases h with
  | refused empty => exact .refused empty
  | found look => exact .found (look.append more)
  | @shared flight outcome produced joins source own =>
    apply Explains.shared (joins.append silent) (source.append more)
    intro value made
    exact List.mem_append_left more (own value made)

/-- What a phase says stays true as long as the caller makes no step. -/
theorem Accounts.append {i : Nat} {call : FetchCall σ α} {phase : FetchPhase α}
    (h : Accounts events i call phase) (silent : Silent i more) :
    Accounts (events ++ more) i call phase := by
  cases phase with
  | called | stopped | dropped => trivial
  | missed => exact Before.append h more
  | joined flight | leading flight | generating flight => exact Joins.append h silent
  | checked flight found =>
    cases found with
    | none => exact Joins.append h silent
    | some payload => exact ⟨h.1.append silent, List.mem_append_left more h.2⟩
  | populating flight value | populated flight value =>
    exact ⟨h.1.append silent, List.mem_append_left more h.2⟩
  | leaving flight outcome produced =>
    refine ⟨h.1.append silent, h.2.1.append more, ?_⟩
    intro value made
    exact List.mem_append_left more (h.2.2 value made)
  | returned result => exact Explains.append h silent

/-- Nobody is called by a step, and only a caller that has missed joins a flight. -/
theorem silent_ofStep {i j : Nat} {codec : Codec α} {before after : FetchPhase α}
    (h : j ≠ i ∨ before ≠ .missed) : Silent j (ofStep i codec before after) := by
  constructor
  · unfold ofStep
    split <;> simp
  · intro flight
    unfold ofStep
    split <;> grind

/-- A flight is only left by a caller that is leaving it. -/
theorem left_mem_ofStep {i j flight : Nat} {codec : Codec α} {before after : FetchPhase α}
    (h : .left j flight ∈ ofStep i codec before after) :
    ∃ outcome produced, before = .leaving flight outcome produced := by
  unfold ofStep at h
  split at h <;> simp_all

end Event

open Event

/-- The invariant that links the state of a burst with what has happened in it. -/
structure Traced (chronicle : Chronicle σ β α) : Prop where
  /-- Every caller has been called. -/
  called {i : Nat} {caller : Caller σ α} :
    chronicle.burst.callers[i]? = some caller → .called i ∈ chronicle.events
  /-- The phase of every caller agrees with the events. -/
  accounts {i : Nat} {caller : Caller σ α} : chronicle.burst.callers[i]? = some caller →
    Accounts chronicle.events i caller.call caller.phase
  /-- Nobody has left a registered flight. -/
  unleft {key : String} {flight i : Nat} :
    chronicle.burst.world.flights.flight? key = some flight → .left i flight ∉ chronicle.events
  /-- A flight that somebody has left exists. -/
  exists_left {i flight : Nat} : .left i flight ∈ chronicle.events →
    flight < chronicle.burst.world.flights.states.length
  /-- The outcome of a settled flight has a source. -/
  source {flight : Nat} {outcome : Except StorageError Payload} :
    chronicle.burst.world.flights.states[flight]? = some (.settled outcome) →
      Source chronicle.events flight outcome

namespace Traced

variable {chronicle : Chronicle σ β α} {store : CacheStore β} {i : Nat} {caller : Caller σ α}
  {world : BurstWorld σ β} {next : FetchPhase α}
  (h : Traced chronicle) (single : SingleFlight chronicle.burst)
  (present : chronicle.burst.callers[i]? = some caller)
  (step : CallerStep store i caller.call chronicle.burst.world caller.phase world next)

include h single present step

omit single in
/-- The phase of a caller that has made a step agrees with the events. -/
theorem accounts_step :
    Accounts (chronicle.events ++ ofStep i caller.call.codec caller.phase next) i caller.call
      next := by
  have called := h.called present
  have accounts := h.accounts present
  obtain ⟨call, phase⟩ := caller
  cases step with
  | hit look => exact .found (before_append_singleton called _)
  | miss => exact before_append_singleton called _
  | stopLooking | stopChecking | stopGenerating | stopWriting => trivial
  | join =>
    have unleft : ∀ j, .left j (chronicle.burst.world.flights.join call.key).1 ∉
        chronicle.events := by
      intro j left
      obtain ⟨registered, -⟩ | ⟨-, new, -⟩ :=
        Flights.join_cases chronicle.burst.world.flights call.key
      · exact h.unleft registered left
      · exact absurd (h.exists_left left) (by simp [new])
    constructor
    · exact Before.append accounts _
    · exact before_append_singleton accounts.mem _
    · exact fun j before => unleft j (mem_of_before before)
    · exact fun j before => unleft j (mem_of_before before)
  | lead => exact Joins.append accounts (silent_ofStep (by simp))
  | @share flight outcome settled =>
    refine ⟨Joins.append accounts (silent_ofStep (by simp)), (h.source settled).append _, ?_⟩
    intro value made
    cases made
  | @check state flight found look =>
    cases found.filter fun payload => (call.codec.decode payload).toBool with
    | none => exact Joins.append accounts (silent_ofStep (by simp))
    | some payload =>
      exact ⟨Joins.append accounts (silent_ofStep (by simp)), by simp [ofStep]⟩
  | @reuse flight payload =>
    obtain ⟨joins, checked⟩ := accounts
    refine ⟨joins.append (silent_ofStep (by simp)), .inl ⟨i, payload, rfl, ?_⟩, ?_⟩
    · exact List.mem_append_left _ checked
    · intro value made
      cases made
  | begin => exact Joins.append accounts (silent_ofStep (by simp))
  | produce ran =>
    exact ⟨Joins.append accounts (silent_ofStep (by simp)), by simp [ofStep]⟩
  | fail ran =>
    refine ⟨Joins.append accounts (silent_ofStep (by simp)), .inr ⟨i, none, ?_⟩, ?_⟩
    · simp [ofStep]
    · intro value made
      cases made
  | write wrote =>
    exact ⟨accounts.1.append (silent_ofStep (by simp)), List.mem_append_left _ accounts.2⟩
  | @settle flight value =>
    obtain ⟨joins, ended⟩ := accounts
    have still := List.mem_append_left
      (ofStep i call.codec (.populated flight value)
        (.leaving flight (.ok (call.codec.encode value)) (some value))) ended
    refine ⟨joins.append (silent_ofStep (by simp)), .inr ⟨i, some value, still⟩, ?_⟩
    intro made same
    cases same
    exact still
  | leave =>
    obtain ⟨joins, source, own⟩ := accounts
    exact Explains.append (.shared joins source own) (silent_ofStep (by simp))

/-- Nobody has left a flight that is registered after a step. -/
theorem unleft_step {key : String} {flight j : Nat}
    (registered : world.flights.flight? key = some flight) :
    .left j flight ∉ chronicle.events ++ ofStep i caller.call.codec caller.phase next := by
  intro left
  obtain past | now := List.mem_append.mp left
  · obtain before | new := step.flightMove.registered_cases registered
    · exact h.unleft before past
    · exact absurd (h.exists_left past) (by simp [new])
  · obtain ⟨outcome, produced, leaves⟩ := left_mem_ofStep now
    obtain ⟨call, phase⟩ := caller
    subst leaves
    cases step with
    | leave =>
      have before := Flights.flight?_of_leave registered
      have same : call.key = key := single.keyed before present rfl
      subst same
      exact Flights.flight?_leave_ne _ _ _ registered

/-- A flight that has been left by the end of a step exists. -/
theorem exists_left_step {j flight : Nat}
    (left : .left j flight ∈ chronicle.events ++ ofStep i caller.call.codec caller.phase next) :
    flight < world.flights.states.length := by
  apply Nat.lt_of_lt_of_le _ step.flightMove.length_le
  obtain past | now := List.mem_append.mp left
  · exact h.exists_left past
  · obtain ⟨outcome, produced, leaves⟩ := left_mem_ofStep now
    exact single.exists_joined present (by rw [leaves]; rfl)

omit single in
/-- An outcome that is settled after a step has a source. -/
theorem source_step {flight : Nat} {outcome : Except StorageError Payload}
    (settled : world.flights.states[flight]? = some (.settled outcome)) :
    Source (chronicle.events ++ ofStep i caller.call.codec caller.phase next) flight outcome := by
  have accounts := h.accounts_step present step
  by_cases before :
      chronicle.burst.world.flights.states[flight]? = some (.settled outcome)
  · exact (h.source before).append _
  · -- the step itself has settled the flight, and then the caller is about to leave it
    obtain ⟨produced, leaves⟩ := step.flightMove.leaves_of_settled settled before
    rw [leaves] at accounts ⊢
    exact accounts.2.1

/-- A step of a caller keeps the invariant. -/
theorem step_keeps :
    Traced ⟨⟨world, chronicle.burst.callers.set i { caller with phase := next }⟩,
      chronicle.events ++ ofStep i caller.call.codec caller.phase next⟩ where
  called {j other} at_j := by
    apply List.mem_append_left
    rw [SingleFlight.getElem?_moved present next world.flights world.state] at at_j
    split at at_j
    · rename_i same
      subst same
      exact h.called present
    · exact h.called at_j
  accounts {j other} at_j := by
    rw [SingleFlight.getElem?_moved present next world.flights world.state] at at_j
    split at at_j
    · rename_i same
      subst same
      cases at_j
      exact h.accounts_step present step
    · rename_i different
      exact (h.accounts at_j).append (silent_ofStep (.inl (Ne.symm different)))
  unleft := h.unleft_step single present step
  exists_left := h.exists_left_step single present step
  source := h.source_step present step

omit h single present step

/-- Nothing has happened before the first call. -/
theorem of_start (state : Layered σ β) :
    Traced (Chronicle.start state : Chronicle σ β α) where
  called at_i := by simp [Chronicle.start] at at_i
  accounts at_i := by simp [Chronicle.start] at at_i
  unleft registered := by simp [Chronicle.start, Flights.flight?] at registered
  exists_left left := by simp [Chronicle.start] at left
  source settled := by simp [Chronicle.start] at settled

/-- A caller that has not moved yet has nothing to account for, or its key is empty. -/
theorem accounts_caller (events : List (Event α)) (i : Nat) (store : CacheStore β)
    (call : FetchCall σ α) :
    Accounts events i (store.caller call).call (store.caller call).phase := by
  unfold CacheStore.caller CacheStore.fullKey
  by_cases empty : call.key = ""
  · rw [if_pos empty]
    exact Explains.refused empty
  · rw [if_neg empty]
    trivial

include h in
/-- A new call keeps the invariant. -/
theorem call_keeps (store : CacheStore β) (call : FetchCall σ α) :
    Traced (store.record chronicle (.call call)) where
  called {i caller} at_i := by
    simp only [CacheStore.record, List.getElem?_append] at at_i
    split at at_i
    · exact List.mem_append_left _ (h.called at_i)
    · have last : i = chronicle.burst.callers.length := by grind
      simp [CacheStore.record, last]
  accounts {i caller} at_i := by
    simp only [CacheStore.record, List.getElem?_append] at at_i
    split at at_i
    · apply (h.accounts at_i).append
      constructor
      · grind
      · simp
    · have new : caller = store.caller call := by grind
      rw [new]
      exact accounts_caller _ i store call
  unleft {key flight i} registered := by
    have before := h.unleft (i := i) registered
    simpa [CacheStore.record] using before
  exists_left {i flight} left := by
    apply h.exists_left (i := i)
    simpa [CacheStore.record] using left
  source settled := (h.source settled).append _

include h present in
/-- Dropping a caller keeps the invariant. -/
theorem drop_keeps {flights : Flights}
    (move : FlightMove i caller.call.key caller.phase chronicle.burst.world.flights .dropped
      flights) :
    Traced ⟨⟨{ chronicle.burst.world with flights },
      chronicle.burst.callers.set i { caller with phase := .dropped }⟩, chronicle.events⟩ where
  called {j other} at_j := by
    rw [SingleFlight.getElem?_moved present _ flights chronicle.burst.world.state]
      at at_j
    split at at_j
    · rename_i same
      subst same
      exact h.called present
    · exact h.called at_j
  accounts {j other} at_j := by
    rw [SingleFlight.getElem?_moved present _ flights chronicle.burst.world.state]
      at at_j
    split at at_j
    · cases at_j
      trivial
    · exact h.accounts at_j
  unleft {key flight j} registered := by
    intro left
    obtain before | new := move.registered_cases registered
    · exact h.unleft before left
    · exact absurd (h.exists_left left) (by simp [new])
  exists_left left := Nat.lt_of_lt_of_le (h.exists_left left) move.length_le
  source {flight outcome} settled := by
    by_cases before : chronicle.burst.world.flights.states[flight]? = some (.settled outcome)
    · exact h.source before
    · obtain ⟨produced, leaves⟩ := move.leaves_of_settled settled before
      cases leaves

end Traced

namespace CacheStore

/-- Every move keeps the invariant. -/
theorem traced_record {store : CacheStore β} {chronicle : Chronicle σ β α}
    (h : Traced chronicle) (single : SingleFlight chronicle.burst) (move : BurstMove σ β α) :
    Traced (store.record chronicle move) := by
  cases move with
  | call call => exact h.call_keeps store call
  | advance i =>
    obtain same | ⟨caller, world, phase, present, step, made⟩ :=
      store.record_advance chronicle i
    · rwa [same]
    · rw [made]
      exact h.step_keeps single present step
  | drop i =>
    show Traced { chronicle with burst := chronicle.burst.drop i }
    cases present : chronicle.burst.callers[i]? with
    | none => rwa [Burst.drop_eq_self present]
    | some caller =>
      obtain ⟨flights, move, made⟩ := Burst.drop_eq present
      rw [made]
      exact h.drop_keeps present move
  | outside change => exact ⟨h.called, h.accounts, h.unleft, h.exists_left, h.source⟩

/-- The invariant holds all the time. -/
theorem traced_play (store : CacheStore β) (state : Layered σ β)
    (moves : List (BurstMove σ β α)) : Traced (store.play moves (Chronicle.start state)) := by
  suffices both : Traced (store.play moves (Chronicle.start state)) ∧
      SingleFlight (store.play moves (Chronicle.start state)).burst from both.1
  apply play_induction fun chronicle => Traced chronicle ∧ SingleFlight chronicle.burst
  · exact ⟨Traced.of_start state, SingleFlight.of_start state⟩
  · rintro chronicle move - ⟨h, single⟩
    exact ⟨traced_record h single move, singleFlight_record single move⟩

/-- Every result of a fetch is explained by the events: it is the refusal of the empty key, or a
value that the caller has found in the cache after it was called, or what a flight came to that
the caller joined after it was called and had found nothing.  Nobody had left the flight by then,
so a fetch never gets the outcome of a flight that some caller had left before the fetch was
called. -/
theorem results_explained (store : CacheStore β) (state : Layered σ β)
    (moves : List (BurstMove σ β α)) (i : Nat) (caller : Caller σ α)
    (result : Except StorageError (Fetched α))
    (present : (store.play moves (Chronicle.start state)).burst.callers[i]? = some caller)
    (returned : caller.phase = .returned result) :
    Explains (store.play moves (Chronicle.start state)).events i caller.call result := by
  have accounts := (traced_play store state moves).accounts present
  rw [returned] at accounts
  exact accounts

/-- The second of two callers shares in the value that the first one makes. -/
theorem results_explained_shared :
    let chronicle := Sample.store.play
      ([.call (Sample.call .uint32 "k" (.ok 7)), .call (Sample.call .uint32 "k" (.ok 8))] ++
        [0, 1, 0, 1, 0, 0, 0, 0, 0, 0, 1, 0, 1].map .advance) (Chronicle.start (Sample.state 1))
    chronicle.burst.callers.map (fun caller => caller.phase.result?) =
        [some (.ok ⟨7, false⟩), some (.ok ⟨7, true⟩)] ∧
      Explains chronicle.events 1 (Sample.call .uint32 "article-k" (.ok 8)) (.ok ⟨7, true⟩) := by
  intro chronicle
  refine ⟨by rfl, ?_⟩
  exact results_explained Sample.store (Sample.state 1) _ 1
    ⟨Sample.call .uint32 "article-k" (.ok 8), .returned (.ok ⟨7, true⟩)⟩ _ (by rfl) (by rfl)

end CacheStore

namespace Event

variable {e first second : Event α} {events : List (Event α)}

/-- Nothing has happened before anything in an empty history. -/
theorem before_nil : ¬ Before [] first second := by
  rintro ⟨past, later, split, -⟩
  simp at split

/-- The order of two events in a history that starts with another one. -/
theorem before_cons :
    Before (e :: events) first second ↔
      first = e ∧ second ∈ events ∨ Before events first second := by
  constructor
  · rintro ⟨past, later, split, early⟩
    cases past with
    | nil => cases early
    | cons event past =>
      rw [List.cons_append, List.cons.injEq] at split
      obtain ⟨rfl, rfl⟩ := split
      obtain same | early := List.mem_cons.mp early
      · exact .inl ⟨same, by simp⟩
      · exact .inr ⟨past, later, rfl, early⟩
  · rintro (⟨rfl, late⟩ | ⟨past, later, rfl, early⟩)
    · obtain ⟨past, later, rfl⟩ := List.append_of_mem late
      exact ⟨first :: past, later, rfl, by simp⟩
    · exact ⟨e :: past, later, rfl, by simp [early]⟩

/-- A result is fresh if it comes from a read of the cache that took place after the fetch was
called, by its caller or by a leader of the flight that it joined, or from a run of a generator
in that flight that had not ended when the fetch was called. -/
def Fresh (events : List (Event α)) (i : Nat) (call : FetchCall σ α)
    (result : Except StorageError (Fetched α)) : Prop :=
  (∃ value, result = .ok ⟨value, true⟩ ∧ Before events (.called i) (.looked i (some value))) ∨
  (∃ leader flight payload, result = CacheStore.conclude call.codec (.ok payload) none ∧
    .joined i flight ∈ events ∧
    Before events (.called i) (.checked leader flight (some payload))) ∨
  ∃ leader flight outcome made produced,
    result = CacheStore.conclude call.codec outcome produced ∧ .joined i flight ∈ events ∧
    Before events (.called i) (.ended leader flight outcome made)

end Event

namespace CacheStore

/-- Not every result is fresh.  A flight can be joined between the end of its leader's generator
and the moment when somebody leaves it, and then the newcomer gets the error of a run that had
ended before its call; or the leader has read the cache before the newcomer's call.  And the
empty key is refused without a read or a run. -/
theorem results_not_fresh :
    let play (moves : List (BurstMove Unit TimedCache UInt32)) :=
      Sample.store.play moves (Chronicle.start (Sample.state 1))
    let ended := play ([.call (Sample.call .uint32 "k" (.error (.queryFailed "down")))] ++
      [0, 0, 0, 0, 0, 0].map .advance ++
      [.call (Sample.call .uint32 "k" (.ok 8))] ++ [1, 1, 1, 1].map .advance)
    let read := play ([.call (Sample.call .uint32 "k" (.ok 7))] ++ [0, 0, 0].map .advance ++
      [.operate (Sample.store.set .uint32 "k" 5), .advance 0,
        .operate (Sample.store.delete "k"), .call (Sample.call .uint32 "k" (.ok 8))] ++
      [1, 1, 0, 1, 1].map .advance)
    let refused := play [.call (Sample.call .uint32 "" (.ok 8))]
    (ended.burst.callers.map (fun caller => caller.phase.result?) =
        [none, some (.error (.queryFailed "down"))] ∧
      ¬ Fresh ended.events 1 (Sample.call .uint32 "article-k" (.ok 8))
        (.error (.queryFailed "down"))) ∧
    (read.burst.callers.map (fun caller => caller.phase.result?) =
        [none, some (.ok ⟨5, true⟩)] ∧
      ¬ Fresh read.events 1 (Sample.call .uint32 "article-k" (.ok 8)) (.ok ⟨5, true⟩)) ∧
    (refused.burst.callers.map (fun caller => caller.phase.result?) =
        [some (.error (.cache .invalidKey))] ∧
      ¬ Fresh refused.events 0 (Sample.call .uint32 "" (.ok 8)) (.error (.cache .invalidKey))) := by
  intro play ended read refused
  have ended_events : ended.events = [.called 0, .looked 0 none, .joined 0 0,
      .checked 0 0 none, .began 0 0, .ended 0 0 (.error (.queryFailed "down")) none,
      .called 1, .looked 1 none, .joined 1 0, .left 1 0] := by rfl
  have read_events : read.events = [.called 0, .looked 0 none, .joined 0 0,
      .checked 0 0 (some (Codec.uint32.encode 5)), .called 1, .looked 1 none, .joined 1 0,
      .left 1 0] := by rfl
  have refused_events : refused.events = [.called 0] := by rfl
  refine ⟨⟨by rfl, ?_⟩, ⟨by rfl, ?_⟩, by rfl, ?_⟩
  · rw [ended_events]
    simp [Fresh, before_cons, before_nil]
  · rw [read_events]
    simp [Fresh, before_cons, before_nil]
  · rw [refused_events]
    simp [Fresh, before_cons, before_nil]

end CacheStore

end Gazette
