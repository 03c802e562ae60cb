import Mathlib.Data.List.Basic
import Gazette.Cache.Flight

/-!
# The register of flights

What joining, leaving and putting do to the two views of the flights that the protocol looks
at: the flight registered for a key, and the state of a flight.  Flights are never taken out
of the list of states, so the number of a new flight has never been used before.
-/

set_option autoImplicit false

namespace Gazette.Flights

variable {flights : Flights} {key other : String} {flight found : Nat} {state : FlightState}

/-- A key whose entries have been filtered out has none left, and no other key loses its own. -/
theorem lookup_filter_ne (entries : List (String × Nat)) (key other : String) :
    (entries.filter fun entry => entry.1 ≠ key).lookup other =
      if other = key then none else entries.lookup other := by
  induction entries with
  | nil => simp
  | cons entry entries ih =>
    obtain ⟨name, flight⟩ := entry
    by_cases filtered : name = key
    · subst filtered
      by_cases wanted : other = name
      · simpa [wanted] using ih
      · have different : (other == name) = false := beq_false_of_ne wanted
        simpa [List.lookup_cons, wanted, different] using ih
    · by_cases wanted : other = name
      · subst wanted
        simp [filtered]
      · have different : (other == name) = false := beq_false_of_ne wanted
        simpa [filtered, List.lookup_cons, different] using ih

/-- Putting a flight into a state leaves the register alone. -/
@[simp, grind =]
theorem flight?_put (flights : Flights) (flight : Nat) (state : FlightState) (key : String) :
    (flights.put flight state).flight? key = flights.flight? key :=
  rfl

/-- Putting a flight into a state writes that state. -/
@[simp, grind =]
theorem states_put (flights : Flights) (flight : Nat) (state : FlightState) :
    (flights.put flight state).states = flights.states.set flight state :=
  rfl

/-- Leaving a flight changes no state. -/
@[simp, grind =]
theorem states_leave (flights : Flights) (key : String) (flight : Nat) :
    (flights.leave key flight).states = flights.states := by
  unfold leave
  split <;> rfl

/-- Leaving takes the flight out of the register under the key, and nothing else. -/
theorem flight?_leave (flights : Flights) (key : String) (flight : Nat) (other : String) :
    (flights.leave key flight).flight? other =
      if other = key ∧ flights.flight? key = some flight then none
      else flights.flight? other := by
  unfold leave
  by_cases current : flights.flight? key = some flight
  · rw [if_pos current]
    show List.lookup other _ = _
    rw [lookup_filter_ne]
    by_cases same : other = key
    · simp [same, current]
    · simp [same, flight?]
  · simp [current]

/-- A flight that has been left is no longer registered under the key. -/
theorem flight?_leave_ne (flights : Flights) (key : String) (flight : Nat) :
    (flights.leave key flight).flight? key ≠ some flight := by
  rw [flight?_leave]
  split
  · simp
  · rename_i other
    simpa using other

/-- What is registered after a leave was registered before it. -/
theorem flight?_of_leave (h : (flights.leave key flight).flight? other = some found) :
    flights.flight? other = some found := by
  rw [flight?_leave] at h
  split at h
  · cases h
  · exact h

/-- Joining a key with a registered flight gives that flight. -/
theorem join_of_some (h : flights.flight? key = some flight) :
    flights.join key = (flight, flights) := by
  simp [join, h]

/-- Joining a key without a registered flight opens a new one. -/
theorem join_of_none (h : flights.flight? key = none) :
    flights.join key = (flights.states.length,
      ⟨flights.states ++ [.idle], (key, flights.states.length) :: flights.registered⟩) := by
  simp [join, h]

/-- A key is registered once it has been joined, and the others stay as they were. -/
theorem flight?_join (flights : Flights) (key other : String) :
    (flights.join key).2.flight? other =
      if other = key then some (flights.join key).1 else flights.flight? other := by
  cases known : flights.flight? key with
  | some flight =>
    rw [join_of_some known]
    by_cases same : other = key
    · simp [same, known]
    · simp [same]
  | none =>
    rw [join_of_none known]
    by_cases same : other = key
    · simp [same, flight?]
    · have different : (other == key) = false := by simpa using same
      simp [same, flight?, List.lookup_cons, different]

/-- The flight that a join gives was registered before, or it is new and idle. -/
theorem join_cases (flights : Flights) (key : String) :
    flights.flight? key = some (flights.join key).1 ∧
        (flights.join key).2.states = flights.states ∨
      flights.flight? key = none ∧ (flights.join key).1 = flights.states.length ∧
        (flights.join key).2.states = flights.states ++ [.idle] := by
  cases known : flights.flight? key with
  | some flight =>
    rw [join_of_some known]
    exact .inl ⟨rfl, rfl⟩
  | none =>
    rw [join_of_none known]
    exact .inr ⟨rfl, rfl, rfl⟩

/-- A join keeps the state of every flight. -/
theorem states_join (h : flights.states[flight]? = some state) (key : String) :
    (flights.join key).2.states[flight]? = some state := by
  obtain ⟨-, same⟩ | ⟨-, -, longer⟩ := join_cases flights key
  · rw [same, h]
  · have inside : flight < flights.states.length := (List.getElem?_eq_some_iff.mp h).1
    rw [longer, List.getElem?_append_left inside, h]

/-- A state after a join was there before, or it is that of a new flight. -/
theorem states_of_join (h : (flights.join key).2.states[flight]? = some state) :
    flights.states[flight]? = some state ∨ state = .idle ∧ flight = flights.states.length := by
  obtain ⟨-, same⟩ | ⟨-, -, longer⟩ := join_cases flights key
  · exact .inl (by rwa [same] at h)
  · rw [longer] at h
    by_cases inside : flight < flights.states.length
    · rw [List.getElem?_append_left inside] at h
      exact .inl h
    · rw [List.getElem?_append_right (by omega), List.getElem?_singleton] at h
      split at h
      · cases h
        exact .inr ⟨rfl, by omega⟩
      · cases h

/-- A join takes no flight away. -/
theorem length_join (flights : Flights) (key : String) :
    flights.states.length ≤ (flights.join key).2.states.length := by
  obtain ⟨-, same⟩ | ⟨-, -, longer⟩ := join_cases flights key
  · simp [same]
  · simp [longer]

end Gazette.Flights
