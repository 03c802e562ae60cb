import Gazette.Storage.Error
import Gazette.Text.Utf8

/-!
# Flights

A flight is one shared attempt to get the value of a key.  The register says which flight
belongs to a key at the moment.  A flight has a leader as long as somebody is working on it,
and once it is settled its outcome never changes.
-/

set_option autoImplicit false

namespace Gazette

/-- What has become of a flight so far. -/
inductive FlightState where
  | idle
  | led (caller : Nat)
  | settled (outcome : Except StorageError Payload)

/-- All flights so far by their numbers, and the register of those that can be joined. -/
structure Flights where
  states : List FlightState := []
  registered : List (String × Nat) := []

namespace Flights

/-- The flight registered for a key. -/
def flight? (flights : Flights) (key : String) : Option Nat :=
  flights.registered.lookup key

/-- The flight of a key, which is registered if there is none. -/
def join (flights : Flights) (key : String) : Nat × Flights :=
  match flights.flight? key with
  | some flight => (flight, flights)
  | none =>
    let flight := flights.states.length
    (flight, ⟨flights.states ++ [.idle], (key, flight) :: flights.registered⟩)

/-- Takes a flight out of the register, unless another one has taken its place. -/
def leave (flights : Flights) (key : String) (flight : Nat) : Flights :=
  if flights.flight? key = some flight then
    { flights with registered := flights.registered.filter fun entry => entry.1 ≠ key }
  else flights

/-- Puts a flight into a state. -/
def put (flights : Flights) (flight : Nat) (state : FlightState) : Flights :=
  { flights with states := flights.states.set flight state }

end Flights

end Gazette
