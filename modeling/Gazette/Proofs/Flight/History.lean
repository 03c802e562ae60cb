import Gazette.Cache.Memory
import Gazette.Proofs.Flight.Step

/-!
# Histories of bursts

A burst is driven by a list of moves: fetches are called, callers make steps in any order,
callers are dropped, and in between anything may happen to the source and to the cache.  A
chronicle is a burst together with what has happened in it so far, in order.  The events
only watch the burst: its part of a chronicle is moved by `CacheStore.stepBurst` and
`Burst.drop` and by nothing else.
-/

set_option autoImplicit false

namespace Gazette

variable {σ β α : Type}

/-- What can happen next around a store. -/
inductive BurstMove (σ β α : Type) where
  /-- A fetch is called. -/
  | call (call : FetchCall σ α)
  /-- A caller makes its next step.  One that is waiting or has ended stays where it is. -/
  | advance (caller : Nat)
  /-- A caller is dropped. -/
  | drop (caller : Nat)
  /-- Something else happens to the source and the cache: other calls of the same store, other
  users of the cache, entries that expire. -/
  | outside (change : Layered σ β → Layered σ β)

/-- An operation of the cache as a move, whether it answers or not.  The sets and deletes of a
store are of this kind. -/
def BurstMove.operate {γ : Type} (operation : Task β γ) : BurstMove σ β α :=
  .outside fun state => ((Layered.onCache operation).outcome state).2

/-- Something that has happened in a burst. -/
inductive Event (α : Type) where
  /-- A fetch has been called. -/
  | called (caller : Nat)
  /-- A caller has looked into the cache on its own and has found this value. -/
  | looked (caller : Nat) (found : Option α)
  /-- A caller has joined a flight. -/
  | joined (caller flight : Nat)
  /-- The leader of a flight has looked into the cache and has found this readable payload. -/
  | checked (caller flight : Nat) (found : Option Payload)
  /-- The leader of a flight has started its generator. -/
  | began (caller flight : Nat)
  /-- The generator of a flight's leader has ended: the outcome that the flight is going to
  have, and the value if there is one. -/
  | ended (caller flight : Nat) (outcome : Except StorageError Payload) (produced : Option α)
  /-- The leader of a flight has sent the value to the cache. -/
  | wrote (caller flight : Nat) (value : α)
  /-- A caller has left a flight, and with that it has its result. -/
  | left (caller flight : Nat)

namespace Event

/-- The event that the step of a caller from one phase to another is. -/
def ofStep (i : Nat) (codec : Codec α) (before after : FetchPhase α) : List (Event α) :=
  match before, after with
  | .called, .missed => [.looked i none]
  | .called, .returned (.ok fetched) => [.looked i (some fetched.value)]
  | .missed, .joined flight => [.joined i flight]
  | .leading flight, .checked _ found => [.checked i flight found]
  | .checked flight none, .generating _ => [.began i flight]
  | .generating flight, .populating _ value =>
    [.ended i flight (.ok (codec.encode value)) (some value)]
  | .generating flight, .leaving _ outcome produced => [.ended i flight outcome produced]
  | .populating flight value, .populated _ _ => [.wrote i flight value]
  | .leaving flight _ _, .returned _ => [.left i flight]
  | _, _ => []

/-- Whether one event has happened, and another one after it. -/
def Before (events : List (Event α)) (first second : Event α) : Prop :=
  ∃ past later, events = past ++ second :: later ∧ first ∈ past

/-- What has happened before something stays before it. -/
theorem Before.append {events : List (Event α)} {first second : Event α}
    (h : Before events first second) (more : List (Event α)) :
    Before (events ++ more) first second := by
  obtain ⟨past, later, rfl, early⟩ := h
  exact ⟨past, later ++ more, by simp, early⟩

/-- The second of two events in order has happened. -/
theorem Before.mem {events : List (Event α)} {first second : Event α}
    (h : Before events first second) : second ∈ events := by
  obtain ⟨past, later, rfl, -⟩ := h
  simp

/-- What happens next happens after everything that has happened. -/
theorem before_append_singleton {events : List (Event α)} {first : Event α}
    (h : first ∈ events) (second : Event α) : Before (events ++ [second]) first second :=
  ⟨events, [], rfl, h⟩

end Event

/-- A burst and what has happened in it so far. -/
structure Chronicle (σ β α : Type) where
  burst : Burst σ β α
  events : List (Event α) := []

/-- A store that nobody has called yet. -/
def Chronicle.start (state : Layered σ β) : Chronicle σ β α :=
  { burst := ⟨{ state }, []⟩ }

namespace CacheStore

/-- The chronicle after one more move. -/
def record (store : CacheStore β) (chronicle : Chronicle σ β α) :
    BurstMove σ β α → Chronicle σ β α
  | .call call =>
    { burst := { chronicle.burst with callers := chronicle.burst.callers ++ [store.caller call] }
      events := chronicle.events ++ [.called chronicle.burst.callers.length] }
  | .advance i =>
    match store.stepBurst chronicle.burst i, chronicle.burst.callers[i]? with
    | some burst, some caller =>
      let after := (burst.callers.map Caller.phase)[i]?.getD caller.phase
      ⟨burst, chronicle.events ++ Event.ofStep i caller.call.codec caller.phase after⟩
    | _, _ => chronicle
  | .drop i => { chronicle with burst := chronicle.burst.drop i }
  | .outside change =>
    { chronicle with
      burst.world.state := change chronicle.burst.world.state }

/-- The chronicle after some more moves. -/
def play (store : CacheStore β) (moves : List (BurstMove σ β α))
    (chronicle : Chronicle σ β α) : Chronicle σ β α :=
  moves.foldl store.record chronicle

/-- What holds at the beginning and is kept by every move holds all the time. -/
theorem play_induction {store : CacheStore β} (invariant : Chronicle σ β α → Prop)
    (moves : List (BurstMove σ β α)) (chronicle : Chronicle σ β α) (start : invariant chronicle)
    (keep : ∀ chronicle move, move ∈ moves → invariant chronicle →
      invariant (store.record chronicle move)) :
    invariant (store.play moves chronicle) := by
  induction moves generalizing chronicle with
  | nil => exact start
  | cons move moves ih =>
    refine ih (store.record chronicle move) (keep chronicle move (by simp) start) ?_
    intro chronicle later member
    exact keep chronicle later (by simp [member])

/-- Fetches that are called one after the other are a burst that is about to begin. -/
theorem play_calls (store : CacheStore β) (state : Layered σ β) (calls : List (FetchCall σ α)) :
    (store.play (calls.map .call) (Chronicle.start state)).burst = store.burst state calls := by
  suffices general : ∀ chronicle : Chronicle σ β α,
      (store.play (calls.map .call) chronicle).burst =
        { chronicle.burst with
          callers := chronicle.burst.callers ++ calls.map store.caller } by
    simpa [Chronicle.start, burst] using general (Chronicle.start state)
  induction calls with
  | nil => intro chronicle; simp [play]
  | cons call calls ih =>
    intro chronicle
    simpa [play, record] using ih (store.record chronicle (.call call))

variable {store : CacheStore β} {chronicle : Chronicle σ β α} {i : Nat}

/-- A move of a caller either changes nothing or is one of its steps, with the event of that
step. -/
theorem record_advance (store : CacheStore β) (chronicle : Chronicle σ β α) (i : Nat) :
    store.record chronicle (.advance i) = chronicle ∨
      ∃ caller world phase, chronicle.burst.callers[i]? = some caller ∧
        CallerStep store i caller.call chronicle.burst.world caller.phase world phase ∧
        store.record chronicle (.advance i) =
          ⟨⟨world, chronicle.burst.callers.set i { caller with phase }⟩,
            chronicle.events ++ Event.ofStep i caller.call.codec caller.phase phase⟩ := by
  cases stepped : store.stepBurst chronicle.burst i with
  | none => exact .inl (by simp [record, stepped])
  | some later =>
    obtain ⟨caller, world, phase, present, step, rfl⟩ := callerStep_of_stepBurst stepped
    obtain ⟨inside, same⟩ := List.getElem?_eq_some_iff.mp present
    refine .inr ⟨caller, world, phase, present, step, ?_⟩
    simp [record, stepped, inside, same]

end CacheStore

namespace Burst

/-- Dropping a caller that is there puts it aside and gives up the flight that it leads. -/
theorem drop_eq {burst : Burst σ β α} {i : Nat} {caller : Caller σ α}
    (present : burst.callers[i]? = some caller) :
    ∃ flights, FlightMove i caller.call.key caller.phase burst.world.flights .dropped flights ∧
      burst.drop i = ⟨{ burst.world with flights },
        burst.callers.set i { caller with phase := .dropped }⟩ := by
  cases led : caller.phase.led? with
  | none => exact ⟨burst.world.flights, .quit led rfl, by simp [drop, present, led]⟩
  | some flight =>
    exact ⟨burst.world.flights.put flight .idle, .abandon led rfl, by simp [drop, present, led]⟩

/-- Nobody is dropped under a number that no caller has. -/
theorem drop_eq_self {burst : Burst σ β α} {i : Nat} (absent : burst.callers[i]? = none) :
    burst.drop i = burst := by
  simp [drop, absent]

end Burst

namespace Sample

/-- A store over the cache in memory, whose entries do not expire. -/
def store : CacheStore TimedCache :=
  ⟨TimedCache.backend, "article-", 0⟩

/-- An empty cache with room for some entries, in front of a source that does not matter. -/
def state (size : Nat) : Layered Unit TimedCache :=
  ⟨(), { cache := .ofSize size }, []⟩

/-- A fetch whose generator ends with an outcome at once. -/
def call {α : Type} (codec : Codec α) (key : String) (outcome : Except StorageError α) :
    FetchCall Unit α :=
  ⟨key, codec, pure outcome⟩

end Sample

end Gazette
