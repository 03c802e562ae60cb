import Gazette.Cache.Flight
import Gazette.Cache.Store

/-!
# Bursts

A burst is a number of fetches through one store that run at the same time.  Each caller goes
through the phases below; a step moves one caller from its phase to the next one, and any
caller that is not waiting for somebody else can be the next to move.  A caller can also be
dropped between two steps.

The first caller of a flight leads it: it looks into the cache once more, and only if that
finds nothing it runs its generator.  The others wait and share the outcome.
-/

set_option autoImplicit false

namespace Gazette

/-- A fetch that takes part in a burst. -/
structure FetchCall (σ α : Type) where
  key : String
  codec : Codec α
  generate : Task σ (Except StorageError α)

/-- How far a caller has come. -/
inductive FetchPhase (α : Type) where
  /-- It is about to look into the cache. -/
  | called
  /-- It has found nothing and is about to ask for a flight. -/
  | missed
  /-- It has joined a flight. -/
  | joined (flight : Nat)
  /-- It leads a flight and is about to look into the cache again. -/
  | leading (flight : Nat)
  /-- It leads a flight and knows what it has found in the cache, if that can be read. -/
  | checked (flight : Nat) (found : Option Payload)
  /-- It leads a flight and its generator is running. -/
  | generating (flight : Nat)
  /-- It leads a flight and is about to write the value into the cache. -/
  | populating (flight : Nat) (value : α)
  /-- It leads a flight and has written the value into the cache, or tried to. -/
  | populated (flight : Nat) (value : α)
  /-- It knows the outcome of a flight and is about to take the flight out of the register. -/
  | leaving (flight : Nat) (outcome : Except StorageError Payload) (produced : Option α)
  /-- It has its result. -/
  | returned (result : Except StorageError (Fetched α))
  /-- It has stopped without a result. -/
  | stopped
  /-- It has been dropped. -/
  | dropped

namespace FetchPhase

variable {α : Type}

/-- An upper bound on the steps that a caller in a phase can still take. -/
def rank : FetchPhase α → Nat
  | .called => 9
  | .missed => 8
  | .joined _ => 7
  | .leading _ => 6
  | .checked _ _ => 5
  | .generating _ => 4
  | .populating _ _ => 3
  | .populated _ _ => 2
  | .leaving _ _ _ => 1
  | .returned _ | .stopped | .dropped => 0

/-- The flight that a caller in a phase leads. -/
def led? : FetchPhase α → Option Nat
  | .leading flight | .checked flight _ | .generating flight | .populating flight _
  | .populated flight _ => some flight
  | _ => none

/-- Whether a caller in a phase has stopped without a result. -/
def isStopped : FetchPhase α → Bool
  | .stopped => true
  | _ => false

/-- Whether the generator of a caller in a phase is running. -/
def isGenerating : FetchPhase α → Bool
  | .generating _ => true
  | _ => false

/-- The result of a caller in a phase. -/
def result? : FetchPhase α → Option (Except StorageError (Fetched α))
  | .returned result => some result
  | _ => none

end FetchPhase

/-- A caller of a burst. -/
structure Caller (σ α : Type) where
  call : FetchCall σ α
  phase : FetchPhase α

/-- What the callers of a burst share. -/
structure BurstWorld (σ β : Type) where
  state : Layered σ β
  flights : Flights := {}

/-- A burst. -/
structure Burst (σ β α : Type) where
  world : BurstWorld σ β
  callers : List (Caller σ α)

namespace CacheStore

variable {σ β α : Type}

/-- The result of a caller that knows the outcome of its flight. -/
def conclude (codec : Codec α) (outcome : Except StorageError Payload) (produced : Option α) :
    Except StorageError (Fetched α) :=
  match produced, outcome with
  | some value, _ => .ok ⟨value, false⟩
  | none, .error error => .error error
  | none, .ok payload =>
    match decoded codec payload with
    | .ok value => .ok ⟨value, true⟩
    | .error error => .error (.cache error)

/-- The next step of the caller with number `i`, which makes a fetch under a complete key.
Without a step the caller is waiting or has ended. -/
def stepCaller (store : CacheStore β) (i : Nat) (call : FetchCall σ α)
    (world : BurstWorld σ β) (phase : FetchPhase α) : Option (FetchPhase α × BurstWorld σ β) :=
  match phase with
  | .called =>
    match (Layered.onCache (store.cached? call.codec call.key)).outcome world.state with
    | (.ok (some value), state) => some (.returned (.ok ⟨value, true⟩), { world with state })
    | (.ok none, state) => some (.missed, { world with state })
    | (.error _, state) => some (.stopped, { world with state })
  | .missed =>
    let (flight, flights) := world.flights.join call.key
    some (.joined flight, { world with flights })
  | .joined flight =>
    match world.flights.states[flight]? with
    | some .idle =>
      some (.leading flight, { world with flights := world.flights.put flight (.led i) })
    | some (.settled outcome) => some (.leaving flight outcome none, world)
    | some (.led _) | none => none
  | .leading flight =>
    match (Layered.onCache (store.payload? call.key)).outcome world.state with
    | (.ok found, state) =>
      let readable := found.filter fun payload => (call.codec.decode payload).toBool
      some (.checked flight readable, { world with state })
    | (.error _, state) =>
      some (.stopped, { state, flights := world.flights.put flight .idle })
  | .checked flight (some payload) =>
    some (.leaving flight (.ok payload) none,
      { world with flights := world.flights.put flight (.settled (.ok payload)) })
  | .checked flight none => some (.generating flight, world)
  | .generating flight =>
    match (Layered.onSource call.generate).outcome world.state with
    | (.ok (.ok value), state) => some (.populating flight value, { world with state })
    | (.ok (.error error), state) =>
      some (.leaving flight (.error error) none,
        { state, flights := world.flights.put flight (.settled (.error error)) })
    | (.error _, state) =>
      some (.stopped, { state, flights := world.flights.put flight .idle })
  | .populating flight value =>
    match (Layered.onCache (store.populate call.codec call.key value)).outcome world.state with
    | (.ok (), state) => some (.populated flight value, { world with state })
    | (.error _, state) =>
      some (.stopped, { state, flights := world.flights.put flight .idle })
  | .populated flight value =>
    let outcome := .ok (call.codec.encode value)
    some (.leaving flight outcome (some value),
      { world with flights := world.flights.put flight (.settled outcome) })
  | .leaving flight outcome produced =>
    some (.returned (conclude call.codec outcome produced),
      { world with flights := world.flights.leave call.key flight })
  | .returned _ | .stopped | .dropped => none

/-- A caller that has not moved yet. -/
def caller (store : CacheStore β) (call : FetchCall σ α) : Caller σ α :=
  match store.fullKey call.key with
  | .ok key => ⟨{ call with key }, .called⟩
  | .error error => ⟨call, .returned (.error (.cache error))⟩

/-- A burst that is about to begin. -/
def burst (store : CacheStore β) (state : Layered σ β) (calls : List (FetchCall σ α)) :
    Burst σ β α :=
  ⟨{ state }, calls.map store.caller⟩

/-- The burst after a step of the caller with number `i`. -/
def stepBurst (store : CacheStore β) (burst : Burst σ β α) (i : Nat) : Option (Burst σ β α) := do
  let caller ← burst.callers[i]?
  let (phase, world) ← store.stepCaller i caller.call burst.world caller.phase
  return ⟨world, burst.callers.set i { caller with phase }⟩

end CacheStore

namespace Burst

variable {σ β α : Type}

/-- The burst without the caller with number `i`.  A flight that it was leading can be led by
somebody else; a flight that it was about to leave stays in the register. -/
def drop (burst : Burst σ β α) (i : Nat) : Burst σ β α :=
  match burst.callers[i]? with
  | none => burst
  | some caller =>
    let flights :=
      match caller.phase.led? with
      | some flight => burst.world.flights.put flight .idle
      | none => burst.world.flights
    ⟨{ burst.world with flights }, burst.callers.set i { caller with phase := .dropped }⟩

/-- Whether some caller has stopped without a result. -/
def isStopped (burst : Burst σ β α) : Bool :=
  burst.callers.any fun caller => caller.phase.isStopped

/-- An upper bound on the steps that are left. -/
def rank (burst : Burst σ β α) : Nat :=
  burst.callers.foldr (fun caller total => caller.phase.rank + total) 0

/-- The results of the callers that have one, by the numbers of the callers. -/
def results (burst : Burst σ β α) : List (Option (Except StorageError (Fetched α))) :=
  burst.callers.map fun caller => caller.phase.result?

end Burst

end Gazette
