import Mathlib.Data.List.Basic
import Gazette.Cache.Burst
import Gazette.Proofs.Cached.Faults

/-!
# A caller without company

A caller that goes through all phases of a flight while nobody else fetches anything comes to the
same result as a plain fetch, and leaves the same behind.  In particular the payload that it has
found at its second look is read once more in the end, and this never fails.
-/

set_option autoImplicit false

namespace Gazette

variable {σ β α : Type}

/-- Whether the only caller of a burst has a result, with what the burst leaves behind. -/
structure Burst.EndsWith (burst : Burst σ β α) (fetched : Except StorageError (Fetched α))
    (state : Layered σ β) : Prop where
  results : burst.results = [some fetched]
  state : burst.world.state = state

namespace CacheStore

/-- A burst after its first caller has taken some steps, or fewer if it can take no more. -/
def alone (store : CacheStore β) : Nat → Burst σ β α → Burst σ β α
  | 0, burst => burst
  | steps + 1, burst =>
    match store.stepBurst burst 0 with
    | some later => store.alone steps later
    | none => burst

variable {store : CacheStore β} {call : FetchCall σ α} {phase next : FetchPhase α}
  {world after : BurstWorld σ β} {steps : Nat}

/-- A caller without company takes a step. -/
theorem alone_step (step : store.stepCaller 0 call world phase = some (next, after)) :
    store.alone (steps + 1) ⟨world, [⟨call, phase⟩]⟩ = store.alone steps ⟨after, [⟨call, next⟩]⟩ := by
  have stepped : store.stepBurst ⟨world, [⟨call, phase⟩]⟩ 0 = some ⟨after, [⟨call, next⟩]⟩ := by
    simp [stepBurst, step]
  rw [alone, stepped]

/-- A caller that has its result takes no more steps. -/
theorem alone_returned (result : Except StorageError (Fetched α)) :
    (store.alone steps ⟨world, [⟨call, .returned result⟩]⟩).EndsWith result world.state := by
  cases steps with
  | zero => exact ⟨rfl, rfl⟩
  | succ steps => exact ⟨rfl, rfl⟩

/-- The flights while a caller without company is leading one. -/
def loneFlight (full : String) : Flights :=
  ⟨[.led 0], [(full, 0)]⟩

section Steps

variable {codec : Codec α} {full : String} {generate : Task σ (Except StorageError α)}
  {state : Layered σ β} {flights : Flights} {cache : β}
  {answer : Except CacheError (Option Payload)}

/-- The first look finds a value. -/
theorem alone_called_found {payload : Payload} {value : α}
    (got : (store.backend.get full).outcome state.cache = (.ok (.ok (some payload)), cache))
    (decoded : codec.decode payload = .ok value) :
    (store.alone (steps + 1) ⟨⟨state, flights⟩, [⟨⟨full, codec, generate⟩, .called⟩]⟩).EndsWith
      (.ok ⟨value, true⟩) { state with cache } := by
  have step : store.stepCaller 0 ⟨full, codec, generate⟩ ⟨state, flights⟩ .called =
      some (.returned (.ok ⟨value, true⟩), ⟨{ state with cache }, flights⟩) := by
    simp [stepCaller, outcome_cached?_of_found got decoded]
  rw [alone_step step]
  exact alone_returned _

/-- The first look finds nothing; then a flight is led, and the next look is about to be taken. -/
theorem alone_called_missed
    (got : (store.backend.get full).outcome state.cache = (.ok answer, cache))
    (unreadable : ¬ Readable codec answer) :
    store.alone (steps + 3) ⟨{ state }, [⟨⟨full, codec, generate⟩, .called⟩]⟩ =
      store.alone steps ⟨⟨{ state with cache }, loneFlight full⟩,
        [⟨⟨full, codec, generate⟩, .leading 0⟩]⟩ := by
  have step : store.stepCaller 0 ⟨full, codec, generate⟩ { state } .called =
      some (.missed, { state := { state with cache } }) := by
    simp [stepCaller, outcome_cached?_of_unreadable got unreadable]
  rw [alone_step step, alone_step rfl, alone_step rfl]
  rfl

/-- The second look finds a payload that is a value.  It is handed on as it is, and read once more
in the end. -/
theorem alone_leading_found {payload : Payload} {value : α}
    (got : (store.backend.get full).outcome state.cache = (.ok (.ok (some payload)), cache))
    (decoded : codec.decode payload = .ok value) :
    (store.alone (steps + 3) ⟨⟨state, loneFlight full⟩,
      [⟨⟨full, codec, generate⟩, .leading 0⟩]⟩).EndsWith (.ok ⟨value, true⟩)
        { state with cache } := by
  have step : store.stepCaller 0 ⟨full, codec, generate⟩ ⟨state, loneFlight full⟩ (.leading 0) =
      some (.checked 0 (some payload), ⟨{ state with cache }, loneFlight full⟩) := by
    simp [stepCaller, outcome_payload?_of_get got, payloadOf, decoded, Except.toBool]
  have concluded : conclude codec (.ok payload) none = .ok ⟨value, true⟩ := by
    simp [conclude, CacheStore.decoded, decoded, Except.mapError]
  rw [alone_step step, alone_step rfl, alone_step rfl, concluded]
  exact alone_returned _

/-- The second look finds nothing, and the generator is about to be run. -/
theorem alone_leading_missed
    (got : (store.backend.get full).outcome state.cache = (.ok answer, cache))
    (unreadable : ¬ Readable codec answer) :
    store.alone (steps + 2) ⟨⟨state, loneFlight full⟩,
        [⟨⟨full, codec, generate⟩, .leading 0⟩]⟩ =
      store.alone steps ⟨⟨{ state with cache }, loneFlight full⟩,
        [⟨⟨full, codec, generate⟩, .generating 0⟩]⟩ := by
  have nothing : (payloadOf answer).filter (fun payload => (codec.decode payload).toBool) = none := by
    cases there : payloadOf answer with
    | none => rfl
    | some payload =>
      obtain ⟨fault, undecoded⟩ := decode_of_unreadable unreadable there
      simp [undecoded, Except.toBool]
  have step : store.stepCaller 0 ⟨full, codec, generate⟩ ⟨state, loneFlight full⟩ (.leading 0) =
      some (.checked 0 none, ⟨{ state with cache }, loneFlight full⟩) := by
    simp [stepCaller, outcome_payload?_of_get got, nothing]
  rw [alone_step step, alone_step rfl]

/-- The generator fails, and its error is handed on. -/
theorem alone_generating_failed {error : StorageError} {source : σ}
    (ran : generate.outcome state.source = (.ok (.error error), source)) :
    (store.alone (steps + 2) ⟨⟨state, loneFlight full⟩,
      [⟨⟨full, codec, generate⟩, .generating 0⟩]⟩).EndsWith (.error error)
        { state with source } := by
  have step : store.stepCaller 0 ⟨full, codec, generate⟩ ⟨state, loneFlight full⟩ (.generating 0) =
      some (.leaving 0 (.error error) none,
        ⟨{ state with source }, (loneFlight full).put 0 (.settled (.error error))⟩) := by
    simp [stepCaller, ran]
  rw [alone_step step, alone_step rfl]
  exact alone_returned _

/-- The generator gives a value, which is handed on whether it can be written or not. -/
theorem alone_generating_made {value : α} {source : σ} {done : Except CacheError Unit}
    (ran : generate.outcome state.source = (.ok (.ok value), source))
    (wrote : (store.backend.set full (codec.encode value) store.entryTtl).outcome state.cache =
      (.ok done, cache)) :
    (store.alone (steps + 4) ⟨⟨state, loneFlight full⟩,
      [⟨⟨full, codec, generate⟩, .generating 0⟩]⟩).EndsWith (.ok ⟨value, false⟩)
        { state with source, cache } := by
  have run : store.stepCaller 0 ⟨full, codec, generate⟩ ⟨state, loneFlight full⟩ (.generating 0) =
      some (.populating 0 value, ⟨{ state with source }, loneFlight full⟩) := by
    simp [stepCaller, ran]
  have write : store.stepCaller 0 ⟨full, codec, generate⟩
      ⟨{ state with source }, loneFlight full⟩ (.populating 0 value) =
        some (.populated 0 value, ⟨{ state with source, cache }, loneFlight full⟩) := by
    simp [stepCaller, outcome_populate_of_set wrote]
  rw [alone_step run, alone_step write, alone_step rfl, alone_step rfl]
  exact alone_returned _

end Steps

/-- A caller without company comes to what a fetch comes to. -/
theorem alone_fetches {codec : Codec α} {key full : String} {read : Answers σ α}
    {state last : Layered σ β} {fetched : Except StorageError (Fetched α)}
    (complete : store.fullKey key = .ok full)
    (ended : store.Fetches codec full read state fetched last) :
    let burst := store.burst state [⟨key, codec, read.run⟩]
    (store.alone burst.rank burst).EndsWith fetched last := by
  have begun : store.burst state [⟨key, codec, read.run⟩] =
      ⟨{ state }, [⟨⟨full, codec, read.run⟩, .called⟩]⟩ := by
    simp [burst, caller, complete]
  rw [begun]
  change (store.alone 9 _).EndsWith fetched last
  cases ended with
  | found got decoded => exact alone_called_found got decoded
  | foundAgain got unreadable got_again decoded =>
    rw [alone_called_missed got unreadable]
    exact alone_leading_found got_again decoded
  | failed got unreadable got_again unreadable_again ran =>
    rw [alone_called_missed got unreadable, alone_leading_missed got_again unreadable_again]
    exact alone_generating_failed ran
  | made got unreadable got_again unreadable_again ran wrote =>
    rw [alone_called_missed got unreadable, alone_leading_missed got_again unreadable_again]
    exact alone_generating_made ran wrote

end CacheStore

end Gazette
