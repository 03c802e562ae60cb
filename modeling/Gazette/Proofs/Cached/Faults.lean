import Mathlib.Data.List.Basic
import Gazette.Proofs.Cache.Calls
import Gazette.Proofs.Cache.Store
import Gazette.Proofs.Cached.Guarded

/-!
# Caches that may answer anything

Nothing is asked of a cache here but that it answers: a read may find any payload, or none, or fail,
and so may everything else, as it pleases each time.  It is told which calls reach the cache, what a
lookup makes of the answers, and that whatever else is done about the cache never fails.
-/

set_option autoImplicit false

namespace Gazette

variable {σ β α γ : Type}

namespace CacheStore

variable {store : CacheStore β} {written further : String → Payload → Prop}
  {before between after : β} {fit : β → Prop} {cache : β}

/-- A call that a store makes: if it is a write, the entry has the store's time to live and is one
of those that are told to be written. -/
def Makes (store : CacheStore β) (written : String → Payload → Prop) : CacheCall → Prop
  | .set key payload ttl => ttl = store.entryTtl ∧ written key payload
  | .get _ | .contains _ | .delete _ => True

/-- A state of the cache that has come of another one by some calls of a store. -/
def Served (store : CacheStore β) (written : String → Payload → Prop) (before after : β) : Prop :=
  ∃ calls, (∀ call ∈ calls, store.Makes written call) ∧
    after = store.backend.afterCalls before calls

/-- More payloads may be told to be written by a call. -/
theorem Makes.mono {call : CacheCall} (makes : store.Makes written call)
    (bound : ∀ key payload, written key payload → further key payload) :
    store.Makes further call := by
  cases call with
  | set key payload ttl => exact ⟨makes.1, bound key payload makes.2⟩
  | _ => trivial

namespace Served

/-- A cache that has not been called is one that has been served. -/
theorem refl (cache : β) : store.Served written cache cache :=
  ⟨[], nofun, rfl⟩

/-- A single call serves a cache. -/
theorem single {call : CacheCall} (left : after = call.leave store.backend before)
    (makes : store.Makes written call) : store.Served written before after := by
  refine ⟨[call], ?_, left⟩
  intro other there
  rw [List.mem_singleton.mp there]
  exact makes

/-- Calls after calls serve a cache. -/
theorem trans (first : store.Served written before between)
    (second : store.Served written between after) : store.Served written before after := by
  obtain ⟨calls, made, rfl⟩ := first
  obtain ⟨more, made_more, rfl⟩ := second
  refine ⟨calls ++ more, ?_, ?_⟩
  · intro call there
    exact (List.mem_append.mp there).elim (made call) (made_more call)
  · rw [Backend.afterCalls, Backend.afterCalls, Backend.afterCalls, List.foldl_append]

/-- More payloads may be told to be written. -/
theorem mono (served : store.Served written before after)
    (bound : ∀ key payload, written key payload → further key payload) :
    store.Served further before after := by
  obtain ⟨calls, made, rfl⟩ := served
  exact ⟨calls, fun call there => (made call there).mono bound, rfl⟩

end Served

/-- A backend that answers every call that a store makes, whatever the answer, as long as its state
is fit, which it stays. -/
def Responds (store : CacheStore β) (fit : β → Prop) : Prop :=
  ∀ (cache : β) (call : CacheCall), fit cache → store.Makes (fun _ _ => True) call →
    ∃ answer, ((call.perform store.backend).outcome cache).1 = .ok answer ∧
      fit (call.leave store.backend cache)

namespace Responds

/-- The task that a call performs has an answer, and leaves what the call leaves. -/
theorem answered (responds : store.Responds fit) (fits : fit cache) {call : CacheCall}
    {task : Task β γ} {use : γ → Except CacheError CacheAnswer}
    (performed : (call.perform store.backend).outcome cache =
      ((task.outcome cache).1.map use, (task.outcome cache).2))
    (makes : store.Makes (fun _ _ => True) call) :
    ∃ answer after, task.outcome cache = (.ok answer, after) ∧
      after = call.leave store.backend cache ∧ fit after := by
  obtain ⟨answer, answered, still_fits⟩ := responds cache call fits makes
  have left : call.leave store.backend cache = (task.outcome cache).2 :=
    congrArg Prod.snd performed
  rw [performed] at answered
  rw [left] at still_fits ⊢
  rcases ran : task.outcome cache with ⟨cause | value, after⟩
  · rw [ran] at answered
    cases answered
  · rw [ran] at still_fits
    exact ⟨value, after, rfl, rfl, still_fits⟩

variable (responds : store.Responds fit) (fits : fit cache)

include responds fits

/-- A backend that responds answers a get and stays fit. -/
theorem get (key : String) :
    ∃ found after, (store.backend.get key).outcome cache = (.ok found, after) ∧
      after = (CacheCall.get key).leave store.backend cache ∧ fit after :=
  responds.answered fits CacheCall.outcome_perform_get trivial

/-- A backend that responds answers a set and stays fit. -/
theorem set (key : String) (payload : Payload) :
    ∃ done after, (store.backend.set key payload store.entryTtl).outcome cache = (.ok done, after) ∧
      after = (CacheCall.set key payload store.entryTtl).leave store.backend cache ∧ fit after :=
  responds.answered fits CacheCall.outcome_perform_set ⟨rfl, trivial⟩

/-- A backend that responds answers an existence check and stays fit. -/
theorem contains (key : String) :
    ∃ found after, (store.backend.contains key).outcome cache = (.ok found, after) ∧
      after = (CacheCall.contains key).leave store.backend cache ∧ fit after :=
  responds.answered fits CacheCall.outcome_perform_contains trivial

/-- A backend that responds answers a delete and stays fit. -/
theorem delete (key : String) :
    ∃ done after, (store.backend.delete key).outcome cache = (.ok done, after) ∧
      after = (CacheCall.delete key).leave store.backend cache ∧ fit after :=
  responds.answered fits CacheCall.outcome_perform_delete trivial

end Responds

end CacheStore

/-- What an activity comes to in front of a cache that may answer anything: its answer, the source
that it leaves, and what kind of entries it may write. -/
structure Activity.Settles (store : CacheStore β) (fit : β → Prop)
    (activity : Activity (Layered σ β) α) (state : Layered σ β) (answer : α) (source : σ)
    (written : String → Payload → Prop) : Prop where
  outcome : ∃ after, activity.run.outcome state = (.ok answer, after) ∧ after.source = source ∧
    store.Served written state.cache after.cache ∧ fit after.cache

namespace Activity.Settles

variable {store : CacheStore β} {fit : β → Prop} {activity : Activity (Layered σ β) α}
  {state : Layered σ β} {answer : α} {between : γ} {source middle : σ}
  {written further : String → Payload → Prop}

/-- Nothing is done. -/
theorem pure (fits : fit state.cache) (same : state.source = source) :
    Settles store fit (Pure.pure answer) state answer source written :=
  ⟨state, rfl, same, .refl _, fits⟩

/-- One activity after the other. -/
theorem bind {first : Activity (Layered σ β) γ} {next : γ → Activity (Layered σ β) α}
    (begun : first.Settles store fit state between middle written)
    (goes_on : ∀ after : Layered σ β, after.source = middle → fit after.cache →
      (next between).Settles store fit after answer source written) :
    (first >>= next).Settles store fit state answer source written := by
  obtain ⟨after, ran, same_source, served, fits⟩ := begun.outcome
  obtain ⟨last, ran_last, source_last, served_last, fits_last⟩ :=
    (goes_on after same_source fits).outcome
  refine ⟨last, ?_, source_last, served.trans served_last, fits_last⟩
  rw [Activity.run_bind_eq, Task.outcome_bind_of_ok ran, ran_last]

/-- More payloads may be told to be written. -/
theorem mono (settles : activity.Settles store fit state answer source written)
    (bound : ∀ key payload, written key payload → further key payload) :
    activity.Settles store fit state answer source further := by
  obtain ⟨after, ran, same_source, served, fits⟩ := settles.outcome
  exact ⟨after, ran, same_source, served.mono bound, fits⟩

/-- A step of the cache. -/
theorem onCache {task : Task β α} {cache : β} (ran : task.outcome state.cache = (.ok answer, cache))
    (served : store.Served written state.cache cache) (fits : fit cache) :
    (Activity.onCache task).Settles store fit state answer state.source written :=
  ⟨{ state with cache }, Activity.outcome_onCache_of_ok ran, rfl, served, fits⟩

/-- An activity of the source. -/
theorem onSource {inner : Activity σ α}
    (ran : inner.run.outcome state.source = (.ok answer, source)) (fits : fit state.cache) :
    inner.onSource.Settles store fit state answer source written := by
  refine ⟨{ state with source }, ?_, rfl, .refl _, fits⟩
  rw [outcome_run_onSource, ran]

variable {ε : Type} {result : Except ε α} {value : α} {error : ε}
  {fallible : Activity (Layered σ β) (Except ε α)} {use : α → Activity (Layered σ β) Unit}

/-- What is done with a value, after the activity that has given it. -/
theorem also_ok (begun : fallible.Settles store fit state (.ok value) middle written)
    (goes_on : ∀ after : Layered σ β, after.source = middle → fit after.cache →
      (use value).Settles store fit after () source written) :
    (fallible.also use).Settles store fit state (.ok value) source written := by
  refine begun.bind ?_
  intro after same fits
  exact (goes_on after same fits).bind fun _ same_last fits_last => pure fits_last same_last

/-- Nothing more is done after a failure. -/
theorem also_error (begun : fallible.Settles store fit state (.error error) source written) :
    (fallible.also use).Settles store fit state (.error error) source written :=
  begun.bind fun _ same fits => pure fits same

/-- Something is done about the cache with the value of an activity, if it has one. -/
theorem also (begun : fallible.Settles store fit state result source written)
    (goes_on : ∀ value, result = .ok value → ∀ after : Layered σ β, after.source = source →
      fit after.cache → (use value).Settles store fit after () source written) :
    (fallible.also use).Settles store fit state result source written := by
  cases result with
  | error error => exact begun.also_error
  | ok value => exact begun.also_ok (goes_on value rfl)

end Activity.Settles

namespace CacheFront

variable {front : CacheFront β} {fit : β → Prop} {key : String} {state : Layered σ β}
  {written : String → Payload → Prop}

/-- The store of a front works on a key that is not empty under its full name. -/
theorem onKey_named (named : key ≠ "") (operation : String → Task β (Except CacheError γ)) :
    front.store.onKey key operation = operation (front.full key) :=
  CacheStore.onKey_named named operation

variable (responds : front.store.Responds fit) (named : key ≠ "") (fits : fit state.cache)

include responds named fits

/-- Keeping a value writes it, or tries to. -/
theorem settles_keep (codec : Codec α) (value : α)
    (allowed : written (front.full key) (codec.encode value)) :
    (front.keep codec key value).Settles front.store fit state () state.source written := by
  obtain ⟨done, cache, wrote, left, still_fits⟩ :=
    responds.set fits (front.full key) (codec.encode value)
  refine Activity.Settles.onCache ?_ (.single left ⟨rfl, allowed⟩) still_fits
  rw [CacheStore.set, onKey_named named, Task.outcome_bind_of_ok wrote, Task.outcome_pure]

/-- Forgetting a key deletes it, or tries to. -/
theorem settles_forget :
    (front.forget key).Settles front.store fit state () state.source written := by
  obtain ⟨done, cache, removed, left, still_fits⟩ := responds.delete fits (front.full key)
  refine Activity.Settles.onCache ?_ (.single left trivial) still_fits
  rw [CacheStore.delete, onKey_named named, Task.outcome_bind_of_ok removed, Task.outcome_pure]

/-- Looking whether there is an entry finds one or does not. -/
theorem settles_holds :
    ∃ found, (front.holds key).Settles front.store fit state found state.source written := by
  obtain ⟨answer, cache, looked, left, still_fits⟩ := responds.contains fits (front.full key)
  have begun : Activity.Settles front.store fit (Activity.onCache (front.store.contains key)) state
      answer state.source written := by
    refine Activity.Settles.onCache ?_ (.single left trivial) still_fits
    rw [CacheStore.contains, onKey_named named, looked]
  cases answer with
  | error error => exact ⟨false, begun.bind fun _ same fits_last => .pure fits_last same⟩
  | ok found => exact ⟨found, begun.bind fun _ same fits_last => .pure fits_last same⟩

/-- Invalidating a key never fails. -/
theorem settles_invalidate :
    (front.invalidate key).Settles front.store fit state () state.source written := by
  obtain ⟨found, looked⟩ := settles_holds responds named fits
  refine looked.bind ?_
  intro after same fits_after
  cases found with
  | false => exact .pure fits_after same
  | true => exact same ▸ settles_forget responds named fits_after

omit named in
/-- Invalidating keys one after the other never fails. -/
theorem settles_invalidateAll (keys : List String) (named : ∀ key ∈ keys, key ≠ "") :
    (front.invalidateAll keys).Settles front.store fit state PUnit.unit state.source written := by
  induction keys generalizing state with
  | nil => exact .pure fits rfl
  | cons key keys ih =>
    refine (settles_invalidate responds (named key List.mem_cons_self) fits).bind ?_
    intro after same fits_after
    exact same ▸ ih fits_after fun other there => named other (List.mem_cons_of_mem _ there)

end CacheFront

/-- Whether the answer to a read holds a value. -/
def Readable (codec : Codec α) (answer : Except CacheError (Option Payload)) : Prop :=
  ∃ payload value, answer = .ok (some payload) ∧ codec.decode payload = .ok value

/-- What is not readable counts as nothing. -/
theorem decode_of_unreadable {codec : Codec α} {answer : Except CacheError (Option Payload)}
    (unreadable : ¬ Readable codec answer) {payload : Payload}
    (there : payloadOf answer = some payload) : ∃ fault, codec.decode payload = .error fault := by
  cases answer with
  | error error => cases there
  | ok found =>
    cases there
    cases decoded : codec.decode payload with
    | error fault => exact ⟨fault, rfl⟩
    | ok value => exact absurd ⟨payload, value, rfl, decoded⟩ unreadable

namespace CacheStore

/-- How a fetch ends in front of a cache that may answer anything.  The source is read once, and
only if neither of two reads of the cache gives a value; its failure is passed on, and nothing is
written then. -/
inductive Fetches (store : CacheStore β) (codec : Codec α) (full : String) (read : Answers σ α)
    (before : Layered σ β) : Except StorageError (Fetched α) → Layered σ β → Prop where
  /-- The first read of the cache gives a value. -/
  | found {payload : Payload} {value : α} {cache : β} :
    (store.backend.get full).outcome before.cache = (.ok (.ok (some payload)), cache) →
    codec.decode payload = .ok value →
    Fetches store codec full read before (.ok ⟨value, true⟩) { before with cache }
  /-- The second read of the cache gives a value. -/
  | foundAgain {first : Except CacheError (Option Payload)} {cache again : β} {payload : Payload}
      {value : α} :
    (store.backend.get full).outcome before.cache = (.ok first, cache) →
    ¬ Readable codec first →
    (store.backend.get full).outcome cache = (.ok (.ok (some payload)), again) →
    codec.decode payload = .ok value →
    Fetches store codec full read before (.ok ⟨value, true⟩) { before with cache := again }
  /-- The source is read and fails. -/
  | failed {first second : Except CacheError (Option Payload)} {cache again : β}
      {error : StorageError} {source : σ} :
    (store.backend.get full).outcome before.cache = (.ok first, cache) →
    ¬ Readable codec first →
    (store.backend.get full).outcome cache = (.ok second, again) →
    ¬ Readable codec second →
    read.run.outcome before.source = (.ok (.error error), source) →
    Fetches store codec full read before (.error error) { before with source, cache := again }
  /-- The source is read and gives a value, which is written into the cache if that succeeds. -/
  | made {first second : Except CacheError (Option Payload)} {cache again last : β} {value : α}
      {source : σ} {done : Except CacheError Unit} :
    (store.backend.get full).outcome before.cache = (.ok first, cache) →
    ¬ Readable codec first →
    (store.backend.get full).outcome cache = (.ok second, again) →
    ¬ Readable codec second →
    read.run.outcome before.source = (.ok (.ok value), source) →
    (store.backend.set full (codec.encode value) store.entryTtl).outcome again = (.ok done, last) →
    Fetches store codec full read before (.ok ⟨value, false⟩) { before with source, cache := last }

section Reads

variable {store : CacheStore β} {codec : Codec α} {full : String} {cache after : β}
  {answer : Except CacheError (Option Payload)}

/-- A lookup that gets a readable payload finds its value. -/
theorem outcome_cached?_of_found {payload : Payload} {value : α}
    (got : (store.backend.get full).outcome cache = (.ok (.ok (some payload)), after))
    (decoded : codec.decode payload = .ok value) :
    (store.cached? codec full).outcome cache = (.ok (some value), after) := by
  rw [outcome_cached?_of_get got]
  simp only [payloadOf, Option.bind_some, decoded]
  rfl

/-- A lookup that gets an error, nothing or what it cannot read finds nothing. -/
theorem outcome_cached?_of_unreadable
    (got : (store.backend.get full).outcome cache = (.ok answer, after))
    (unreadable : ¬ Readable codec answer) :
    (store.cached? codec full).outcome cache = (.ok none, after) := by
  rw [outcome_cached?_of_get got]
  cases there : payloadOf answer with
  | none => rfl
  | some payload =>
    obtain ⟨fault, undecoded⟩ := decode_of_unreadable unreadable there
    simp only [Option.bind_some, undecoded]
    rfl

end Reads

/-- A fetch ends as told if the cache and the source answer. -/
theorem fetches {store : CacheStore β} {fit : β → Prop} (responds : store.Responds fit)
    {key full : String} (complete : store.fullKey key = .ok full) (codec : Codec α)
    {read : Answers σ α} {state : Layered σ β} (fits : fit state.cache)
    (answers : ∃ result source, read.run.outcome state.source = (.ok result, source)) :
    ∃ fetched after, (store.fetch codec key read).run.outcome state = (.ok fetched, after) ∧
      store.Fetches codec full read state fetched after ∧ fit after.cache := by
  obtain ⟨first, cache, got, -, fits_first⟩ := responds.get fits full
  unfold fetch
  rw [complete]
  dsimp only
  by_cases readable : Readable codec first
  · obtain ⟨payload, value, rfl, decoded⟩ := readable
    have looked := outcome_cached?_of_found got decoded
    rw [Activity.outcome_bind_of_ok (Activity.outcome_onCache_of_ok looked)]
    exact ⟨_, _, rfl, .found got decoded, fits_first⟩
  have looked := outcome_cached?_of_unreadable got readable
  rw [Activity.outcome_bind_of_ok (Activity.outcome_onCache_of_ok looked)]
  obtain ⟨second, again, got_again, -, fits_again⟩ := responds.get fits_first full
  dsimp only
  by_cases readable_again : Readable codec second
  · obtain ⟨payload, value, rfl, decoded⟩ := readable_again
    have looked_again := outcome_cached?_of_found got_again decoded
    rw [Activity.outcome_bind_of_ok (Activity.outcome_onCache_of_ok looked_again)]
    exact ⟨_, _, rfl, .foundAgain got readable got_again decoded, fits_again⟩
  have looked_again := outcome_cached?_of_unreadable got_again readable_again
  rw [Activity.outcome_bind_of_ok (Activity.outcome_onCache_of_ok looked_again)]
  obtain ⟨result, source, ran⟩ := answers
  have read_now : read.onSource.run.outcome { state with cache := again } =
      (.ok result, { state with source, cache := again }) := by
    rw [Activity.outcome_run_onSource, ran]
  dsimp only
  rw [Activity.outcome_bind_of_ok read_now]
  cases result with
  | error error =>
    exact ⟨_, _, rfl, .failed got readable got_again readable_again ran, fits_again⟩
  | ok value =>
    obtain ⟨done, last, wrote, -, fits_last⟩ := responds.set fits_again full (codec.encode value)
    have populated := outcome_populate_of_set wrote
    dsimp only
    rw [Activity.outcome_bind_of_ok (Activity.outcome_onCache_of_ok populated)]
    exact ⟨_, _, rfl, .made got readable got_again readable_again ran wrote, fits_last⟩

end CacheStore

namespace CacheFront

/-- The state after a lookup has been noted, if it has found something. -/
def noted (front : CacheFront β) (domain : String) (fetched : Except StorageError (Fetched α))
    (state : Layered σ β) : Layered σ β :=
  match fetched with
  | .ok fetched =>
    if front.observing then
      { state with observed := state.observed ++ [⟨domain, fetched.hit⟩] }
    else state
  | .error _ => state

/-- A lookup is a fetch that is noted. -/
theorem outcome_lookup {front : CacheFront β} {domain : String} {codec : Codec α} {key : String}
    {read : Answers σ α} {state after : Layered σ β} {fetched : Except StorageError (Fetched α)}
    (ran : (front.store.fetch codec key read).run.outcome state = (.ok fetched, after)) :
    (front.lookup domain codec key read).run.outcome state =
      (.ok (fetched.map Fetched.value), front.noted domain fetched after) := by
  have also_noted : ((front.store.fetch codec key read).also fun fetched =>
      front.note domain fetched.hit).run.outcome state =
        (.ok fetched, front.noted domain fetched after) := by
    unfold Activity.also
    rw [Activity.outcome_bind_of_ok ran]
    cases fetched with
    | error error => rfl
    | ok fetched =>
      unfold note noted
      cases front.observing <;> rfl
  exact Activity.outcome_bind_of_ok also_noted

end CacheFront

end Gazette
