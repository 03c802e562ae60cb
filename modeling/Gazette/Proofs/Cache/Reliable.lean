import Mathlib.Data.List.Basic
import Gazette.Cached.Front
import Gazette.Proofs.Cache.Live
import Gazette.Proofs.Cache.Store

/-!
# Reliable caches

A cache is reliable if each of its operations answers, and answers by what its keys show: what has
been written is shown or lost, what has been deleted is not shown, and nothing else appears.  It may
lose entries at any time.  What a store does with a reliable cache can be said without its backend.
-/

set_option autoImplicit false

namespace Gazette

variable {σ β α : Type}

/-- Nothing is shown later that has not been shown before. -/
def Fading (before after : String → Option Payload) : Prop :=
  ∀ key payload, after key = some payload → before key = some payload

/-- A store whose backend is reliable on the states that are `fit`, where `shown` says which
payloads the complete keys have. -/
structure Reliable (store : CacheStore β) (fit : β → Prop) (shown : β → String → Option Payload) :
    Prop where
  get {cache : β} (key : String) : fit cache →
    ∃ after, (store.backend.get key).outcome cache = (.ok (.ok (shown cache key)), after) ∧
      fit after ∧ Fading (shown cache) (shown after)
  contains {cache : β} (key : String) : fit cache →
    ∃ after, (store.backend.contains key).outcome cache =
        (.ok (.ok (shown cache key).isSome), after) ∧
      fit after ∧ Fading (shown cache) (shown after)
  set {cache : β} (key : String) (payload : Payload) : fit cache →
    ∃ after, (store.backend.set key payload store.entryTtl).outcome cache =
        (.ok (.ok ()), after) ∧
      fit after ∧ ∀ other found, shown after other = some found →
        other = key ∧ found = payload ∨ other ≠ key ∧ shown cache other = some found
  delete {cache : β} (key : String) : fit cache →
    ∃ after, (store.backend.delete key).outcome cache = (.ok (.ok ()), after) ∧
      fit after ∧ Fading (shown cache) (shown after) ∧ shown after key = none

/-- Time passes and entries are lost. -/
def Lapses (fit : β → Prop) (shown : β → String → Option Payload) (before after : β) : Prop :=
  fit after ∧ Fading (shown before) (shown after)

namespace Reliable

variable {store : CacheStore β} {fit : β → Prop} {shown : β → String → Option Payload}
  {key : String} {cache : β}

/-- Looking whether there is an entry, in front of a source. -/
theorem onCache_contains (h : Reliable store fit shown) (named : key ≠ "") {state : Layered σ β}
    (fits : fit state.cache) :
    ∃ cache, (Layered.onCache (store.contains key)).outcome state =
        (.ok (.ok (shown state.cache (CacheKey.namespaced store.keyStart key)).isSome),
          { state with cache }) ∧
      fit cache ∧ Fading (shown state.cache) (shown cache) := by
  obtain ⟨cache, looked, still_fits, fades⟩ :=
    h.contains (CacheKey.namespaced store.keyStart key) fits
  refine ⟨cache, ?_, still_fits, fades⟩
  rw [Layered.outcome_onCache, CacheStore.contains, CacheStore.onKey_named named, looked]

/-- Putting a value under a key in front of a source, whether that succeeds or not. -/
theorem onCache_keep (h : Reliable store fit shown) (named : key ≠ "") {state : Layered σ β}
    (fits : fit state.cache) (codec : Codec α) (value : α) :
    ∃ cache, (Layered.onCache do
        let _ ← store.set codec key value
        return).outcome state = (.ok (), { state with cache }) ∧
      fit cache ∧ ∀ other found, shown cache other = some found →
        other = CacheKey.namespaced store.keyStart key ∧ found = codec.encode value ∨
          other ≠ CacheKey.namespaced store.keyStart key ∧ shown state.cache other = some found := by
  obtain ⟨cache, wrote, still_fits, shows_⟩ :=
    h.set (CacheKey.namespaced store.keyStart key) (codec.encode value) fits
  refine ⟨cache, ?_, still_fits, shows_⟩
  rw [Layered.outcome_onCache, CacheStore.set, CacheStore.onKey_named named, Task.outcome_bind_of_ok wrote]
  rfl

/-- Removing the entry under a key in front of a source, whether that succeeds or not. -/
theorem onCache_forget (h : Reliable store fit shown) (named : key ≠ "") {state : Layered σ β}
    (fits : fit state.cache) :
    ∃ cache, (Layered.onCache do
        let _ ← store.delete key
        return).outcome state = (.ok (), { state with cache }) ∧
      fit cache ∧ Fading (shown state.cache) (shown cache) ∧
      shown cache (CacheKey.namespaced store.keyStart key) = none := by
  obtain ⟨cache, removed, still_fits, fades, gone⟩ :=
    h.delete (CacheKey.namespaced store.keyStart key) fits
  refine ⟨cache, ?_, still_fits, fades, gone⟩
  rw [Layered.outcome_onCache, CacheStore.delete, CacheStore.onKey_named named,
    Task.outcome_bind_of_ok removed]
  rfl

/-- Reading the payload under a complete key. -/
theorem outcome_payload? (h : Reliable store fit shown) (fits : fit cache) :
    ∃ after, (store.payload? key).outcome cache = (.ok (shown cache key), after) ∧
      fit after ∧ Fading (shown cache) (shown after) := by
  obtain ⟨after, got, still_fits, fades⟩ := h.get key fits
  exact ⟨after, CacheStore.outcome_payload?_of_get got, still_fits, fades⟩

variable {state after : Layered σ β}

/-- What a read comes to in front of a source. -/
theorem of_payload? (h : Reliable store fit shown) (fits : fit state.cache)
    {answer : Except DeadlineOverflow (Option Payload)}
    (look : (Layered.onCache (store.payload? key)).outcome state = (answer, after)) :
    answer = .ok (shown state.cache key) ∧ after.source = state.source ∧ fit after.cache ∧
      Fading (shown state.cache) (shown after.cache) := by
  obtain ⟨cache, got, still_fits, fades⟩ := h.outcome_payload? fits
  rw [Layered.outcome_onCache, got] at look
  cases look
  exact ⟨rfl, rfl, still_fits, fades⟩

/-- What a lookup comes to in front of a source. -/
theorem of_cached? (h : Reliable store fit shown) (fits : fit state.cache) {codec : Codec α}
    {answer : Except DeadlineOverflow (Option α)}
    (look : (Layered.onCache (store.cached? codec key)).outcome state = (answer, after)) :
    answer = .ok ((shown state.cache key).bind fun payload => (codec.decode payload).toOption) ∧
      after.source = state.source ∧ fit after.cache ∧
      Fading (shown state.cache) (shown after.cache) := by
  obtain ⟨cache, got, still_fits, fades⟩ := h.get key fits
  have looked : (store.cached? codec key).outcome state.cache =
      (.ok ((shown state.cache key).bind fun payload => (codec.decode payload).toOption),
        cache) :=
    CacheStore.outcome_cached?_of_get got
  rw [Layered.outcome_onCache, looked] at look
  cases look
  exact ⟨rfl, rfl, still_fits, fades⟩

/-- What populating comes to in front of a source. -/
theorem of_populate (h : Reliable store fit shown) (fits : fit state.cache)
    {codec : Codec α} {value : α} {answer : Except DeadlineOverflow Unit}
    (done : (Layered.onCache (store.populate codec key value)).outcome state = (answer, after)) :
    answer = .ok () ∧ after.source = state.source ∧ fit after.cache ∧
      ∀ other found, shown after.cache other = some found →
        other = key ∧ found = codec.encode value ∨
          other ≠ key ∧ shown state.cache other = some found := by
  obtain ⟨cache, wrote, still_fits, shows_⟩ := h.set key (codec.encode value) fits
  rw [Layered.outcome_onCache, CacheStore.outcome_populate_of_set wrote] at done
  cases done
  exact ⟨rfl, rfl, still_fits, shows_⟩

end Reliable

/-- A cache in memory with some room is reliable as long as the clock can show the deadlines of new
entries. -/
theorem TimedCache.reliable (keyStart : String) (ttl : Duration) :
    Reliable ⟨TimedCache.backend, keyStart, ttl⟩
      (fun cache => 0 < cache.cache.capacity ∧
        fitsClock cache.now (CacheStore.entryTtl ⟨TimedCache.backend, keyStart, ttl⟩))
      TimedCache.live? where
  get {cache} key := by
    rintro ⟨room, fits⟩
    obtain ⟨after, got, fades, now, -⟩ := outcome_get cache key room
    exact ⟨after, got, ⟨by rwa [fades.capacity], by rwa [now]⟩, fun _ _ shown => fades.live shown⟩
  contains {cache} key := by
    rintro ⟨room, fits⟩
    obtain ⟨after, looked, fades, now, -⟩ := outcome_contains cache key
    exact ⟨after, looked, ⟨by rwa [fades.capacity], by rwa [now]⟩,
      fun _ _ shown => fades.live shown⟩
  set {cache} key payload := by
    rintro ⟨room, fits⟩
    obtain ⟨after, done, capacity, now, same, others⟩ := outcome_set cache key payload room fits
    refine ⟨after, done, ⟨by rwa [capacity], by rwa [now]⟩, ?_⟩
    intro other found shown
    by_cases here : other = key
    · subst here
      rw [same] at shown
      exact .inl ⟨rfl, (Option.some.inj shown).symm⟩
    · exact .inr ⟨here, others other found here shown⟩
  delete {cache} key := by
    rintro ⟨room, fits⟩
    obtain ⟨after, done, fades, now, gone⟩ := outcome_delete cache key
    exact ⟨after, done, ⟨by rwa [fades.capacity], by rwa [now]⟩,
      fun _ _ shown => fades.live shown, gone⟩

end Gazette
