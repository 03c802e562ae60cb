import Gazette.Proofs.Cache.Live
import Gazette.Proofs.Cache.Store

/-!
# Faithful backends

A backend is faithful to a key on some of its states if it always answers, shows what has last
been written under the key, and loses nothing by being read.  What a store does on such a
backend can be said without the backend: reads give what is shown, and writes change it.
-/

set_option autoImplicit false

namespace Gazette

variable {σ β α : Type}

/-- A store whose backend is faithful to a complete key on the states that are `fit`, where
`shown` says which payload the key has. -/
structure Faithful (store : CacheStore β) (key : String) (fit : β → Prop)
    (shown : β → Option Payload) : Prop where
  get {cache : β} : fit cache →
    ∃ after, (store.backend.get key).outcome cache = (.ok (.ok (shown cache)), after) ∧
      fit after ∧ shown after = shown cache
  set {cache : β} (payload : Payload) : fit cache →
    ∃ after, (store.backend.set key payload store.entryTtl).outcome cache =
        (.ok (.ok ()), after) ∧
      fit after ∧ shown after = some payload

namespace Faithful

variable {store : CacheStore β} {key : String} {fit : β → Prop} {shown : β → Option Payload}

/-- A read gives the payload that is shown. -/
theorem outcome_payload? (h : Faithful store key fit shown) {cache : β} (fits : fit cache) :
    ∃ after, (store.payload? key).outcome cache = (.ok (shown cache), after) ∧
      fit after ∧ shown after = shown cache := by
  obtain ⟨after, got, still_fits, same⟩ := h.get fits
  exact ⟨after, CacheStore.outcome_payload?_of_get got, still_fits, same⟩

/-- A lookup gives the value that is shown, if it can be read. -/
theorem outcome_cached? (h : Faithful store key fit shown) {cache : β} (fits : fit cache)
    (codec : Codec α) :
    ∃ after, (store.cached? codec key).outcome cache =
        (.ok ((shown cache).bind fun payload => (codec.decode payload).toOption), after) ∧
      fit after ∧ shown after = shown cache := by
  obtain ⟨after, got, still_fits, same⟩ := h.get fits
  exact ⟨after, CacheStore.outcome_cached?_of_get got, still_fits, same⟩

/-- Populating a key makes it show the value. -/
theorem outcome_populate (h : Faithful store key fit shown) {cache : β} (fits : fit cache)
    (codec : Codec α) (value : α) :
    ∃ after, (store.populate codec key value).outcome cache = (.ok (), after) ∧
      fit after ∧ shown after = some (codec.encode value) := by
  obtain ⟨after, done, still_fits, same⟩ := h.set (codec.encode value) fits
  exact ⟨after, CacheStore.outcome_populate_of_set done, still_fits, same⟩

variable {state after : Layered σ β}

/-- What a read comes to in front of a source. -/
theorem of_payload? (h : Faithful store key fit shown) (fits : fit state.cache)
    {answer : Except DeadlineOverflow (Option Payload)}
    (look : (Layered.onCache (store.payload? key)).outcome state = (answer, after)) :
    answer = .ok (shown state.cache) ∧ fit after.cache ∧
      shown after.cache = shown state.cache := by
  obtain ⟨cache, got, still_fits, same⟩ := h.outcome_payload? fits
  rw [Layered.outcome_onCache, got] at look
  cases look
  exact ⟨rfl, still_fits, same⟩

/-- What a lookup comes to in front of a source. -/
theorem of_cached? (h : Faithful store key fit shown) (fits : fit state.cache) {codec : Codec α}
    {answer : Except DeadlineOverflow (Option α)}
    (look : (Layered.onCache (store.cached? codec key)).outcome state = (answer, after)) :
    answer = .ok ((shown state.cache).bind fun payload => (codec.decode payload).toOption) ∧
      fit after.cache ∧ shown after.cache = shown state.cache := by
  obtain ⟨cache, got, still_fits, same⟩ := h.outcome_cached? fits codec
  rw [Layered.outcome_onCache, got] at look
  cases look
  exact ⟨rfl, still_fits, same⟩

/-- What populating comes to in front of a source. -/
theorem of_populate (h : Faithful store key fit shown) (fits : fit state.cache)
    {codec : Codec α} {value : α} {answer : Except DeadlineOverflow Unit}
    (done : (Layered.onCache (store.populate codec key value)).outcome state = (answer, after)) :
    answer = .ok () ∧ fit after.cache ∧ shown after.cache = some (codec.encode value) := by
  obtain ⟨cache, wrote, still_fits, same⟩ := h.outcome_populate fits codec value
  rw [Layered.outcome_onCache, wrote] at done
  cases done
  exact ⟨rfl, still_fits, same⟩

end Faithful

/-- A cache in memory with some room is faithful as long as the clock can show the deadlines of
new entries. -/
theorem TimedCache.faithful (keyStart : String) (ttl : Duration) (key : String) :
    Faithful ⟨TimedCache.backend, keyStart, ttl⟩ key
      (fun state => 0 < state.cache.capacity ∧
        fitsClock state.now (CacheStore.entryTtl ⟨TimedCache.backend, keyStart, ttl⟩))
      (fun state => state.live? key) where
  get {state} := by
    rintro ⟨room, fits⟩
    obtain ⟨after, got, fades, now, same⟩ := outcome_get state key room
    exact ⟨after, got, ⟨by rwa [fades.capacity], by rwa [now]⟩, same⟩
  set {state} payload := by
    rintro ⟨room, fits⟩
    obtain ⟨after, done, capacity, now, same, -⟩ := outcome_set state key payload room fits
    exact ⟨after, done, ⟨by rwa [capacity], by rwa [now]⟩, same⟩

end Gazette
