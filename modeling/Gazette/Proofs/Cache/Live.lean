import Mathlib.Data.List.Basic
import Gazette.Cache.Memory

/-!
# What the cache in memory shows

A reader of the cache in memory only sees the payloads whose deadlines have not passed.  Reads,
lookups, deletes and the passing of time never let a payload appear; a write lets one appear,
and every operation may take payloads of other keys away when the room is too small.
-/

set_option autoImplicit false

namespace Gazette

namespace MemoryCache

variable {cache : MemoryCache} {key other : String} {entry found : CacheEntry}

/-- An entry is found under its own key. -/
theorem key_of_entry? (h : cache.entry? key = some entry) : entry.key = key := by
  simpa using List.find?_some h

/-- No entry is found under a key that has been erased. -/
theorem entry?_erase_self (cache : MemoryCache) (key : String) :
    MemoryCache.entry? (cache.erase key) key = none := by
  simp [erase, entry?]

/-- Erasing a key keeps the entries under the others. -/
theorem entry?_erase_ne (cache : MemoryCache) (h : other ≠ key) :
    MemoryCache.entry? (cache.erase key) other = cache.entry? other := by
  unfold erase entry?
  rw [List.find?_filter]
  congr 1
  funext entry
  by_cases wanted : entry.key = other
  · simp [wanted, h]
  · simp [wanted]

/-- The entry that has been put is found if there is room for one at all. -/
theorem entry?_put_self (cache : MemoryCache) (entry : CacheEntry) (room : 0 < cache.capacity) :
    MemoryCache.entry? (cache.put entry) entry.key = some entry := by
  obtain ⟨less, same⟩ : ∃ less, cache.capacity = less + 1 := ⟨cache.capacity - 1, by omega⟩
  simp [put, entry?, same]

/-- Putting an entry lets no other one appear. -/
theorem entry?_of_put (different : other ≠ entry.key)
    (h : MemoryCache.entry? (cache.put entry) other = some found) : cache.entry? other = some found := by
  have kept : (entry :: (cache.erase entry.key).entries).find? (fun entry => entry.key = other) =
      some found :=
    List.IsPrefix.find?_eq_some (List.take_prefix _ _) h
  rw [List.find?_cons_of_neg (by simpa using Ne.symm different)] at kept
  rw [← entry?_erase_ne cache different]
  exact kept

end MemoryCache

namespace TimedCache

variable {state before after : TimedCache} {key other : String} {payload : Payload}

/-- The payload that a reader finds under a key. -/
def live? (state : TimedCache) (key : String) : Option Payload :=
  match state.cache.entry? key with
  | some entry => if entry.isExpired state.now then none else some entry.value
  | none => none

/-- A key whose entry is there and has not expired shows the payload of the entry. -/
theorem live?_eq_some :
    state.live? key = some payload ↔ ∃ entry, state.cache.entry? key = some entry ∧
      entry.isExpired state.now = false ∧ entry.value = payload := by
  unfold live?
  cases present : state.cache.entry? key with
  | none => simp
  | some entry =>
    cases expired : entry.isExpired state.now with
    | true => simp [expired]
    | false => simp [expired]

/-- An expired entry has been expired ever since. -/
theorem isExpired_mono {entry : CacheEntry} {now later : Nat} (h : now ≤ later)
    (fresh : entry.isExpired later = false) : entry.isExpired now = false := by
  unfold CacheEntry.isExpired at fresh ⊢
  split at fresh
  · simp only [decide_eq_false_iff_not] at fresh ⊢
    omega
  · rfl

/-- Two states of a cache between which no payload has appeared. -/
structure Fades (before after : TimedCache) : Prop where
  capacity : after.cache.capacity = before.cache.capacity
  now : before.now ≤ after.now
  live {key : String} {payload : Payload} :
    after.live? key = some payload → before.live? key = some payload

namespace Fades

/-- Nothing appears while nothing happens. -/
theorem refl (state : TimedCache) : Fades state state :=
  ⟨rfl, Nat.le_refl _, id⟩

/-- Nothing appears if every entry that is found later was found before. -/
theorem of_entries (capacity : after.cache.capacity = before.cache.capacity)
    (now : before.now ≤ after.now) (entries : ∀ key entry,
      after.cache.entry? key = some entry → before.cache.entry? key = some entry) :
    Fades before after := by
  refine ⟨capacity, now, ?_⟩
  intro key payload shown
  obtain ⟨entry, present, fresh, same⟩ := live?_eq_some.mp shown
  exact live?_eq_some.mpr ⟨entry, entries key entry present, isExpired_mono now fresh, same⟩

end Fades

/-- Time lets nothing appear. -/
theorem fades_elapse (state : TimedCache) (time : Duration) : Fades state (state.elapse time) :=
  .of_entries rfl (Nat.le_add_right _ _) fun _ _ => id

/-- Erasing a key lets nothing appear. -/
theorem fades_erase (state : TimedCache) (key : String) :
    Fades state { state with cache := state.cache.erase key } := by
  refine Fades.of_entries (by rfl) (by simp) ?_
  intro other entry present
  by_cases same : other = key
  · subst same
    rw [MemoryCache.entry?_erase_self] at present
    cases present
  · rwa [MemoryCache.entry?_erase_ne _ same] at present

/-- Nothing is shown under a key that has been erased. -/
theorem live?_erase_self (state : TimedCache) (key : String) :
    live? { state with cache := state.cache.erase key } key = none := by
  simp [live?, MemoryCache.entry?_erase_self]

/-- Erasing a key changes nothing under the others. -/
theorem live?_erase_ne (state : TimedCache) (different : other ≠ key) :
    live? { state with cache := state.cache.erase key } other = state.live? other := by
  simp [live?, MemoryCache.entry?_erase_ne _ different]

/-- Putting an entry that is there into the first place lets nothing appear. -/
theorem fades_put {entry : CacheEntry} (present : state.cache.entry? key = some entry)
    (room : 0 < state.cache.capacity) :
    Fades state { state with cache := state.cache.put entry } := by
  have own : entry.key = key := MemoryCache.key_of_entry? present
  refine Fades.of_entries (by rfl) (by simp) ?_
  intro other found later
  by_cases same : other = entry.key
  · subst same
    rw [MemoryCache.entry?_put_self _ _ room] at later
    rw [own, present, later]
  · exact MemoryCache.entry?_of_put same later

/-- A read answers with what the key shows and lets nothing appear, and the key goes on showing
the same. -/
theorem outcome_get (state : TimedCache) (key : String) (room : 0 < state.cache.capacity) :
    ∃ after, (backend.get key).outcome state = (.ok (.ok (state.live? key)), after) ∧
      Fades state after ∧ after.now = state.now ∧ after.live? key = state.live? key := by
  have made : (backend.get key).outcome state =
      (.ok (.ok (state.cache.get state.now key).1),
        { state with cache := (state.cache.get state.now key).2 }) := rfl
  rw [made]
  unfold MemoryCache.get
  cases present : state.cache.entry? key with
  | none =>
    have nothing : state.live? key = none := by simp [live?, present]
    exact ⟨state, by rw [nothing], Fades.refl state, rfl, rfl⟩
  | some entry =>
    cases expired : entry.isExpired state.now with
    | true =>
      have nothing : state.live? key = none := by simp [live?, present, expired]
      refine ⟨{ state with cache := state.cache.erase key }, by simp [nothing, expired],
        fades_erase state key, rfl, ?_⟩
      rw [nothing, live?_erase_self]
    | false =>
      have shown : state.live? key = some entry.value := by simp [live?, present, expired]
      refine ⟨{ state with cache := state.cache.put entry }, by simp [shown, expired],
        fades_put present room, rfl, ?_⟩
      have own : entry.key = key := MemoryCache.key_of_entry? present
      have found := MemoryCache.entry?_put_self state.cache entry room
      rw [own] at found
      rw [shown]
      exact live?_eq_some.mpr ⟨entry, found, expired, rfl⟩

/-- A lookup answers whether the key shows something, lets nothing appear, and changes nothing
that is shown. -/
theorem outcome_contains (state : TimedCache) (key : String) :
    ∃ after, (backend.contains key).outcome state =
        (.ok (.ok (state.live? key).isSome), after) ∧
      Fades state after ∧ after.now = state.now ∧
      ∀ other, after.live? other = state.live? other := by
  have made : (backend.contains key).outcome state =
      (.ok (.ok (state.cache.contains state.now key).1),
        { state with cache := (state.cache.contains state.now key).2 }) := rfl
  rw [made]
  unfold MemoryCache.contains
  cases present : state.cache.entry? key with
  | none =>
    have nothing : state.live? key = none := by simp [live?, present]
    exact ⟨state, by rw [nothing]; rfl, Fades.refl state, rfl, fun _ => rfl⟩
  | some entry =>
    cases expired : entry.isExpired state.now with
    | true =>
      have nothing : state.live? key = none := by simp [live?, present, expired]
      refine ⟨{ state with cache := state.cache.erase key }, by simp [nothing, expired],
        fades_erase state key, rfl, ?_⟩
      intro other
      by_cases same : other = key
      · subst same
        rw [nothing, live?_erase_self]
      · exact live?_erase_ne state same
    | false =>
      have shown : state.live? key = some entry.value := by simp [live?, present, expired]
      exact ⟨state, by simp [shown, expired], Fades.refl state, rfl, fun _ => rfl⟩

/-- A delete lets nothing appear, and its key shows nothing afterwards. -/
theorem outcome_delete (state : TimedCache) (key : String) :
    ∃ after, (backend.delete key).outcome state = (.ok (.ok ()), after) ∧
      Fades state after ∧ after.now = state.now ∧ after.live? key = none :=
  ⟨_, rfl, fades_erase state key, rfl, live?_erase_self state key⟩

/-- Whether an entry with a time to live can be written at a moment. -/
def fitsClock (now : Nat) (ttl : Option Duration) : Prop :=
  ∀ time, ttl = some time → now + time < MemoryCache.clockEnd

/-- A write whose deadline the clock can show puts its payload under the key, and nothing else
appears. -/
theorem outcome_set (state : TimedCache) (key : String) (payload : Payload)
    {ttl : Option Duration} (room : 0 < state.cache.capacity) (fits : fitsClock state.now ttl) :
    ∃ after, (backend.set key payload ttl).outcome state = (.ok (.ok ()), after) ∧
      after.cache.capacity = state.cache.capacity ∧ after.now = state.now ∧
      after.live? key = some payload ∧
      ∀ other found, other ≠ key → after.live? other = some found →
        state.live? other = some found := by
  obtain ⟨deadline, dated, fresh⟩ : ∃ deadline, MemoryCache.deadline state.now ttl = .ok deadline ∧
      CacheEntry.isExpired state.now ⟨key, payload, deadline⟩ = false := by
    cases ttl with
    | none => exact ⟨none, rfl, rfl⟩
    | some time =>
      have inside := fits time rfl
      exact ⟨some (state.now + time), by simp [MemoryCache.deadline, inside],
        by simp [CacheEntry.isExpired]⟩
  have made : state.cache.set state.now key payload ttl =
      .ok (state.cache.put ⟨key, payload, deadline⟩) := by
    rw [MemoryCache.set, dated]
    rfl
  refine ⟨{ state with cache := state.cache.put ⟨key, payload, deadline⟩ }, ?_, rfl, rfl, ?_, ?_⟩
  · simp [backend, Task.outcome, ExceptT.run, ExceptT.mk, made]
  · exact live?_eq_some.mpr ⟨_, MemoryCache.entry?_put_self state.cache _ room, fresh, rfl⟩
  · intro other found different shown
    obtain ⟨entry, present, unexpired, same⟩ := live?_eq_some.mp shown
    exact live?_eq_some.mpr ⟨entry, MemoryCache.entry?_of_put different present, unexpired, same⟩

end TimedCache

end Gazette
