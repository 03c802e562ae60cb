import Mathlib.Data.List.Basic
import Gazette.Proofs.Cache.Live

/-!
# Backends that remember

A backend that remembers may lose what has been written, and may take its time, but it never makes
a payload up: what it gives back under a key has once been written there.  The cache in memory is
such a backend, whatever its room and whatever the clock shows.
-/

set_option autoImplicit false

namespace Gazette

variable {β : Type}

/-- Whether a backend gives back only what has been written: what it gives is `shown`, and only what
is written comes to be shown. -/
structure Remembers (backend : Backend β) (shown : β → String → Payload → Prop) : Prop where
  get {cache : β} {key : String} {payload : Payload} :
    ((backend.get key).outcome cache).1 = .ok (.ok (some payload)) → shown cache key payload
  after_get {cache : β} {key other : String} {found : Payload} :
    shown ((backend.get key).outcome cache).2 other found → shown cache other found
  after_set {cache : β} {key other : String} {payload found : Payload} {ttl : Option Duration} :
    shown ((backend.set key payload ttl).outcome cache).2 other found →
      other = key ∧ found = payload ∨ shown cache other found
  after_contains {cache : β} {key other : String} {found : Payload} :
    shown ((backend.contains key).outcome cache).2 other found → shown cache other found
  after_delete {cache : β} {key other : String} {found : Payload} :
    shown ((backend.delete key).outcome cache).2 other found → shown cache other found

namespace MemoryCache

variable {cache : MemoryCache} {now : Nat} {key : String} {entry other : CacheEntry}

/-- The entry that is found under a key is one of the entries. -/
theorem mem_of_entry? (found : cache.entry? key = some entry) : entry ∈ cache.entries :=
  List.mem_of_find?_eq_some found

/-- Erasing a key leaves some of the entries. -/
theorem mem_of_mem_erase (there : other ∈ (cache.erase key).entries) : other ∈ cache.entries :=
  (List.mem_filter.mp there).1

/-- Putting an entry leaves this entry and some of the others. -/
theorem mem_of_mem_put (there : other ∈ (cache.put entry).entries) :
    other = entry ∨ other ∈ cache.entries := by
  rcases List.mem_cons.mp (List.mem_of_mem_take there) with new | old
  · exact .inl new
  · exact .inr (mem_of_mem_erase old)

/-- A read gives the payload of an entry and leaves some of the entries. -/
theorem mem_of_get :
    (∀ payload, (cache.get now key).1 = some payload →
        ∃ entry ∈ cache.entries, entry.key = key ∧ entry.value = payload) ∧
      ∀ other ∈ (cache.get now key).2.entries, other ∈ cache.entries := by
  unfold MemoryCache.get
  cases present : cache.entry? key with
  | none => exact ⟨nofun, fun _ there => there⟩
  | some entry =>
    have inside := mem_of_entry? present
    dsimp only
    split
    · exact ⟨nofun, fun _ there => mem_of_mem_erase there⟩
    · constructor
      · rintro payload ⟨⟩
        exact ⟨entry, inside, key_of_entry? present, rfl⟩
      · intro other there
        rcases mem_of_mem_put there with rfl | old
        · exact inside
        · exact old

/-- Asking whether there is an entry leaves some of the entries. -/
theorem mem_of_mem_contains (there : other ∈ (cache.contains now key).2.entries) :
    other ∈ cache.entries := by
  unfold MemoryCache.contains at there
  split at there
  · exact there
  · split at there
    · exact mem_of_mem_erase there
    · exact there

/-- A write leaves the entry that it has written and some of the others. -/
theorem mem_of_mem_set {payload : Payload} {ttl : Option Duration} {after : MemoryCache}
    (wrote : cache.set now key payload ttl = .ok after) (there : other ∈ after.entries) :
    other.key = key ∧ other.value = payload ∨ other ∈ cache.entries := by
  unfold MemoryCache.set at wrote
  cases dated : MemoryCache.deadline now ttl with
  | error overflow =>
    rw [dated] at wrote
    cases wrote
  | ok deadline =>
    rw [dated] at wrote
    cases wrote
    rcases mem_of_mem_put there with rfl | old
    · exact .inl ⟨rfl, rfl⟩
    · exact .inr old

end MemoryCache

namespace TimedCache

/-- Whether a cache in memory has an entry with a payload under a key, expired or not. -/
def Has (state : TimedCache) (key : String) (payload : Payload) : Prop :=
  ∃ entry ∈ state.cache.entries, entry.key = key ∧ entry.value = payload

/-- The cache in memory gives back only what has been written. -/
theorem remembers : Remembers backend Has where
  get {state key payload} := by
    intro answered
    have opened : ((backend.get key).outcome state).1 =
        .ok (.ok (state.cache.get state.now key).1) := rfl
    rw [opened, Except.ok.injEq, Except.ok.injEq] at answered
    exact MemoryCache.mem_of_get.1 payload answered
  after_get := by
    rintro state key other found ⟨entry, there, same⟩
    exact ⟨entry, MemoryCache.mem_of_get.2 entry there, same⟩
  after_set {state key other payload found ttl} := by
    rintro ⟨entry, there, same_key, same_payload⟩
    cases wrote : state.cache.set state.now key payload ttl with
    | error overflow =>
      have kept : ((backend.set key payload ttl).outcome state).2 = state := by
        simp [backend, Task.outcome, ExceptT.run, ExceptT.mk, wrote]
      rw [kept] at there
      exact .inr ⟨entry, there, same_key, same_payload⟩
    | ok after =>
      have set : ((backend.set key payload ttl).outcome state).2 =
          { state with cache := after } := by
        simp [backend, Task.outcome, ExceptT.run, ExceptT.mk, wrote]
      rw [set] at there
      rcases MemoryCache.mem_of_mem_set wrote there with ⟨key_new, payload_new⟩ | old
      · exact .inl ⟨same_key.symm.trans key_new, same_payload.symm.trans payload_new⟩
      · exact .inr ⟨entry, old, same_key, same_payload⟩
  after_contains := by
    rintro state key other found ⟨entry, there, same⟩
    exact ⟨entry, MemoryCache.mem_of_mem_contains there, same⟩
  after_delete := by
    rintro state key other found ⟨entry, there, same⟩
    exact ⟨entry, MemoryCache.mem_of_mem_erase there, same⟩

end TimedCache

end Gazette
