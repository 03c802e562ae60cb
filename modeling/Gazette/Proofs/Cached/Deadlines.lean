import Mathlib.Data.List.Basic
import Gazette.Proofs.Cache.Remembers
import Gazette.Proofs.Cached.Faults

/-!
# Deadlines in a cache in memory

Whatever a store does about its cache in memory, an entry keeps the deadline that it was written
with, and a new entry gets one that lies the time to live ahead.  Reads do not extend a deadline, and
they do not show an entry whose deadline has passed.
-/

set_option autoImplicit false

namespace Gazette

variable {σ β α : Type}

/-- A read shows an entry whose deadline has not passed. -/
theorem MemoryCache.unexpired_of_get {cache : MemoryCache} {now : Nat} {key : String}
    {payload : Payload} (shown : (cache.get now key).1 = some payload) :
    ∃ entry ∈ cache.entries, entry.key = key ∧ entry.value = payload ∧
      entry.isExpired now = false := by
  unfold MemoryCache.get at shown
  cases present : cache.entry? key with
  | none =>
    rw [present] at shown
    cases shown
  | some entry =>
    rw [present] at shown
    dsimp only at shown
    split at shown
    · cases shown
    · rename_i unexpired
      cases shown
      exact ⟨entry, mem_of_entry? present, key_of_entry? present, rfl, by simpa using unexpired⟩

namespace TimedCache

variable {ttl : Option Duration} {written : String → Payload → Prop}
  {before between after : TimedCache}

/-- A later state of a cache at the same moment.  Its entries are old ones, or have been written at
this moment to live for a time. -/
structure Dates (ttl : Option Duration) (written : String → Payload → Prop)
    (before after : TimedCache) : Prop where
  now : after.now = before.now
  entries : ∀ entry ∈ after.cache.entries, entry ∈ before.cache.entries ∨
    written entry.key entry.value ∧ entry.deadline = ttl.map fun time => before.now + time

namespace Dates

/-- A cache that nothing has happened to has no new deadlines. -/
theorem refl (cache : TimedCache) : Dates ttl written cache cache :=
  ⟨rfl, fun _ there => .inl there⟩

/-- What two changes after each other date, each of them dates. -/
theorem trans (first : Dates ttl written before between) (second : Dates ttl written between after) :
    Dates ttl written before after := by
  refine ⟨second.now.trans first.now, ?_⟩
  intro entry there
  rcases second.entries entry there with old | ⟨new, dated⟩
  · exact first.entries entry old
  · exact .inr ⟨new, by rw [dated, first.now]⟩

end Dates

/-- The deadline of an entry that is written when the clock can show it. -/
theorem deadline_of_fits {now : Nat} (fits : fitsClock now ttl) :
    MemoryCache.deadline now ttl = .ok (ttl.map fun time => now + time) := by
  cases ttl with
  | none => rfl
  | some time => exact if_pos (fits time rfl)

/-- The cache in memory answers every call of a store, as long as the clock can show the deadlines
of the entries that it is told to write. -/
theorem responds (store : CacheStore TimedCache) (memory : store.backend = backend) :
    store.Responds fun cache => fitsClock cache.now store.entryTtl := by
  intro cache call fits makes
  unfold CacheCall.leave
  rw [memory]
  cases call with
  | get key => exact ⟨_, congrArg Prod.fst outcome_get_call, fits⟩
  | contains key => exact ⟨_, congrArg Prod.fst outcome_contains_call, fits⟩
  | delete key => exact ⟨_, congrArg Prod.fst outcome_delete_call, fits⟩
  | set key payload time =>
    obtain ⟨rfl, -⟩ := makes
    rw [outcome_set_call (deadline_of_fits fits)]
    exact ⟨_, rfl, fits⟩

variable {store : CacheStore TimedCache}

/-- A call of a store leaves old entries, and perhaps one that it has written. -/
theorem dates_leave (memory : store.backend = backend) {call : CacheCall}
    (makes : store.Makes written call) (fits : fitsClock before.now store.entryTtl) :
    Dates store.entryTtl written before (call.leave store.backend before) := by
  unfold CacheCall.leave
  rw [memory]
  cases call with
  | get key => exact ⟨rfl, fun entry there => .inl (MemoryCache.mem_of_get.2 entry there)⟩
  | contains key => exact ⟨rfl, fun entry there => .inl (MemoryCache.mem_of_mem_contains there)⟩
  | delete key => exact ⟨rfl, fun entry there => .inl (MemoryCache.mem_of_mem_erase there)⟩
  | set key payload time =>
    obtain ⟨rfl, allowed⟩ := makes
    rw [outcome_set_call (deadline_of_fits fits)]
    refine ⟨rfl, ?_⟩
    intro entry there
    rcases MemoryCache.mem_of_mem_put there with rfl | old
    · exact .inr ⟨allowed, rfl⟩
    · exact .inl old

/-- What a store does about its cache leaves old entries, and some that it has written. -/
theorem dates_served (memory : store.backend = backend) (served : store.Served written before after)
    (fits : fitsClock before.now store.entryTtl) : Dates store.entryTtl written before after := by
  obtain ⟨calls, made, rfl⟩ := served
  induction calls generalizing before with
  | nil => exact .refl before
  | cons call calls ih =>
    have first := dates_leave memory (made call List.mem_cons_self) fits
    refine first.trans (ih ?_ fun other there => made other (List.mem_cons_of_mem _ there))
    rw [first.now]
    exact fits

end TimedCache

namespace CacheStore

variable {store : CacheStore β} {codec : Codec α} {full : String} {read : Answers σ α}
  {before after : Layered σ β} {fetched : Except StorageError (Fetched α)}

/-- A read leaves what its call leaves. -/
theorem served_get {written : String → Payload → Prop} {cache last : β}
    {answer : Except DeadlineOverflow (Except CacheError (Option Payload))}
    (got : (store.backend.get full).outcome cache = (answer, last)) :
    store.Served written cache last := by
  have left : last = (CacheCall.get full).leave store.backend cache := by
    rw [CacheCall.leave, CacheCall.outcome_perform_get, got]
  exact .single left trivial

/-- A write leaves what its call leaves. -/
theorem served_set {written : String → Payload → Prop} {payload : Payload} {cache last : β}
    {answer : Except DeadlineOverflow (Except CacheError Unit)}
    (wrote : (store.backend.set full payload store.entryTtl).outcome cache = (answer, last))
    (allowed : written full payload) : store.Served written cache last := by
  have left : last = (CacheCall.set full payload store.entryTtl).leave store.backend cache := by
    rw [CacheCall.leave, CacheCall.outcome_perform_set, wrote]
  exact .single left ⟨rfl, allowed⟩

/-- All that a fetch writes is what the source has been found to hold. -/
theorem Fetches.served (ended : store.Fetches codec full read before fetched after) :
    store.Served (fun key payload => ∃ value, key = full ∧ payload = codec.encode value ∧
      (read.run.outcome before.source).1 = .ok (.ok value)) before.cache after.cache := by
  cases ended with
  | found got decoded => exact served_get got
  | foundAgain got unreadable got_again decoded => exact (served_get got).trans (served_get got_again)
  | failed got unreadable got_again unreadable_again ran =>
    exact (served_get got).trans (served_get got_again)
  | @made _ _ _ _ _ value _ _ got unreadable got_again unreadable_again ran wrote =>
    refine ((served_get got).trans (served_get got_again)).trans (served_set wrote ?_)
    exact ⟨value, rfl, rfl, by rw [ran]⟩

/-- A fetch leaves the source as it is, or as a read leaves it. -/
theorem Fetches.source (ended : store.Fetches codec full read before fetched after) :
    after.source = before.source ∨ after.source = (read.run.outcome before.source).2 := by
  cases ended with
  | found got decoded => exact .inl rfl
  | foundAgain got unreadable got_again decoded => exact .inl rfl
  | failed got unreadable got_again unreadable_again ran => exact .inr (by rw [ran])
  | made got unreadable got_again unreadable_again ran wrote => exact .inr (by rw [ran])

/-- A fetch fails only as a read of the source fails. -/
theorem Fetches.failure {error : StorageError}
    (ended : store.Fetches codec full read before (.error error) after) :
    (read.run.outcome before.source).1 = .ok (.error error) := by
  cases ended with
  | failed got unreadable got_again unreadable_again ran => rw [ran]

end CacheStore

/-- A fetch from a cache in memory gives the value of an entry whose deadline has not passed, or what
a read of the source gives. -/
theorem CacheStore.Fetches.origin {store : CacheStore TimedCache}
    (memory : store.backend = TimedCache.backend) {codec : Codec α} {full : String}
    {read : Answers σ α} {before after : Layered σ TimedCache} {fetched : Fetched α}
    (ended : store.Fetches codec full read before (.ok fetched) after) :
    (∃ entry ∈ before.cache.cache.entries, entry.key = full ∧
        codec.decode entry.value = .ok fetched.value ∧
        entry.isExpired before.cache.now = false) ∨
      (read.run.outcome before.source).1 = .ok (.ok fetched.value) := by
  -- what a read has shown is an entry of the cache, and what it leaves are old entries
  have shown {cache last : TimedCache} {payload : Payload}
      (got : (store.backend.get full).outcome cache = (.ok (.ok (some payload)), last)) :
      ∃ entry ∈ cache.cache.entries, entry.key = full ∧ entry.value = payload ∧
        entry.isExpired cache.now = false := by
    rw [memory] at got
    have found : (cache.cache.get cache.now full).1 = some payload := by
      have answered := congrArg Prod.fst got
      exact Except.ok.inj (Except.ok.inj answered)
    exact MemoryCache.unexpired_of_get found
  cases ended with
  | found got decoded =>
    obtain ⟨entry, there, same_key, rfl, unexpired⟩ := shown got
    exact .inl ⟨entry, there, same_key, decoded, unexpired⟩
  | @foundAgain _ cache _ _ _ got unreadable got_again decoded =>
    obtain ⟨entry, there, same_key, rfl, unexpired⟩ := shown got_again
    rw [memory] at got
    have left : cache = { before.cache with
        cache := (before.cache.cache.get before.cache.now full).2 } :=
      (congrArg Prod.snd got).symm
    rw [left] at there unexpired
    exact .inl ⟨entry, MemoryCache.mem_of_get.2 entry there, same_key, decoded, unexpired⟩
  | made got unreadable got_again unreadable_again ran wrote => exact .inr (by rw [ran])

end Gazette
