import Mathlib.Data.List.Dedup
import Mathlib.Data.List.Perm.Subperm
import Gazette.Proofs.Cache.Calls
import Gazette.Proofs.Cache.Remembers

/-!
# The cache in memory as a bounded map

A cache in memory is told by the calls that it has answered.  What it gives back under a key is the
last write there, as long as that write lasts; and it does give it back unless the room was too
small for the other keys that have been used since.  The entries stand in the order of their last
use, so the keys before an entry are keys that have been used since its own.
-/

set_option autoImplicit false

namespace Gazette

/-- The time to live that a call asks for. -/
def CacheCall.ttl? : CacheCall → Option Duration
  | set _ _ ttl => ttl
  | get _ | contains _ | delete _ => none

/-- A call that a cache has answered: when it came, and the reply. -/
structure CacheEvent where
  now : Nat
  call : CacheCall
  reply : Except DeadlineOverflow (Except CacheError CacheAnswer)

namespace CacheEvent

/-- The key that a call has used: a write uses its key, and so does a read that finds a payload. -/
def used? (event : CacheEvent) : Option String :=
  match event.call, event.reply with
  | .set key _ _, _ => some key
  | .get key, .ok (.ok (.payload (some _))) => some key
  | _, _ => none

/-- Whether the clock can show the deadline of a call, if it has one. -/
def InTime (event : CacheEvent) : Prop :=
  ∀ time ∈ event.call.ttl?, event.now + time < MemoryCache.clockEnd

instance : DecidablePred InTime :=
  fun event => inferInstanceAs (Decidable (∀ time ∈ event.call.ttl?, event.now + time < _))

end CacheEvent

/-- A write as it was made. -/
structure CacheWrite where
  time : Nat
  value : Payload
  ttl : Option Duration
  deriving DecidableEq

namespace CacheWrite

/-- Whether a write still lasts: without a time to live it always does. -/
def Lasts (write : CacheWrite) (now : Nat) : Prop :=
  ∀ ttl, write.ttl = some ttl → now ≤ write.time + ttl

/-- The entry that a write leaves under a key. -/
def entry (write : CacheWrite) (key : String) : CacheEntry :=
  { key, value := write.value, deadline := write.ttl.map fun ttl => write.time + ttl }

/-- An entry has expired when its write no longer lasts. -/
theorem isExpired_entry {write : CacheWrite} {key : String} {now : Nat} :
    (write.entry key).isExpired now = false ↔ write.Lasts now := by
  rcases lived : write.ttl with _ | ttl
  · simp [entry, CacheEntry.isExpired, Lasts, lived]
  · simp [entry, CacheEntry.isExpired, Lasts, lived]

/-- A write that lasts has lasted ever since. -/
theorem Lasts.earlier {write : CacheWrite} {now later : Nat} (lasts : write.Lasts later)
    (order : now ≤ later) : write.Lasts now :=
  fun ttl lived => Nat.le_trans order (lasts ttl lived)

end CacheWrite

/-- The write that stands under a key after some calls, the latest call first: the latest write
there, if no delete has followed it. -/
def lastWrite? (key : String) : List CacheEvent → Option CacheWrite
  | [] => none
  | event :: past =>
    match event.call with
    | .set other value ttl =>
      if other = key then some { time := event.now, value, ttl } else lastWrite? key past
    | .delete other => if other = key then none else lastWrite? key past
    | .get _ | .contains _ => lastWrite? key past

/-- The keys that have been used since a key was last used, the latest first. -/
def usedSince (key : String) (past : List CacheEvent) : List String :=
  (past.filterMap CacheEvent.used?).takeWhile fun other => other ≠ key

/-- A cache in memory with the calls that it has answered, the latest first. -/
structure CacheHistory where
  state : TimedCache
  past : List CacheEvent := []

namespace CacheHistory

/-- The history after some time and one more call. -/
def serve (history : CacheHistory) (call : Duration × CacheCall) : CacheHistory :=
  let state := history.state.elapse call.1
  let ran := (call.2.perform TimedCache.backend).outcome state
  { state := ran.2, past := { now := state.now, call := call.2, reply := ran.1 } :: history.past }

/-- The history of a new cache that has answered some calls, each of them some time after the
last. -/
def ofCalls (size : Nat) (calls : List (Duration × CacheCall)) : CacheHistory :=
  calls.foldl serve { state := { cache := .ofSize size } }

end CacheHistory

section Uses

variable {event : CacheEvent} {past : List CacheEvent} {key other : String}

/-- A call that uses no key leaves the keys in use as they were. -/
theorem usedSince_unused (unused : event.used? = none) :
    usedSince key (event :: past) = usedSince key past := by
  rw [usedSince, List.filterMap_cons_none unused, usedSince]

/-- A call that uses another key. -/
theorem usedSince_ne (used : event.used? = some other) (different : other ≠ key) :
    usedSince key (event :: past) = other :: usedSince key past := by
  rw [usedSince, List.filterMap_cons_some used, List.takeWhile_cons_of_pos (by simpa using different),
    usedSince]

end Uses

namespace MemoryCache

variable {cache : MemoryCache} {key : String} {entry other : CacheEntry}

/-- Under the key of an entry there is an entry. -/
theorem entry?_of_mem (inside : entry ∈ cache.entries) :
    ∃ found, cache.entry? entry.key = some found := by
  rw [← Option.isSome_iff_exists, entry?, List.find?_isSome]
  exact ⟨entry, inside, by simp⟩

/-- Erasing a key loses the entries under it and no others. -/
theorem mem_erase :
    other ∈ (cache.erase key).entries ↔ other ∈ cache.entries ∧ other.key ≠ key := by
  simp [erase]

/-- Asking for an entry answers as a read does.  It leaves the cache as it was when the entry is
there, and as the read does when it is not. -/
theorem contains_eq_get (cache : MemoryCache) (now : Nat) (key : String) :
    (cache.contains now key).1 = (cache.get now key).1.isSome ∧
      ((cache.contains now key).1 = true → (cache.contains now key).2 = cache) ∧
      ((cache.get now key).1 = none → (cache.contains now key).2 = (cache.get now key).2) := by
  unfold contains get
  cases cache.entry? key with
  | none => exact ⟨rfl, nofun, fun _ => rfl⟩
  | some entry =>
    cases expired : entry.isExpired now with
    | true => simp [expired]
    | false => simp [expired]

end MemoryCache

/-- Among more keys there are no fewer different ones. -/
theorem length_dedup_le {few many : List String} (inside : few ⊆ many) :
    few.dedup.length ≤ many.dedup.length :=
  ((List.nodup_dedup few).subperm fun _ there =>
    List.mem_dedup.mpr (inside (List.mem_dedup.mp there))).length_le

/-- A list of entries in which the keys before an entry have been used since its own.  An entry
stands within the first places unless as many keys have been used. -/
theorem mem_take_of_recent {entries : List CacheEntry} {entry : CacheEntry} {room : Nat}
    (since : String → List String) (distinct : (entries.map CacheEntry.key).Nodup)
    (recent : entries.Pairwise fun newer older => newer.key ∈ since older.key)
    (inside : entry ∈ entries) (few : (since entry.key).dedup.length < room) :
    entry ∈ entries.take room := by
  obtain ⟨newer, older, rfl⟩ := List.append_of_mem inside
  have newer_distinct : (newer.map CacheEntry.key).Nodup := by
    rw [List.map_append] at distinct
    exact distinct.of_append_left
  have newer_used : newer.map CacheEntry.key ⊆ (since entry.key).dedup := by
    intro key there
    obtain ⟨other, before, rfl⟩ := List.mem_map.mp there
    exact List.mem_dedup.mpr ((List.pairwise_append.mp recent).2.2 other before entry (by simp))
  have short : newer.length ≤ (since entry.key).dedup.length := by
    simpa using (newer_distinct.subperm newer_used).length_le
  rw [List.take_append, List.mem_append]
  refine .inr ?_
  obtain ⟨rest, same⟩ : ∃ rest, room - newer.length = rest + 1 :=
    ⟨room - newer.length - 1, by omega⟩
  rw [same, List.take_succ_cons]
  exact List.mem_cons_self

/-- What holds of a cache in memory with the calls that it has answered: there is room for the
entries and no key has two of them, every entry is the last write under its key, the keys before an
entry have been used since its own, and a lasting write is there unless too many keys have been
used since. -/
structure CacheHistory.Recent (history : CacheHistory) (room : Nat) : Prop where
  capacity : history.state.cache.capacity = room
  fits : history.state.cache.entries.length ≤ room
  distinct : (history.state.cache.entries.map CacheEntry.key).Nodup
  written : ∀ entry ∈ history.state.cache.entries, ∃ write,
    lastWrite? entry.key history.past = some write ∧ entry = write.entry entry.key
  ordered : history.state.cache.entries.Pairwise fun newer older =>
    newer.key ∈ usedSince older.key history.past
  present : ∀ key write, lastWrite? key history.past = some write →
    write.Lasts history.state.now → (usedSince key history.past).dedup.length < room →
    ∃ entry ∈ history.state.cache.entries, entry.key = key

namespace CacheHistory.Recent

variable {history : CacheHistory} {room : Nat} {key : String} {event : CacheEvent}
  {cache : MemoryCache}

/-- A new cache. -/
theorem start (size : Nat) : Recent { state := { cache := .ofSize size } } (max size 1) where
  capacity := rfl
  fits := Nat.zero_le _
  distinct := List.nodup_nil
  written := nofun
  ordered := List.Pairwise.nil
  present := nofun

/-- Some time passes. -/
theorem elapse (recent : history.Recent room) (time : Duration) :
    Recent { history with state := history.state.elapse time } room where
  capacity := recent.capacity
  fits := recent.fits
  distinct := recent.distinct
  written := recent.written
  ordered := recent.ordered
  present key write last lasts :=
    recent.present key write last (lasts.earlier (Nat.le_add_right _ _))

/-- The entry under a key is the last write there. -/
theorem lastWrite?_of_entry? (recent : history.Recent room) {entry : CacheEntry}
    (found : history.state.cache.entry? key = some entry) :
    ∃ write, lastWrite? key history.past = some write ∧ entry = write.entry key := by
  have own := MemoryCache.key_of_entry? found
  subst own
  exact recent.written entry (MemoryCache.mem_of_entry? found)

/-- A call that uses no key and writes nothing, after which the cache is the same. -/
theorem idle (recent : history.Recent room) (unused : event.used? = none)
    (unwritten : ∀ key, lastWrite? key (event :: history.past) = lastWrite? key history.past) :
    Recent { history with past := event :: history.past } room where
  capacity := recent.capacity
  fits := recent.fits
  distinct := recent.distinct
  written := by
    simpa only [unwritten] using recent.written
  ordered := by
    simpa only [usedSince_unused unused] using recent.ordered
  present := by
    simpa only [unwritten, usedSince_unused unused] using recent.present

/-- A call that uses no key and erases one under which no write lasts. -/
theorem erased (recent : history.Recent room) (unused : event.used? = none)
    (others : ∀ other, other ≠ key →
      lastWrite? other (event :: history.past) = lastWrite? other history.past)
    (gone : ∀ write, lastWrite? key (event :: history.past) = some write →
      ¬ write.Lasts history.state.now) :
    Recent { state := { history.state with cache := history.state.cache.erase key },
             past := event :: history.past } room where
  capacity := recent.capacity
  fits := Nat.le_trans (List.length_filter_le _ _) recent.fits
  distinct := recent.distinct.sublist (List.filter_sublist.map _)
  written := by
    intro entry inside
    obtain ⟨before, different⟩ := MemoryCache.mem_erase.mp inside
    rw [others _ different]
    exact recent.written entry before
  ordered := by
    simp only [usedSince_unused unused]
    exact recent.ordered.sublist List.filter_sublist
  present := by
    intro other write last lasts few
    rw [usedSince_unused unused] at few
    have different : other ≠ key := by
      rintro rfl
      exact gone write last lasts
    rw [others _ different] at last
    obtain ⟨entry, inside, rfl⟩ := recent.present other write last lasts few
    exact ⟨entry, MemoryCache.mem_erase.mpr ⟨inside, different⟩, rfl⟩

/-- A call that uses a key and puts the last write there into the first place. -/
theorem put (recent : history.Recent room) (write : CacheWrite)
    (used : event.used? = some key)
    (last : lastWrite? key (event :: history.past) = some write)
    (others : ∀ other, other ≠ key →
      lastWrite? other (event :: history.past) = lastWrite? other history.past) :
    Recent { state := { history.state with cache := history.state.cache.put (write.entry key) },
             past := event :: history.past } room := by
  set entries := write.entry key :: (history.state.cache.erase key).entries with entries_eq
  have made : (history.state.cache.put (write.entry key)).entries = entries.take room := by
    rw [← recent.capacity]
    rfl
  have old : ∀ entry ∈ (history.state.cache.erase key).entries,
      entry ∈ history.state.cache.entries ∧ entry.key ≠ key :=
    fun entry inside => MemoryCache.mem_erase.mp inside
  have distinct : (entries.map CacheEntry.key).Nodup := by
    refine List.nodup_cons.mpr ⟨?_, recent.distinct.sublist (List.filter_sublist.map _)⟩
    intro inside
    obtain ⟨entry, there, same⟩ := List.mem_map.mp inside
    exact (old entry there).2 same
  have ordered : entries.Pairwise fun newer older =>
      newer.key ∈ usedSince older.key (event :: history.past) := by
    refine List.pairwise_cons.mpr ⟨?_, ?_⟩
    · intro older inside
      rw [usedSince_ne used (old older inside).2.symm]
      exact List.mem_cons_self
    · refine (recent.ordered.sublist List.filter_sublist).imp_of_mem ?_
      intro newer older _ inside since
      rw [usedSince_ne used (old older inside).2.symm]
      exact List.mem_cons_of_mem _ since
  exact {
    capacity := recent.capacity
    fits := by
      rw [made]
      exact List.length_take_le _ _
    distinct := by
      rw [made]
      exact distinct.sublist ((List.take_sublist _ _).map _)
    written := by
      rw [made]
      intro entry inside
      rcases List.mem_cons.mp (List.mem_of_mem_take inside) with rfl | before
      · exact ⟨write, last, rfl⟩
      · rw [others _ (old entry before).2]
        exact recent.written entry (old entry before).1
    ordered := by
      rw [made]
      exact ordered.sublist (List.take_sublist _ _)
    present := by
      rw [made]
      intro other found standing lasts few
      suffices there : ∃ entry ∈ entries, entry.key = other by
        obtain ⟨entry, inside, rfl⟩ := there
        exact ⟨entry, mem_take_of_recent (usedSince · (event :: history.past)) distinct ordered
          inside few, rfl⟩
      by_cases same : other = key
      · exact ⟨write.entry key, List.mem_cons_self, same.symm⟩
      · rw [others _ same] at standing
        rw [usedSince_ne used (Ne.symm same)] at few
        have fewer : (usedSince other history.past).dedup.length < room :=
          Nat.lt_of_le_of_lt (length_dedup_le (List.subset_cons_self _ _)) few
        obtain ⟨entry, inside, rfl⟩ := recent.present other found standing lasts fewer
        exact ⟨entry, List.mem_cons_of_mem _ (MemoryCache.mem_erase.mpr ⟨inside, same⟩), rfl⟩ }

/-- What a read finds is the last write under its key, and it lasts. -/
theorem of_get (recent : history.Recent room) {value : Payload}
    (found : (history.state.cache.get history.state.now key).1 = some value) :
    ∃ write, lastWrite? key history.past = some write ∧ write.value = value ∧
      write.Lasts history.state.now ∧
      (history.state.cache.get history.state.now key).2 =
        history.state.cache.put (write.entry key) := by
  unfold MemoryCache.get at found ⊢
  cases here : history.state.cache.entry? key with
  | none =>
    rw [here] at found
    cases found
  | some entry =>
    obtain ⟨write, last, rfl⟩ := recent.lastWrite?_of_entry? here
    rw [here] at found
    dsimp only at found ⊢
    split at found
    · cases found
    · rename_i fresh
      cases found
      exact ⟨write, last, rfl, CacheWrite.isExpired_entry.mp (by simpa using fresh),
        by simp [fresh]⟩

/-- A read that finds nothing leaves the cache as it was, or erases a write that no longer lasts. -/
theorem of_get_none (recent : history.Recent room)
    (found : (history.state.cache.get history.state.now key).1 = none) :
    (history.state.cache.get history.state.now key).2 = history.state.cache ∨
      (history.state.cache.get history.state.now key).2 = history.state.cache.erase key ∧
        ∀ write, lastWrite? key history.past = some write → ¬ write.Lasts history.state.now := by
  unfold MemoryCache.get at found ⊢
  cases here : history.state.cache.entry? key with
  | none => exact .inl rfl
  | some entry =>
    obtain ⟨write, last, rfl⟩ := recent.lastWrite?_of_entry? here
    rw [here] at found
    dsimp only at found ⊢
    split at found
    · rename_i expired
      refine .inr ⟨by simp [expired], ?_⟩
      rw [last]
      rintro _ ⟨⟩ lasts
      rw [CacheWrite.isExpired_entry.mpr lasts] at expired
      cases expired
    · cases found

/-- A lasting write is found unless too many keys have been used since. -/
theorem get_of_lasts (recent : history.Recent room) {write : CacheWrite}
    (last : lastWrite? key history.past = some write) (lasts : write.Lasts history.state.now)
    (few : (usedSince key history.past).dedup.length < room) :
    (history.state.cache.get history.state.now key).1 = some write.value := by
  obtain ⟨entry, inside, rfl⟩ := recent.present key write last lasts few
  obtain ⟨found, here⟩ := MemoryCache.entry?_of_mem inside
  obtain ⟨same, standing, rfl⟩ := recent.lastWrite?_of_entry? here
  rw [last] at standing
  cases standing
  have fresh : (write.entry entry.key).isExpired history.state.now = false :=
    CacheWrite.isExpired_entry.mpr lasts
  simp only [MemoryCache.get, here, fresh, Bool.false_eq_true, if_false]
  rfl

/-- One more call at the same moment. -/
theorem answer (recent : history.Recent room) (call : CacheCall)
    (fits : ∀ time ∈ call.ttl?, history.state.now + time < MemoryCache.clockEnd) :
    ∃ answer after, (call.perform TimedCache.backend).outcome history.state =
        (.ok (.ok answer), after) ∧
      Recent { state := after,
               past := ⟨history.state.now, call, .ok (.ok answer)⟩ :: history.past } room := by
  cases call with
  | set key value ttl =>
    obtain ⟨deadline, dated, same⟩ : ∃ deadline,
        MemoryCache.deadline history.state.now ttl = .ok deadline ∧
          deadline = ttl.map fun time => history.state.now + time := by
      cases ttl with
      | none => exact ⟨none, rfl, rfl⟩
      | some time => exact ⟨_, if_pos (fits time rfl), rfl⟩
    refine ⟨_, _, TimedCache.outcome_set_call dated, ?_⟩
    rw [same]
    exact recent.put ⟨history.state.now, value, ttl⟩ rfl (by simp [lastWrite?])
      fun other different => by simp [lastWrite?, Ne.symm different]
  | get key =>
    refine ⟨_, _, TimedCache.outcome_get_call, ?_⟩
    cases found : (history.state.cache.get history.state.now key).1 with
    | some value =>
      obtain ⟨write, last, -, -, same⟩ := recent.of_get found
      rw [same]
      exact recent.put write rfl last fun _ _ => rfl
    | none =>
      rcases recent.of_get_none found with same | ⟨same, gone⟩
      · rw [same]
        exact recent.idle rfl fun _ => rfl
      · rw [same]
        exact recent.erased rfl (fun _ _ => rfl) gone
  | contains key =>
    refine ⟨_, _, TimedCache.outcome_contains_call, ?_⟩
    obtain ⟨same_answer, there, missing⟩ :=
      MemoryCache.contains_eq_get history.state.cache history.state.now key
    cases found : (history.state.cache.get history.state.now key).1 with
    | some value =>
      rw [there (by simp [same_answer, found])]
      exact recent.idle rfl fun _ => rfl
    | none =>
      rw [missing found]
      rcases recent.of_get_none found with same | ⟨same, gone⟩
      · rw [same]
        exact recent.idle rfl fun _ => rfl
      · rw [same]
        exact recent.erased rfl (fun _ _ => rfl) gone
  | delete key =>
    refine ⟨_, _, TimedCache.outcome_delete_call, ?_⟩
    exact recent.erased rfl (fun other different => by simp [lastWrite?, Ne.symm different])
      (by simp [lastWrite?])

end CacheHistory.Recent

namespace CacheHistory

variable {history : CacheHistory} {room : Nat}

/-- A call that comes after some time is answered, and the history goes on as it should. -/
theorem Recent.serve (recent : history.Recent room) (call : Duration × CacheCall)
    (fits : ∀ event ∈ (history.serve call).past, event.InTime) :
    (history.serve call).Recent room ∧ ∃ answer,
      ((call.2.perform TimedCache.backend).outcome (history.state.elapse call.1)).1 =
        .ok (.ok answer) := by
  obtain ⟨answer, after, ran, next⟩ := (recent.elapse call.1).answer call.2
    (fits _ List.mem_cons_self)
  refine ⟨?_, answer, by rw [ran]⟩
  unfold CacheHistory.serve
  dsimp only
  rw [ran]
  exact next

/-- The calls that have been answered stay as they are. -/
theorem past_subset_foldl (calls : List (Duration × CacheCall)) :
    history.past ⊆ (calls.foldl CacheHistory.serve history).past := by
  induction calls generalizing history with
  | nil => exact List.Subset.refl _
  | cons call calls induction_hypothesis =>
    have answered : history.past ⊆ (history.serve call).past := List.subset_cons_self _ _
    exact List.Subset.trans answered induction_hypothesis

/-- Some calls, one after the other. -/
theorem Recent.foldl (recent : history.Recent room) (calls : List (Duration × CacheCall))
    (answered : ∀ event ∈ history.past, ∃ answer, event.reply = .ok (.ok answer))
    (fits : ∀ event ∈ (calls.foldl CacheHistory.serve history).past, event.InTime) :
    (calls.foldl CacheHistory.serve history).Recent room ∧
      ∀ event ∈ (calls.foldl CacheHistory.serve history).past,
        ∃ answer, event.reply = .ok (.ok answer) := by
  induction calls generalizing history with
  | nil => exact ⟨recent, answered⟩
  | cons call calls induction_hypothesis =>
    obtain ⟨next, answer, replied⟩ :=
      recent.serve call fun event there => fits event (past_subset_foldl calls there)
    refine induction_hypothesis next ?_ fits
    intro event there
    rcases List.mem_cons.mp there with rfl | before
    · exact ⟨answer, replied⟩
    · exact answered event before

end CacheHistory

/-- A cache in memory is a bounded map that forgets what has not been used for the longest time.
Every call is answered, there are never more entries than there is room for, and no two of them
under one key.  At any later moment a read finds a payload only if the last write under its key
wrote it, no delete has followed, and the write still lasts; and it finds it if, beyond that, fewer
different keys than there is room for have been used since the key was last used.  Asking whether
there is an entry answers as a read does, and changes nothing when there is one. -/
theorem TimedCache.answers_last_writes (size : Nat) (calls : List (Duration × CacheCall))
    (fits : ∀ event ∈ (CacheHistory.ofCalls size calls).past, event.InTime) :
    let history := CacheHistory.ofCalls size calls
    (∀ event ∈ history.past, ∃ answer, event.reply = .ok (.ok answer)) ∧
      history.state.cache.entries.length ≤ max 1 size ∧
      (history.state.cache.entries.map CacheEntry.key).Nodup ∧
      ∀ (time : Duration) (key : String),
        let state := history.state.elapse time
        ∃ found read there asked,
          (backend.get key).outcome state = (.ok (.ok found), read) ∧
          (backend.contains key).outcome state = (.ok (.ok there), asked) ∧
          (∀ value, found = some value → ∃ write, lastWrite? key history.past = some write ∧
            write.value = value ∧ write.Lasts state.now) ∧
          (∀ write, lastWrite? key history.past = some write → write.Lasts state.now →
            (usedSince key history.past).dedup.length < max 1 size → found = some write.value) ∧
          (there = true ↔ found.isSome) ∧ (there = true → asked = state) := by
  obtain ⟨recent, answered⟩ := (CacheHistory.Recent.start size).foldl calls nofun fits
  rw [Nat.max_comm] at recent
  refine ⟨answered, recent.fits, recent.distinct, ?_⟩
  intro time key
  have later := recent.elapse time
  obtain ⟨same, unchanged, -⟩ := MemoryCache.contains_eq_get
    (CacheHistory.ofCalls size calls).state.cache
    ((CacheHistory.ofCalls size calls).state.elapse time).now key
  refine ⟨_, _, _, _, rfl, rfl, ?_, ?_, ?_, ?_⟩
  · intro value found
    obtain ⟨write, last, wrote, lasts, -⟩ := later.of_get found
    exact ⟨write, last, wrote, lasts⟩
  · intro write last lasts few
    exact later.get_of_lasts last lasts few
  · exact Bool.eq_iff_iff.mp same
  · intro there
    exact congrArg (TimedCache.mk · _) (unchanged there)

namespace Sample

/-- Two writes, a read of the first, and a write for which the second has to go. -/
def evicting : List (Duration × CacheCall) :=
  [(0, .set "a" [1] none), (1, .set "b" [2] (some 60)), (1, .get "a"), (1, .set "c" [3] none)]

end Sample

/-- The key that has been read since the others were written is still there, and the one that was
used before it is not. -/
theorem TimedCache.answers_last_writes_evicting :
    (∀ event ∈ (CacheHistory.ofCalls 2 Sample.evicting).past, event.InTime) ∧
      (∃ read, (backend.get "a").outcome (CacheHistory.ofCalls 2 Sample.evicting).state =
        (.ok (.ok (some [1])), read)) ∧
      (CacheHistory.ofCalls 2 Sample.evicting).state.live? "b" = none := by
  have fits : ∀ event ∈ (CacheHistory.ofCalls 2 Sample.evicting).past, event.InTime := by
    decide +kernel
  refine ⟨fits, ?_, by decide +kernel⟩
  obtain ⟨found, read, there, asked, got, -, -, back, -, -⟩ :=
    (answers_last_writes 2 Sample.evicting fits).2.2.2 0 "a"
  have last : lastWrite? "a" (CacheHistory.ofCalls 2 Sample.evicting).past =
      some { time := 0, value := [1], ttl := none } := by
    decide +kernel
  have present := back _ last nofun (by decide +kernel)
  rw [present] at got
  exact ⟨read, got⟩

end Gazette
