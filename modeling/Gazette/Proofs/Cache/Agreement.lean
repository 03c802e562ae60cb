import Mathlib.Data.List.Induction
import Gazette.Proofs.Cache.Served

/-!
# Memory and server agree

A cache on a server that keeps a map answers one call after the other as a cache in memory with
enough room does.  The server may drop an entry from its deadline on, while the cache in memory
drops it when it is touched, and neither is seen by a look that does not come at the very deadline.
-/

set_option autoImplicit false

namespace Gazette

/-- A server with the reading of the clock and the calls that it has answered, the latest first. -/
structure RemoteHistory (ρ : Type) where
  state : ρ
  now : Nat := 0
  past : List CacheEvent := []

namespace RemoteHistory

variable {ρ : Type} (answer : Nat → List Payload → ρ → RemoteReply × ρ)

/-- The history after some time and one more call. -/
def serve (history : RemoteHistory ρ) (call : Duration × CacheCall) : RemoteHistory ρ :=
  let now := history.now + call.1
  let ran := (call.2.perform (RemoteServer.clocked answer now).backend).outcome history.state
  { state := ran.2, now, past := { now, call := call.2, reply := ran.1 } :: history.past }

/-- The history of a server that has answered some calls, each of them some time after the last. -/
def ofCalls (start : ρ) (calls : List (Duration × CacheCall)) : RemoteHistory ρ :=
  calls.foldl (serve answer) { state := start }

/-- A call that comes last is served on the run of the calls before it. -/
theorem ofCalls_append (start : ρ) (calls : List (Duration × CacheCall))
    (call : Duration × CacheCall) :
    ofCalls answer start (calls ++ [call]) = (ofCalls answer start calls).serve answer call := by
  rw [ofCalls, List.foldl_append]
  rfl

end RemoteHistory

/-- Whether no call has come at the very deadline of the write that it looks at. -/
def OffDeadlines : List CacheEvent → Prop
  | [] => True
  | event :: past =>
    (∀ key ∈ event.call.looked?, OffDeadline event.now key past) ∧ OffDeadlines past

instance (now : Nat) (key : String) (past : List CacheEvent) :
    Decidable (OffDeadline now key past) :=
  inferInstanceAs (Decidable (∀ write ∈ lastWrite? key past, ∀ ttl ∈ write.ttl, _))

instance decidableOffDeadlines : DecidablePred OffDeadlines
  | [] => .isTrue trivial
  | event :: past =>
    have := decidableOffDeadlines past
    inferInstanceAs (Decidable ((∀ key ∈ event.call.looked?, OffDeadline event.now key past) ∧ _))

/-- What holds of a server and a cache in memory that have answered the same calls at the same
moments: they have answered alike, and each of them has kept what the calls lead to. -/
structure RemoteHistory.Agrees {ρ : Type} (remote : RemoteHistory ρ)
    (kept : ρ → Payload → Option RemoteEntry) (memory : CacheHistory) (room : Nat) : Prop where
  now : remote.now = memory.state.now
  past : remote.past = memory.past
  answered : ∀ event ∈ memory.past, ∃ answer, event.reply = .ok (.ok answer)
  recent : memory.Recent room
  settled : Settles memory.state.now (told memory.past) (kept remote.state ∘ Utf8.bytes)

namespace RemoteHistory.Agrees

variable {ρ : Type} {answer : Nat → List Payload → ρ → RemoteReply × ρ}
  {kept : ρ → Payload → Option RemoteEntry} {remote : RemoteHistory ρ} {memory : CacheHistory}
  {room : Nat}

/-- An empty server and an empty memory agree before the first call. -/
theorem start {state : ρ} (empty : ∀ key, kept state (Utf8.bytes key) = none) (size : Nat) :
    Agrees { state } kept { state := { cache := .ofSize size } } (max size 1) where
  now := rfl
  past := rfl
  answered := nofun
  recent := .start size
  settled _ := .inl (empty _)

/-- One more call is answered alike and as expected. -/
theorem serve (agrees : remote.Agrees kept memory room) (serves : ServesMap answer kept)
    (call : Duration × CacheCall) (whole : call.2.Whole (memory.state.now + call.1))
    (off : ∀ key ∈ call.2.looked?, OffDeadline (memory.state.now + call.1) key memory.past)
    (few : ∀ key, (usedSince key memory.past).dedup.length < room) :
    (remote.serve answer call).Agrees kept (memory.serve call) room ∧
      (memory.serve call).past = ⟨memory.state.now + call.1, call.2,
        .ok (.ok (call.2.expected (memory.state.now + call.1) memory.past))⟩ :: memory.past := by
  have fits : ∀ time ∈ call.2.ttl?,
      memory.state.now + call.1 + time < MemoryCache.clockEnd := by
    intro time asked
    exact Nat.lt_trans (whole time asked).2.2 (by decide)
  obtain ⟨recent, memory_past⟩ := agrees.recent.serve_expected call fits few
  obtain ⟨left, ran, settled⟩ := serves.outcome
    (agrees.settled.later_le (Nat.le_add_right _ call.1)) call.2 whole off
  rw [← agrees.now] at ran
  refine ⟨⟨?_, ?_, ?_, recent, ?_⟩, memory_past⟩
  · rw [CacheHistory.now_serve, ← agrees.now]
    rfl
  · rw [memory_past, RemoteHistory.serve]
    dsimp only
    rw [ran, agrees.now, agrees.past]
  · rw [memory_past]
    exact List.forall_mem_cons.mpr ⟨⟨_, rfl⟩, agrees.answered⟩
  · rw [CacheHistory.now_serve, memory_past, RemoteHistory.serve]
    dsimp only
    rw [ran]
    exact settled _

/-- Some calls, one after the other. -/
theorem ofCalls (serves : ServesMap answer kept) {state : ρ}
    (empty : ∀ key, kept state (Utf8.bytes key) = none) (size : Nat)
    (calls : List (Duration × CacheCall))
    (whole : ∀ event ∈ (CacheHistory.ofCalls size calls).past, event.call.Whole event.now)
    (off : OffDeadlines (CacheHistory.ofCalls size calls).past)
    (few : (calls.map fun call => call.2.key).dedup.length < max size 1) :
    (RemoteHistory.ofCalls answer state calls).Agrees kept (CacheHistory.ofCalls size calls)
      (max size 1) := by
  -- a history grows with its last call, so the calls are taken from the back
  induction calls using List.reverseRecOn with
  | nil => exact start empty size
  | append_singleton calls call ih =>
    rw [CacheHistory.ofCalls_append] at whole off ⊢
    rw [RemoteHistory.ofCalls_append]
    have fewer : (calls.map fun call => call.2.key).dedup.length < max size 1 := by
      refine Nat.lt_of_le_of_lt (length_dedup_le ?_) few
      rw [List.map_append]
      exact List.subset_append_left _ _
    have agrees := ih (fun event there => whole event (List.mem_cons_of_mem _ there)) off.2 fewer
    refine (agrees.serve serves call (whole _ List.mem_cons_self) off.1 fun key => ?_).1
    exact Nat.lt_of_le_of_lt (CacheHistory.length_usedSince_le size calls key) fewer

/-- A write without a time to live is found at any later moment. -/
theorem read_endless (agrees : remote.Agrees kept memory room) (serves : ServesMap answer kept)
    (few : ∀ key, (usedSince key memory.past).dedup.length < room) {key : String}
    {write : CacheWrite} (last : lastWrite? key memory.past = some write)
    (endless : write.ttl = none) (time : Duration) :
    let read : CacheEvent :=
      ⟨memory.state.now + time, .get key, .ok (.ok (.payload (some write.value)))⟩
    (remote.serve answer (time, .get key)).past = read :: memory.past ∧
      (memory.serve (time, .get key)).past = read :: memory.past := by
  have lasts : write.Lasts (memory.state.now + time) := by
    intro ttl lived
    rw [endless] at lived
    cases lived
  have off : ∀ looked ∈ (CacheCall.get key).looked?,
      OffDeadline (memory.state.now + time) looked memory.past := by
    rintro _ ⟨⟩ found there ttl lived
    rw [last] at there
    cases there
    rw [endless] at lived
    cases lived
  obtain ⟨next, answered⟩ := agrees.serve serves (time, .get key) nofun off few
  have found : CacheCall.expected (memory.state.now + time) memory.past (.get key) =
      .payload (some write.value) := by
    rw [CacheCall.expected, standing?_eq_some.mpr ⟨last, lasts⟩, Option.map_some]
  rw [found] at answered
  exact ⟨next.past.trans answered, answered⟩

end RemoteHistory.Agrees

/-- A cache on a server that keeps a map answers every call as a cache in memory with more room than
there are keys, whatever the calls and whenever they come, as long as no call looks at a key at its
very deadline.  A write without a time to live is found from then on, whatever deadline the key has
had. -/
theorem RemoteServer.agrees_with_memory {ρ : Type}
    {answer : Nat → List Payload → ρ → RemoteReply × ρ} {kept : ρ → Payload → Option RemoteEntry}
    (serves : ServesMap answer kept) (start : ρ)
    (empty : ∀ key, kept start (Utf8.bytes key) = none) (size : Nat)
    (calls : List (Duration × CacheCall))
    (whole : ∀ event ∈ (CacheHistory.ofCalls size calls).past, event.call.Whole event.now)
    (off : OffDeadlines (CacheHistory.ofCalls size calls).past)
    (few : (calls.map fun call => call.2.key).dedup.length < (MemoryCache.ofSize size).capacity) :
    let remote := RemoteHistory.ofCalls answer start calls
    let memory := CacheHistory.ofCalls size calls
    remote.past = memory.past ∧
      (∀ event ∈ memory.past, ∃ answer, event.reply = .ok (.ok answer)) ∧
      ∀ key write, lastWrite? key memory.past = some write → write.ttl = none →
        ∀ time : Duration,
          let read : CacheEvent :=
            ⟨memory.state.now + time, .get key, .ok (.ok (.payload (some write.value)))⟩
          (remote.serve answer (time, .get key)).past = read :: memory.past ∧
            (memory.serve (time, .get key)).past = read :: memory.past := by
  intro remote memory
  have agrees : remote.Agrees kept memory (max size 1) :=
    .ofCalls serves empty size calls whole off few
  have few_used (key : String) : (usedSince key memory.past).dedup.length < max size 1 :=
    Nat.lt_of_le_of_lt (CacheHistory.length_usedSince_le size calls key) few
  exact ⟨agrees.past, agrees.answered, fun _ _ last endless time =>
    agrees.read_endless serves few_used last endless time⟩

namespace Sample

/-- The entry under a key, if it is not over. -/
def present? (now : Nat) (map : Payload → Option RemoteEntry) (key : Payload) :
    Option RemoteEntry :=
  (map key).filter fun entry => ¬ entry.IsOver now

/-- A server that keeps a map.  What is over is dropped when it is touched. -/
def mapServer (now : Nat) (words : List Payload) (map : Payload → Option RemoteEntry) :
    RemoteReply × (Payload → Option RemoteEntry) :=
  let unknown := .error "ERR unknown command"
  match words with
  | [name, key] =>
    let found := present? now map key
    if name = Utf8.bytes "GET" then
      (found.elim .nothing fun entry => .bulk entry.value, Function.update map key found)
    else if name = Utf8.bytes "EXISTS" then
      (.integer (if found.isSome then 1 else 0), Function.update map key found)
    else if name = Utf8.bytes "DEL" then
      (.integer (if found.isSome then 1 else 0), Function.update map key none)
    else (unknown, map)
  | [name, key, value] =>
    if name = Utf8.bytes "SET" then
      (.status "OK", Function.update map key (some ⟨value, none⟩))
    else (unknown, map)
  | [name, key, millis, value] =>
    if name = Utf8.bytes "PSETEX" then
      match (Utf8.text? millis).bind fun text => Decimal.digits? text.toList with
      | some millis =>
        if 0 < millis ∧ now + millis * Duration.milli < RemoteServer.clockEnd then
          (.status "OK",
            Function.update map key (some ⟨value, some (now + millis * Duration.milli)⟩))
        else (.error "ERR invalid expire time in 'psetex' command", map)
      | none => (.error "ERR value is not an integer or out of range", map)
    else (unknown, map)
  | _ => (unknown, map)

/-- A write whose deadline is taken back, one that is gone when it is looked for, and a delete. -/
def overwriting : List (Duration × CacheCall) :=
  [(0, .set "a" [1] (some (5 * Duration.milli))), (Duration.milli, .set "a" [] none),
    (0, .set "b" [0xFF, 0xFE] (some (3 * Duration.milli))), (Duration.milli, .get "b"),
    (9 * Duration.milli, .get "a"), (0, .get "b"), (0, .contains "b"), (0, .contains "a"),
    (0, .delete "a"), (0, .contains "a")]

end Sample

/-- A number is read back from its decimal digits. -/
theorem Decimal.digits?_toDigits (n : Nat) : digits? (Nat.toDigits 10 n) = some n := by
  have digits : ∀ c ∈ Nat.toDigits 10 n, c.isDigit = true := fun c there =>
    Nat.isDigit_of_mem_toDigits (by decide) (by decide) there
  have spelled : value (Nat.toDigits 10 n) = n := by
    rw [value, ← Nat.ofDigitChars_eq_foldl, Nat.ofDigitChars_ten_toDigits]
  rw [digits?, if_pos ⟨by simp, List.all_eq_true.mpr digits⟩, spelled]

namespace Sample

variable {now : Nat} {map : Payload → Option RemoteEntry} {key : Payload}

/-- An entry that lives is shown. -/
theorem present?_live {entry : RemoteEntry} (there : map key = some entry)
    (live : entry.IsLive now) : present? now map key = some entry := by
  have lasting : ¬ entry.IsOver now := fun ⟨deadline, has, before⟩ =>
    Nat.lt_asymm before (live deadline has)
  rw [present?, there]
  exact Option.filter_some_pos (decide_eq_true lasting)

/-- An entry that is over is not shown. -/
theorem present?_over (passed : ∀ entry ∈ map key, entry.IsOver now) :
    present? now map key = none := by
  rw [present?, Option.filter_eq_none_iff]
  intro entry there
  simpa using passed entry there

/-- To drop an entry that is over, and nothing else, is to settle. -/
theorem settles_present? (now : Nat) (map : Payload → Option RemoteEntry) (key : Payload) :
    Settles now map (Function.update map key (present? now map key)) := by
  intro other
  by_cases same : other = key
  · subst same
    rw [Function.update_self, present?]
    cases there : map other with
    | none => exact .inl rfl
    | some entry =>
      by_cases passed : entry.IsOver now
      · obtain ⟨deadline, has, before⟩ := passed
        exact .inr ⟨Option.filter_some_neg (by simpa using ⟨deadline, has, before⟩), entry, rfl,
          deadline, has, Nat.le_of_lt before⟩
      · exact .inl (Option.filter_some_pos (decide_eq_true passed))
  · exact .inl (Function.update_of_ne same _ _)

/-- The sample server keeps a map, as a server is asked to. -/
theorem servesMap_mapServer : ServesMap mapServer fun map => map := by
  have exists_get : Utf8.bytes "EXISTS" ≠ Utf8.bytes "GET" := by decide +kernel
  have del_get : Utf8.bytes "DEL" ≠ Utf8.bytes "GET" := by decide +kernel
  have del_exists : Utf8.bytes "DEL" ≠ Utf8.bytes "EXISTS" := by decide +kernel
  have psetex {now millis : Nat} (key value : Payload) (map : Payload → Option RemoteEntry)
      (positive : 0 < millis) (small : now + millis * Duration.milli < RemoteServer.clockEnd) :
      mapServer now [Utf8.bytes "PSETEX", key, Utf8.bytes (toString millis), value] map =
        (.status "OK",
          Function.update map key (some ⟨value, some (now + millis * Duration.milli)⟩)) := by
    have spelled : (toString millis).toList = Nat.toDigits 10 millis := String.toList_ofList
    have read : (Utf8.text? (Utf8.bytes (toString millis))).bind
        (fun text => Decimal.digits? text.toList) = some millis := by
      rw [Utf8.text?_bytes, Option.bind_some, spelled, Decimal.digits?_toDigits]
    simp only [mapServer, read, positive, small, and_self, if_true]
  exact {
    get_live := fun there live => by simp [mapServer, present?_live there live]
    get_over := fun passed => by simp [mapServer, present?_over passed]
    kept_get := fun now key map => by simpa [mapServer] using settles_present? now map key
    exists_live := fun there live => by simp [mapServer, present?_live there live, exists_get]
    exists_over := fun passed => by simp [mapServer, present?_over passed, exists_get]
    kept_exists := fun now key map => by
      simpa [mapServer, exists_get] using settles_present? now map key
    set := fun now key value map => by simp [mapServer]
    kept_set := fun now key value map => by simpa [mapServer] using Settles.refl now _
    psetex := fun key value map positive small => by rw [psetex key value map positive small]
    kept_psetex := fun key value map positive small => by
      rw [psetex key value map positive small]
      exact Settles.refl _ _
    del := fun now key map => ⟨_, by simp [mapServer, del_get, del_exists]; rfl⟩
    kept_del := fun now key map => by
      simpa [mapServer, del_get, del_exists] using Settles.refl now _ }

end Sample

/-- The second write under a key takes the deadline of the first one back, on the server as in
memory. -/
theorem RemoteServer.agrees_with_memory_overwriting :
    let remote := RemoteHistory.ofCalls Sample.mapServer (fun _ => none) Sample.overwriting
    let memory := CacheHistory.ofCalls 3 Sample.overwriting
    ServesMap Sample.mapServer (fun map => map) ∧
      (∀ event ∈ memory.past, event.call.Whole event.now) ∧ OffDeadlines memory.past ∧
      remote.past = memory.past ∧
      memory.past.map CacheEvent.reply =
        [.ok (.ok (.presence false)), .ok (.ok .done), .ok (.ok (.presence true)),
          .ok (.ok (.presence false)), .ok (.ok (.payload none)), .ok (.ok (.payload (some []))),
          .ok (.ok (.payload (some [0xFF, 0xFE]))), .ok (.ok .done), .ok (.ok .done),
          .ok (.ok .done)] := by
  intro remote memory
  have whole : ∀ event ∈ memory.past, event.call.Whole event.now := by decide +kernel
  have off : OffDeadlines memory.past := by decide +kernel
  obtain ⟨same, -, -⟩ := agrees_with_memory Sample.servesMap_mapServer (fun _ => none)
    (fun _ => rfl) 3 Sample.overwriting whole off (by decide +kernel)
  exact ⟨Sample.servesMap_mapServer, whole, off, same, by decide +kernel⟩

end Gazette
