import Mathlib.Logic.Function.Basic
import Gazette.Cache.Remote
import Gazette.Proofs.Cache.Expected

/-!
# Servers that keep a map

A server that keeps a map from words to payloads with deadlines.  Only this is taken for granted:
how it replies to the words of the five commands, and what its map is afterwards.  It may drop an
entry at any moment from the deadline on.  A cache on it answers a call as expected, and its map
stays what the calls lead to, but for what has been dropped.
-/

set_option autoImplicit false

namespace Gazette

/-- An entry as a server keeps it. -/
structure RemoteEntry where
  value : Payload
  deadline : Option Nat
  deriving DecidableEq

namespace RemoteEntry

/-- Whether an entry has time left at a moment: it has no deadline, or its deadline lies ahead. -/
def IsLive (entry : RemoteEntry) (now : Nat) : Prop :=
  ∀ deadline ∈ entry.deadline, now < deadline

/-- Whether the deadline of an entry has passed by a moment.  At the deadline itself an entry is
neither live nor over. -/
def IsOver (entry : RemoteEntry) (now : Nat) : Prop :=
  ∃ deadline ∈ entry.deadline, deadline < now

instance (entry : RemoteEntry) (now : Nat) : Decidable (entry.IsOver now) :=
  inferInstanceAs (Decidable (∃ deadline ∈ entry.deadline, deadline < now))

end RemoteEntry

/-- The first deadline that a server does not accept. -/
def RemoteServer.clockEnd : Nat := 9223372036854775808 * Duration.milli

/-- Whether a map is left of another one when entries are dropped from their deadlines on. -/
def Settles {κ : Type} (now : Nat) (before after : κ → Option RemoteEntry) : Prop :=
  ∀ key, after key = before key ∨
    after key = none ∧ ∃ entry ∈ before key, ∃ deadline ∈ entry.deadline, deadline ≤ now

/-- A server that keeps a map.  Its replies to the words of a command at a moment, and the map after
it, are those that are documented; of an entry at its very deadline nothing is said. -/
structure ServesMap {ρ : Type} (answer : Nat → List Payload → ρ → RemoteReply × ρ)
    (kept : ρ → Payload → Option RemoteEntry) : Prop where
  get_live {now : Nat} {key : Payload} {state : ρ} {entry : RemoteEntry} :
    kept state key = some entry → entry.IsLive now →
      (answer now [Utf8.bytes "GET", key] state).1 = .bulk entry.value
  get_over {now : Nat} {key : Payload} {state : ρ} :
    (∀ entry ∈ kept state key, entry.IsOver now) →
      (answer now [Utf8.bytes "GET", key] state).1 = .nothing
  kept_get (now : Nat) (key : Payload) (state : ρ) :
    Settles now (kept state) (kept (answer now [Utf8.bytes "GET", key] state).2)
  exists_live {now : Nat} {key : Payload} {state : ρ} {entry : RemoteEntry} :
    kept state key = some entry → entry.IsLive now →
      (answer now [Utf8.bytes "EXISTS", key] state).1 = .integer 1
  exists_over {now : Nat} {key : Payload} {state : ρ} :
    (∀ entry ∈ kept state key, entry.IsOver now) →
      (answer now [Utf8.bytes "EXISTS", key] state).1 = .integer 0
  kept_exists (now : Nat) (key : Payload) (state : ρ) :
    Settles now (kept state) (kept (answer now [Utf8.bytes "EXISTS", key] state).2)
  set (now : Nat) (key value : Payload) (state : ρ) :
    (answer now [Utf8.bytes "SET", key, value] state).1 = .status "OK"
  kept_set (now : Nat) (key value : Payload) (state : ρ) :
    Settles now (Function.update (kept state) key (some ⟨value, none⟩))
      (kept (answer now [Utf8.bytes "SET", key, value] state).2)
  psetex {now millis : Nat} (key value : Payload) (state : ρ) :
    0 < millis → now + millis * Duration.milli < RemoteServer.clockEnd →
      (answer now [Utf8.bytes "PSETEX", key, Utf8.bytes (toString millis), value] state).1 =
        .status "OK"
  kept_psetex {now millis : Nat} (key value : Payload) (state : ρ) :
    0 < millis → now + millis * Duration.milli < RemoteServer.clockEnd →
      Settles now
        (Function.update (kept state) key (some ⟨value, some (now + millis * Duration.milli)⟩))
        (kept (answer now [Utf8.bytes "PSETEX", key, Utf8.bytes (toString millis), value] state).2)
  del (now : Nat) (key : Payload) (state : ρ) :
    ∃ count, (answer now [Utf8.bytes "DEL", key] state).1 = .integer count
  kept_del (now : Nat) (key : Payload) (state : ρ) :
    Settles now (Function.update (kept state) key none)
      (kept (answer now [Utf8.bytes "DEL", key] state).2)

/-- A server at a moment, as commands reach it. -/
def RemoteServer.clocked {ρ : Type} (answer : Nat → List Payload → ρ → RemoteReply × ρ)
    (now : Nat) : RemoteServer ρ :=
  fun command state => answer now command.words state

namespace Settles

variable {κ : Type} {now later : Nat} {first second third : κ → Option RemoteEntry}

/-- What nothing has happened to has settled. -/
theorem refl (now : Nat) (kept : κ → Option RemoteEntry) : Settles now kept kept :=
  fun _ => .inl rfl

/-- What settles twice settles. -/
theorem trans (one : Settles now first second) (two : Settles now second third) :
    Settles now first third := by
  intro key
  rcases two key with same | ⟨gone, entry, inside, passed⟩
  · rw [same]
    exact one key
  · -- what is dropped now was still there, so it was there from the first
    refine .inr ⟨gone, entry, ?_, passed⟩
    rcases one key with same | ⟨dropped, -⟩
    · rwa [← same]
    · rw [dropped] at inside
      cases inside

/-- What has settled by a moment has settled by a later one. -/
theorem later_le (settled : Settles now first second) (order : now ≤ later) :
    Settles later first second := by
  intro key
  rcases settled key with same | ⟨gone, entry, inside, deadline, has, passed⟩
  · exact .inl same
  · exact .inr ⟨gone, entry, inside, deadline, has, Nat.le_trans passed order⟩

/-- Entries settle under other names as they do under their own. -/
theorem comp {ι : Type} (settled : Settles now first second) (name : ι → κ) :
    Settles now (first ∘ name) (second ∘ name) :=
  fun key => settled (name key)

/-- If the same entry is written before and after settling, it makes no difference. -/
theorem update [DecidableEq κ] (settled : Settles now first second) (key : κ)
    (entry : Option RemoteEntry) :
    Settles now (Function.update first key entry) (Function.update second key entry) := by
  intro other
  by_cases same : other = key
  · subst same
    simp
  · simpa [same] using settled other

end Settles

section Told

variable {now : Nat} {key : String} {past : List CacheEvent} {kept : String → Option RemoteEntry}
  {reply : Except DeadlineOverflow (Except CacheError CacheAnswer)}

/-- The entry that a write leaves on a server. -/
def CacheWrite.remote (write : CacheWrite) : RemoteEntry where
  value := write.value
  deadline := write.ttl.map fun ttl => write.time + ttl

/-- The map that calls lead to while nothing is dropped. -/
def told (past : List CacheEvent) (key : String) : Option RemoteEntry :=
  (lastWrite? key past).map CacheWrite.remote

/-- A set tells of its entry under its key and of the other entries as before. -/
theorem told_set (value : Payload) (ttl : Option Duration) :
    told (⟨now, .set key value ttl, reply⟩ :: past) =
      Function.update (told past) key (some ⟨value, ttl.map fun ttl => now + ttl⟩) := by
  funext other
  by_cases same : other = key
  · subst same
    simp [told, lastWrite?, CacheWrite.remote]
  · simp [told, lastWrite?, same, Ne.symm same]

/-- A delete tells of no entry under its key and of the other entries as before. -/
theorem told_delete :
    told (⟨now, .delete key, reply⟩ :: past) = Function.update (told past) key none := by
  funext other
  by_cases same : other = key
  · subst same
    simp [told, lastWrite?]
  · simp [told, lastWrite?, same, Ne.symm same]

/-- Whether the write under a key has its deadline at some other moment. -/
def OffDeadline (now : Nat) (key : String) (past : List CacheEvent) : Prop :=
  ∀ write ∈ lastWrite? key past, ∀ ttl ∈ write.ttl, now ≠ write.time + ttl

/-- A standing write has not been dropped. -/
theorem Settles.of_standing (settled : Settles now (told past) kept)
    (off : OffDeadline now key past) {write : CacheWrite}
    (standing : standing? now key past = some write) :
    kept key = some write.remote ∧ write.remote.IsLive now := by
  obtain ⟨last, lasts⟩ := standing?_eq_some.mp standing
  have there : told past key = some write.remote := by rw [told, last, Option.map_some]
  have live : write.remote.IsLive now := by
    intro deadline inside
    obtain ⟨ttl, lived, rfl⟩ := Option.map_eq_some_iff.mp inside
    -- the write lasts up to its deadline, and this is another moment
    exact Nat.lt_of_le_of_ne (lasts ttl lived) (off write last ttl lived)
  refine ⟨?_, live⟩
  rcases settled key with same | ⟨-, entry, inside, deadline, has, passed⟩
  · rw [same, there]
  · rw [there] at inside
    cases inside
    exact absurd (live deadline has) (Nat.not_lt.mpr passed)

/-- Where no write stands, what is kept is over. -/
theorem Settles.of_standing_none (settled : Settles now (told past) kept)
    (standing : standing? now key past = none) : ∀ entry ∈ kept key, entry.IsOver now := by
  intro entry inside
  rcases settled key with same | ⟨gone, -⟩
  · rw [same] at inside
    obtain ⟨write, last, rfl⟩ := Option.map_eq_some_iff.mp inside
    have passed := standing?_eq_none.mp standing write last
    simp only [CacheWrite.Lasts, not_forall, Nat.not_le] at passed
    obtain ⟨ttl, lived, passed⟩ := passed
    exact ⟨write.time + ttl, Option.map_eq_some_iff.mpr ⟨ttl, lived, rfl⟩, passed⟩
  · rw [gone] at inside
    cases inside

end Told

/-- Different texts have different bytes. -/
theorem Utf8.bytes_injective : Function.Injective Utf8.bytes := by
  intro one other same
  have texts := congrArg Utf8.text? same
  rwa [Utf8.text?_bytes, Utf8.text?_bytes, Option.some_inj] at texts

/-- A whole number of thousandths is sent as it is. -/
theorem ttlMillis_mul {ttl : Duration} (whole : Duration.milli ∣ ttl) (positive : 0 < ttl)
    (small : ttl < RemoteServer.clockEnd) : ttlMillis ttl * Duration.milli = ttl := by
  obtain ⟨millis, rfl⟩ := whole
  have unit : 0 < Duration.milli := by decide
  have some_millis : 0 < millis := Nat.pos_of_mul_pos_left positive
  have fits : millis < 9223372036854775808 := by
    rw [RemoteServer.clockEnd, Nat.mul_comm] at small
    exact Nat.lt_of_mul_lt_mul_right small
  have sent : ttlMillis (Duration.milli * millis) = millis := by
    rw [ttlMillis, Nat.mul_div_cancel_left millis unit, largestUInt64]
    omega
  rw [sent, Nat.mul_comm]

/-- What is done to a key is done to its bytes. -/
theorem Settles.update_bytes {now : Nat} {before : String → Option RemoteEntry}
    {middle after : Payload → Option RemoteEntry} {key : String} {entry : Option RemoteEntry}
    (settled : Settles now before (middle ∘ Utf8.bytes))
    (left : Settles now (Function.update middle (Utf8.bytes key) entry) after) :
    Settles now (Function.update before key entry) (after ∘ Utf8.bytes) := by
  have named := left.comp Utf8.bytes
  rw [Function.update_comp_eq_of_injective _ Utf8.bytes_injective] at named
  exact (settled.update key entry).trans named

namespace RemoteServer

variable {ρ : Type} {server : RemoteServer ρ} {state : ρ} {key : String} {value : Payload}
  {ttl : Option Duration}

/-- A get whose reply can be read answers with the payload in it. -/
theorem outcome_get_call {found : Option Payload}
    (replied : (server (.get key) state).1.payload? = .ok found) :
    ((CacheCall.get key).perform server.backend).outcome state =
      (.ok (.ok (.payload found)), (server (.get key) state).2) := by
  rw [CacheCall.outcome_perform_get]
  simp only [backend, ask, Task.outcome_ofState, replied]
  rfl

/-- An existence check whose reply can be read answers with it. -/
theorem outcome_contains_call {found : Bool}
    (replied : (server (.contains key) state).1.boolean = .ok found) :
    ((CacheCall.contains key).perform server.backend).outcome state =
      (.ok (.ok (.presence found)), (server (.contains key) state).2) := by
  rw [CacheCall.outcome_perform_contains]
  simp only [backend, ask, Task.outcome_ofState, replied]
  rfl

/-- A set that is confirmed is done. -/
theorem outcome_set_call
    (replied : (server (.put key value ttl) state).1.confirmation = .ok ()) :
    ((CacheCall.set key value ttl).perform server.backend).outcome state =
      (.ok (.ok .done), (server (.put key value ttl) state).2) := by
  rw [CacheCall.outcome_perform_set]
  simp only [backend, ask, Task.outcome_ofState, replied]
  rfl

/-- A delete that is confirmed is done. -/
theorem outcome_delete_call (replied : (server (.delete key) state).1.confirmation = .ok ()) :
    ((CacheCall.delete key).perform server.backend).outcome state =
      (.ok (.ok .done), (server (.delete key) state).2) := by
  rw [CacheCall.outcome_perform_delete]
  simp only [backend, ask, Task.outcome_ofState, replied]
  rfl

end RemoteServer

/-- The key that a call looks at. -/
def CacheCall.looked? : CacheCall → Option String
  | get key | contains key => some key
  | set _ _ _ | delete _ => none

/-- Whether a call at a moment asks for a time to live in whole thousandths of a second, if for any,
with a deadline that a server accepts. -/
def CacheCall.Whole (now : Nat) (call : CacheCall) : Prop :=
  ∀ ttl ∈ call.ttl?, 0 < ttl ∧ Duration.milli ∣ ttl ∧ now + ttl < RemoteServer.clockEnd

instance (now : Nat) : DecidablePred (CacheCall.Whole now) :=
  fun call => inferInstanceAs (Decidable (∀ ttl ∈ call.ttl?, 0 < ttl ∧ Duration.milli ∣ ttl ∧ _))

namespace ServesMap

variable {ρ : Type} {answer : Nat → List Payload → ρ → RemoteReply × ρ}
  {kept : ρ → Payload → Option RemoteEntry} {now : Nat} {key : String} {past : List CacheEvent}
  {state : ρ}

/-- The reply to a get is the value of the write that stands under the key. -/
theorem payload?_get (serves : ServesMap answer kept)
    (settled : Settles now (told past) (kept state ∘ Utf8.bytes))
    (off : OffDeadline now key past) :
    (answer now [Utf8.bytes "GET", Utf8.bytes key] state).1.payload? =
      .ok ((standing? now key past).map CacheWrite.value) := by
  cases standing : standing? now key past with
  | some write =>
    obtain ⟨there, live⟩ := settled.of_standing off standing
    rw [serves.get_live there live]
    rfl
  | none =>
    rw [serves.get_over (settled.of_standing_none standing)]
    rfl

/-- The reply to an existence check tells whether a write stands under the key. -/
theorem boolean_exists (serves : ServesMap answer kept)
    (settled : Settles now (told past) (kept state ∘ Utf8.bytes))
    (off : OffDeadline now key past) :
    (answer now [Utf8.bytes "EXISTS", Utf8.bytes key] state).1.boolean =
      .ok (standing? now key past).isSome := by
  cases standing : standing? now key past with
  | some write =>
    obtain ⟨there, live⟩ := settled.of_standing off standing
    rw [serves.exists_live there live]
    rfl
  | none =>
    rw [serves.exists_over (settled.of_standing_none standing)]
    rfl

/-- A write is one command, with or without a time to live. -/
theorem put (serves : ServesMap answer kept) {value : Payload} {ttl : Option Duration}
    (whole : (CacheCall.set key value ttl).Whole now) :
    (answer now (RemoteCommand.put key value ttl).words state).1 = .status "OK" ∧
      Settles now
        (Function.update (kept state) (Utf8.bytes key) (some ⟨value, ttl.map fun ttl => now + ttl⟩))
        (kept (answer now (RemoteCommand.put key value ttl).words state).2) := by
  cases ttl with
  | none => exact ⟨serves.set now _ value state, serves.kept_set now _ value state⟩
  | some ttl =>
    obtain ⟨positive, thousandths, small⟩ := whole ttl rfl
    have sent : ttlMillis ttl * Duration.milli = ttl :=
      ttlMillis_mul thousandths positive (Nat.lt_of_le_of_lt (Nat.le_add_left _ _) small)
    have some_millis : 0 < ttlMillis ttl := Nat.le_max_left 1 _
    rw [← sent] at small
    have left := serves.kept_psetex (Utf8.bytes key) value state some_millis small
    rw [sent] at left
    exact ⟨serves.psetex _ value state some_millis small, left⟩

/-- One call of a server answers as expected, and its map stays what the calls lead to. -/
theorem outcome (serves : ServesMap answer kept)
    (settled : Settles now (told past) (kept state ∘ Utf8.bytes)) (call : CacheCall)
    (whole : call.Whole now) (off : ∀ key ∈ call.looked?, OffDeadline now key past) :
    ∃ after, (call.perform (RemoteServer.clocked answer now).backend).outcome state =
        (.ok (.ok (call.expected now past)), after) ∧
      ∀ reply, Settles now (told (⟨now, call, reply⟩ :: past)) (kept after ∘ Utf8.bytes) := by
  cases call with
  | get key =>
    refine ⟨_, RemoteServer.outcome_get_call (serves.payload?_get settled (off key rfl)),
      fun reply => ?_⟩
    exact settled.trans ((serves.kept_get now _ state).comp Utf8.bytes)
  | contains key =>
    refine ⟨_, RemoteServer.outcome_contains_call (serves.boolean_exists settled (off key rfl)),
      fun reply => ?_⟩
    exact settled.trans ((serves.kept_exists now _ state).comp Utf8.bytes)
  | delete key =>
    obtain ⟨count, replied⟩ := serves.del now (Utf8.bytes key) state
    refine ⟨_, RemoteServer.outcome_delete_call (congrArg RemoteReply.confirmation replied),
      fun reply => ?_⟩
    rw [told_delete]
    exact settled.update_bytes (serves.kept_del now _ state)
  | set key value ttl =>
    obtain ⟨replied, left⟩ := serves.put whole
    refine ⟨_, RemoteServer.outcome_set_call (congrArg RemoteReply.confirmation replied),
      fun reply => ?_⟩
    rw [told_set]
    exact settled.update_bytes left

end ServesMap

end Gazette
