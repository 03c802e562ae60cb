import Mathlib.Data.List.Induction
import Gazette.Proofs.Cache.Recency

/-!
# The expected answers

What a map with deadlines answers to a call is told by the calls before it: a look finds the write
that stands under its key, as long as that write lasts.  A cache in memory answers just so if it has
more room than there are keys.
-/

set_option autoImplicit false

namespace Gazette

/-- The key that a call is about. -/
def CacheCall.key : CacheCall → String
  | get key | set key _ _ | contains key | delete key => key

/-- The write that a look finds under a key. -/
def standing? (now : Nat) (key : String) (past : List CacheEvent) : Option CacheWrite :=
  (lastWrite? key past).filter fun write => !(write.entry key).isExpired now

/-- The answer to a call after others, the latest first. -/
def CacheCall.expected (now : Nat) (past : List CacheEvent) : CacheCall → CacheAnswer
  | get key => .payload ((standing? now key past).map CacheWrite.value)
  | contains key => .presence (standing? now key past).isSome
  | set _ _ _ | delete _ => .done

section Standing

variable {now : Nat} {key : String} {past : List CacheEvent}

/-- A write stands if it is the last one under its key and its time has not passed. -/
theorem standing?_eq_some {write : CacheWrite} :
    standing? now key past = some write ↔
      lastWrite? key past = some write ∧ write.Lasts now := by
  rw [standing?, Option.filter_eq_some_iff, Bool.not_eq_true', CacheWrite.isExpired_entry]

/-- Nothing stands under a key if the time of the last write under it has passed, or if there is
none. -/
theorem standing?_eq_none :
    standing? now key past = none ↔
      ∀ write, lastWrite? key past = some write → ¬ write.Lasts now := by
  rw [Option.eq_none_iff_forall_ne_some]
  simp only [ne_eq, standing?_eq_some, not_and]

end Standing

/-- A call uses no other key than its own. -/
theorem CacheEvent.key_of_used? {event : CacheEvent} {used : String}
    (h : event.used? = some used) : event.call.key = used := by
  obtain ⟨now, call, reply⟩ := event
  cases call with
  | set key value ttl => exact Option.some.inj h
  | get key =>
    rcases reply with overflow | error | (_ | value) | found | done
    case ok.ok.payload.some => exact Option.some.inj h
    all_goals cases h
  | contains key => cases h
  | delete key => cases h

/-- The keys that have been used since another one was are among the keys of the calls. -/
theorem usedSince_subset (key : String) (past : List CacheEvent) :
    usedSince key past ⊆ past.map fun event => event.call.key := by
  intro used there
  obtain ⟨event, before, same⟩ :=
    List.mem_filterMap.mp ((List.takeWhile_sublist _).subset there)
  exact List.mem_map.mpr ⟨event, before, CacheEvent.key_of_used? same⟩

namespace CacheHistory

variable {history : CacheHistory} {room : Nat} {key : String}

/-- A call that comes last is served on the run of the calls before it. -/
theorem ofCalls_append (size : Nat) (calls : List (Duration × CacheCall))
    (call : Duration × CacheCall) :
    ofCalls size (calls ++ [call]) = (ofCalls size calls).serve call := by
  rw [ofCalls, List.foldl_append]
  rfl

/-- The calls that have been answered are those that have been made. -/
theorem calls_past (size : Nat) (calls : List (Duration × CacheCall)) :
    (ofCalls size calls).past.map CacheEvent.call = (calls.map Prod.snd).reverse := by
  induction calls using List.reverseRecOn with
  | nil => rfl
  | append_singleton calls call ih =>
    rw [ofCalls_append, List.map_append, List.reverse_append, ← ih]
    rfl

/-- No more keys are in use than there are in the calls. -/
theorem length_usedSince_le (size : Nat) (calls : List (Duration × CacheCall)) (key : String) :
    (usedSince key (ofCalls size calls).past).dedup.length ≤
      (calls.map fun call => call.2.key).dedup.length := by
  refine length_dedup_le (List.Subset.trans (usedSince_subset key _) ?_)
  have keys : (ofCalls size calls).past.map (fun event => event.call.key) =
      (calls.map fun call => call.2.key).reverse := by
    have mapped := congrArg (List.map CacheCall.key) (calls_past size calls)
    rwa [List.map_map, List.map_reverse, List.map_map] at mapped
  rw [keys, List.reverse_subset]
  exact List.Subset.refl _

/-- A read finds the standing write, if there is room for all the keys in use. -/
theorem Recent.get_eq (recent : history.Recent room)
    (few : (usedSince key history.past).dedup.length < room) :
    (history.state.cache.get history.state.now key).1 =
      (standing? history.state.now key history.past).map CacheWrite.value := by
  cases standing : standing? history.state.now key history.past with
  | some write =>
    obtain ⟨last, lasts⟩ := standing?_eq_some.mp standing
    exact recent.get_of_lasts last lasts few
  | none =>
    cases found : (history.state.cache.get history.state.now key).1 with
    | none => rfl
    | some value =>
      obtain ⟨write, last, -, lasts, -⟩ := recent.of_get found
      exact absurd lasts (standing?_eq_none.mp standing write last)

/-- A cache in memory with room for all the keys in use answers as expected. -/
theorem Recent.outcome_eq (recent : history.Recent room) (call : CacheCall)
    (fits : ∀ time ∈ call.ttl?, history.state.now + time < MemoryCache.clockEnd)
    (few : ∀ key, (usedSince key history.past).dedup.length < room) :
    ((call.perform TimedCache.backend).outcome history.state).1 =
      .ok (.ok (call.expected history.state.now history.past)) := by
  cases call with
  | set key value ttl =>
    obtain ⟨deadline, dated⟩ : ∃ deadline,
        MemoryCache.deadline history.state.now ttl = .ok deadline := by
      cases ttl with
      | none => exact ⟨none, rfl⟩
      | some time => exact ⟨_, if_pos (fits time rfl)⟩
    rw [TimedCache.outcome_set_call dated]
    rfl
  | get key =>
    rw [TimedCache.outcome_get_call, recent.get_eq (few key)]
    rfl
  | contains key =>
    rw [TimedCache.outcome_contains_call, (MemoryCache.contains_eq_get _ _ _).1,
      recent.get_eq (few key), Option.isSome_map]
    rfl
  | delete key => rfl

/-- No call changes the clock. -/
theorem now_serve (history : CacheHistory) (call : Duration × CacheCall) :
    (history.serve call).state.now = history.state.now + call.1 := by
  obtain ⟨time, call⟩ := call
  cases call with
  | set key value ttl =>
    have wrote : ((TimedCache.backend.set key value ttl).outcome
        (history.state.elapse time)).2.now = history.state.now + time := by
      unfold TimedCache.backend Task.outcome ExceptT.run ExceptT.mk
      dsimp only
      cases (history.state.elapse time).cache.set (history.state.elapse time).now key value ttl <;>
        rfl
    unfold serve
    dsimp only
    rwa [CacheCall.outcome_perform_set]
  | get key => rfl
  | contains key => rfl
  | delete key => rfl

/-- A call that comes after some time is answered as expected, and the history goes on as it
should. -/
theorem Recent.serve_expected (recent : history.Recent room) (call : Duration × CacheCall)
    (fits : ∀ time ∈ call.2.ttl?, history.state.now + call.1 + time < MemoryCache.clockEnd)
    (few : ∀ key, (usedSince key history.past).dedup.length < room) :
    (history.serve call).Recent room ∧
      (history.serve call).past =
        ⟨history.state.now + call.1, call.2,
          .ok (.ok (call.2.expected (history.state.now + call.1) history.past))⟩ ::
            history.past := by
  have elapsed := recent.elapse call.1
  obtain ⟨answer, after, ran, next⟩ := elapsed.answer call.2 fits
  have expected := elapsed.outcome_eq call.2 fits few
  rw [ran] at expected
  cases expected
  unfold CacheHistory.serve
  dsimp only
  rw [ran]
  exact ⟨next, rfl⟩

end CacheHistory

end Gazette
