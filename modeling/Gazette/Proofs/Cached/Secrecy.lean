import Mathlib.Data.List.Basic
import Gazette.Cache.Watched
import Gazette.Proofs.Cache.Remembers
import Gazette.Proofs.Cached.Guarded
import Gazette.Proofs.Cached.Unseeing
import Gazette.Proofs.Json.RoundTrip
import Gazette.Proofs.Storage.Atomicity

/-!
# Passwords never reach the cache

Two runs of the same operations through a cache that differ in the texts of passwords only cannot be
told apart by the calls that reach the cache, nor by the answers of lookups through it.  And no
account is ever written with a password, so that none is ever found with one if the cache has been
empty.
-/

set_option autoImplicit false

namespace Gazette

open Database

variable {β : Type}

/-- Something that happens in a run: an operation, a unit of work that is written down in advance,
or a disturbance of the cache, which from then on fails in some of its operations. -/
inductive Incident (β : Type) where
  | account (operation : AccountOperation)
  | article (operation : ArticleOperation) (single : operation.isWork = false)
  | work (lines : List (Directive × Bool))
  | disturb (change : β → β) (failing : List (CacheOperation × CacheError))

namespace Incident

/-- What happens without the texts of passwords. -/
def redacted : Incident β → Incident β
  | account operation => account operation.redacted
  | article operation single => article operation single
  | work lines => work (redactedLines lines)
  | disturb change failing => disturb change failing

/-- The state after something has happened. -/
def after (repositories : Repositories (Layered Database (Watched β)))
    (state : Layered Database (Watched β)) : Incident β → Layered Database (Watched β)
  | account operation => ((operation.perform repositories.accounts).run.outcome state).2
  | article operation _ => ((operation.perform repositories.articles).run.outcome state).2
  | work lines => ((repositories.articles.carryOut (.ofDirectives lines)).run.outcome state).2
  | disturb change failing =>
    { state with cache := { state.cache with inner := change state.cache.inner, failing } }

/-- What a lookup of an account through the cache answers. -/
def found (repositories : Repositories (Layered Database (Watched β)))
    (state : Layered Database (Watched β)) :
    Incident β → List (Except DeadlineOverflow (Except StorageError Account))
  | account (.find email) => [((repositories.accounts.find email).run.outcome state).1]
  | _ => []

end Incident

namespace Repositories

/-- The state after a run. -/
def endure (repositories : Repositories (Layered Database (Watched β)))
    (state : Layered Database (Watched β)) (past : List (Incident β)) :
    Layered Database (Watched β) :=
  past.foldl (Incident.after repositories) state

/-- What the lookups of accounts through the cache have answered in a run. -/
def found (repositories : Repositories (Layered Database (Watched β))) :
    Layered Database (Watched β) → List (Incident β) →
      List (Except DeadlineOverflow (Except StorageError Account))
  | _, [] => []
  | state, incident :: rest =>
    incident.found repositories state ++ repositories.found (incident.after repositories state) rest

end Repositories

section Unseeing

variable (front : CacheFront (Watched β)) (tagBatch patience : Nat)

/-- Whatever happens does the same without passwords, and a lookup of an account finds the same. -/
theorem incident_redacted (incident : Incident β) (state : Layered Database (Watched β)) :
    let repositories := Repositories.cached front tagBatch patience
    incident.redacted.after repositories state.redacted =
        (incident.after repositories state).redacted ∧
      incident.redacted.found repositories state.redacted = incident.found repositories state := by
  intro repositories
  cases incident with
  | account operation =>
    refine ⟨congrArg Prod.snd (operation.mirrors_cached front state), ?_⟩
    cases operation with
    | find email =>
      have answered := congrArg Prod.fst (mirrors_find front email state)
      rw [Except.map_id] at answered
      exact congrArg (fun answer => [answer]) answered
    | save account => rfl
    | update email patch => rfl
    | findFresh email => rfl
  | article operation single =>
    exact ⟨congrArg Prod.snd (operation.mirrors_cached front tagBatch single state), rfl⟩
  | work lines => exact ⟨congrArg Prod.snd (mirrors_cached_work front tagBatch lines state), rfl⟩
  | disturb change failing => exact ⟨rfl, rfl⟩

/-- Two runs that are the same without passwords leave the same without them, and find the same. -/
theorem endure_redacted (past : List (Incident β)) (state : Layered Database (Watched β)) :
    let repositories := Repositories.cached front tagBatch patience
    repositories.endure state.redacted (past.map Incident.redacted) =
        (repositories.endure state past).redacted ∧
      repositories.found state.redacted (past.map Incident.redacted) =
        repositories.found state past := by
  intro repositories
  induction past generalizing state with
  | nil => exact ⟨rfl, rfl⟩
  | cons incident rest ih =>
    obtain ⟨same_after, same_found⟩ := incident_redacted front tagBatch patience incident state
    obtain ⟨same_last, found_later⟩ := ih (incident.after repositories state)
    constructor
    · have stepped : repositories.endure state.redacted ((incident :: rest).map Incident.redacted) =
          repositories.endure (incident.redacted.after repositories state.redacted)
            (rest.map Incident.redacted) := rfl
      rw [stepped, same_after, same_last]
      rfl
    · rw [List.map_cons, Repositories.found, same_after, same_found, found_later]
      rfl

end Unseeing

section Watching

variable {inner : Backend β} {holds : Watched β → Prop} {α : Type}

/-- A call of a watched backend. -/
theorem guards_watch {operation : CacheOperation} {call : CacheCall}
    {task : Task β (Except CacheError α)} {post : Except CacheError α → Prop}
    (noted : ∀ state, holds state → holds { state with calls := state.calls ++ [call] })
    (done : ∀ state, holds state → holds { state with inner := (task.outcome state.inner).2 })
    (answers : ∀ state, holds state → ∀ value, (task.outcome state.inner).1 = .ok value →
      post value)
    (fails : ∀ error, post (.error error)) :
    Guards holds (Watched.watch operation call task) post := by
  intro state held
  cases failing : state.failing.lookup operation with
  | some error =>
    have opened : (Watched.watch operation call task).outcome state =
        (.ok (.error error), { state with calls := state.calls ++ [call] }) := by
      simp [Watched.watch, Task.outcome, ExceptT.run, ExceptT.mk, failing]
    rw [opened]
    refine ⟨noted state held, ?_⟩
    rintro value ⟨⟩
    exact fails _
  | none =>
    have opened : (Watched.watch operation call task).outcome state =
        ((task.outcome state.inner).1,
          { state with calls := state.calls ++ [call], inner := (task.outcome state.inner).2 }) := by
      simp [Watched.watch, Task.outcome, ExceptT.run, ExceptT.mk, failing]
    rw [opened]
    exact ⟨done _ (noted state held), answers state held⟩

/-- The answer of a read is waited for. -/
theorem guards_get {key : String} {post : Except CacheError (Option Payload) → Prop}
    (watched : Guards holds (Watched.watch .get (.get key) (inner.get key)) post)
    (answered : ∀ state, holds state → holds state.answered) :
    Guards holds ((Watched.backend inner).get key) post := by
  apply guards_bind watched
  intro found fits
  have waited : Guards holds (modify Watched.answered : Task (Watched β) Unit) fun _ => True :=
    fun state held => ⟨answered state held, fun _ _ => trivial⟩
  exact guards_bind waited fun _ _ => guards_pure fits

end Watching

/-- The writes that have reached a watched cache were there before or are harmless. -/
def WritesHarmless (harmless : String → Payload → Prop) (before : List CacheCall)
    (state : Watched β) : Prop :=
  ∀ key payload ttl, .set key payload ttl ∈ state.calls →
    .set key payload ttl ∈ before ∨ harmless key payload

/-- Whatever a cache gives back, its writes are harmless as long as nothing else is written. -/
theorem guard_writes (inner : Backend β) (harmless : String → Payload → Prop)
    (before : List CacheCall) :
    Guard (Watched.backend inner) (WritesHarmless harmless before) harmless fun _ _ => True := by
  have noted {call : CacheCall} (other : ∀ key payload ttl, call = .set key payload ttl →
        harmless key payload) (state : Watched β) (held : WritesHarmless harmless before state) :
      WritesHarmless harmless before { state with calls := state.calls ++ [call] } := by
    intro key payload ttl there
    rcases List.mem_append.mp there with old | new
    · exact held key payload ttl old
    · exact .inr (other key payload ttl (List.mem_singleton.mp new).symm)
  constructor
  case get =>
    intro key
    apply guards_get
    · exact guards_watch (noted nofun) (fun _ held => held) (fun _ _ _ _ _ _ => trivial) nofun
    · intro state held
      unfold Watched.answered
      split
      · exact held
      · exact held
  case set =>
    intro key payload ttl fine
    refine guards_watch (noted ?_) (fun _ held => held) (fun _ _ _ _ => trivial) fun _ => trivial
    rintro _ _ _ ⟨⟩
    exact fine
  case contains =>
    intro key
    exact guards_watch (noted nofun) (fun _ held => held) (fun _ _ _ _ => trivial) fun _ => trivial
  case delete =>
    intro key
    exact guards_watch (noted nofun) (fun _ held => held) (fun _ _ _ _ => trivial) fun _ => trivial

/-- What is shown by a cache is harmless. -/
def ShowsHarmless (shown : β → String → Payload → Prop) (harmless : String → Payload → Prop)
    (state : Watched β) : Prop :=
  ∀ key payload, shown state.inner key payload → harmless key payload

/-- A cache that gives back only what has been written gives back nothing harmful as long as nothing
harmful is written. -/
theorem guard_shown {inner : Backend β} {shown : β → String → Payload → Prop}
    (remembers : Remembers inner shown) (harmless : String → Payload → Prop) :
    Guard (Watched.backend inner) (ShowsHarmless shown harmless) harmless harmless := by
  constructor
  case get =>
    intro key
    apply guards_get
    · refine guards_watch (fun _ held => held) ?_ ?_ nofun
      · exact fun state held other payload there => held other payload (remembers.after_get there)
      · rintro state held found answered payload rfl
        exact held key payload (remembers.get answered)
    · intro state held
      unfold Watched.answered
      split
      · exact held
      · exact held
  case set =>
    intro key payload ttl fine
    refine guards_watch (fun _ held => held) ?_ (fun _ _ _ _ => trivial) fun _ => trivial
    intro state held other found there
    rcases remembers.after_set there with ⟨rfl, rfl⟩ | old
    · exact fine
    · exact held other found old
  case contains =>
    intro key
    refine guards_watch (fun _ held => held) ?_ (fun _ _ _ _ => trivial) fun _ => trivial
    exact fun state held other found there => held other found (remembers.after_contains there)
  case delete =>
    intro key
    refine guards_watch (fun _ held => held) ?_ (fun _ _ _ _ => trivial) fun _ => trivial
    exact fun state held other found there => held other found (remembers.after_delete there)

section Runs

variable (front : CacheFront (Watched β)) {holds : Watched β → Prop}
  {trusted : String → Payload → Prop}

/-- Whether a disturbance keeps an invariant of the cache. -/
def Incident.Keeps (holds : Watched β → Prop) (incident : Incident β) : Prop :=
  ∀ change failing, incident = .disturb change failing → ∀ cache, holds cache →
    holds { cache with inner := change cache.inner, failing }

/-- What a run keeps of the cache, and what its lookups find. -/
theorem guards_endure
    (guard : Guard front.store.backend holds (ShowsNoPassword front.store.keyStart) trusted)
    (tagBatch patience : Nat) (past : List (Incident β)) {state : Layered Database (Watched β)}
    (held : holds state.cache) (keeps : ∀ incident ∈ past, incident.Keeps holds) :
    let repositories := Repositories.cached front tagBatch patience
    holds (repositories.endure state past).cache ∧
      ∀ answer ∈ repositories.found state past, ∀ account, answer = .ok (.ok account) →
        account.password = "" ∨ ∃ email payload,
          trusted (userKey front.store.keyStart email) payload ∧
            Account.codec.decode payload = .ok account := by
  intro repositories
  -- what holds of the cache before a lookup makes its answer trustworthy
  induction past generalizing state with
  | nil => exact ⟨held, fun _ there => absurd there List.not_mem_nil⟩
  | cons incident rest ih =>
    have still_held : holds (incident.after repositories state).cache := by
      cases incident with
      | account operation => exact (operation.guards_cached guard state held).1
      | article operation single => exact (operation.guards_cached guard tagBatch state held).1
      | work lines =>
        have guarded :=
          ArticleOperation.guards_cached guard tagBatch (.carryOut (.ofDirectives lines))
        exact (guarded state held).1
      | disturb change failing => exact keeps _ List.mem_cons_self change failing rfl _ held
    obtain ⟨held_last, later⟩ :=
      ih still_held fun incident there => keeps incident (List.mem_cons_of_mem _ there)
    refine ⟨held_last, ?_⟩
    intro answer there account same
    rcases List.mem_append.mp there with now | afterwards
    · cases incident with
      | account operation =>
        cases operation with
        | find email =>
          rw [List.mem_singleton.mp now] at same
          rcases ((guards_find guard email state held).2 _ same) account rfl with
            redacted | ⟨payload, fine, decoded⟩
          · exact .inl redacted
          · exact .inr ⟨email, payload, fine, decoded⟩
        | _ => cases now
      | _ => cases now
    · exact later answer afterwards account same

end Runs

/-- Passwords never reach the cache.  Two runs of the same operations from one state that differ in
the texts of passwords only leave the same cache, with the same calls in it, and their lookups of
accounts find the same.  No account is written into the cache with a password.  And if the cache
gives back only what has been written, and has been empty at first, no account is found with a
password. -/
theorem passwords_stay_out_of_cache (inner : Backend β) (keyStart : String) (ttl : Duration)
    (observing : Bool) (tagBatch patience : Nat) (state : Layered Database (Watched β))
    {first second : List (Incident β)}
    (same : first.map Incident.redacted = second.map Incident.redacted) :
    let front : CacheFront (Watched β) := ⟨⟨Watched.backend inner, keyStart, ttl⟩, observing⟩
    let repositories := Repositories.cached front tagBatch patience
    (repositories.endure state first).cache = (repositories.endure state second).cache ∧
      repositories.found state first = repositories.found state second ∧
      (∀ email payload ttl, .set (userKey keyStart email) payload ttl ∈
          (repositories.endure state first).cache.calls →
        .set (userKey keyStart email) payload ttl ∈ state.cache.calls ∨
          ∃ account : Account, account.password = "" ∧ payload = Account.codec.encode account) ∧
      ∀ shown, Remembers inner shown → (∀ key payload, ¬ shown state.cache.inner key payload) →
        (∀ change failing, .disturb change failing ∈ first → ∀ cache key payload,
          shown (change cache) key payload → shown cache key payload) →
        ∀ answer ∈ repositories.found state first, ∀ account, answer = .ok (.ok account) →
          account.password = "" := by
  intro front repositories
  -- each run is compared with the one run that is left of both without passwords
  obtain ⟨first_leaves, first_finds⟩ := endure_redacted front tagBatch patience first state
  obtain ⟨second_leaves, second_finds⟩ := endure_redacted front tagBatch patience second state
  rw [same] at first_leaves first_finds
  refine ⟨?same_cache, first_finds.symm.trans second_finds, ?written, ?shown⟩
  case same_cache =>
    have caches := congrArg Layered.cache (first_leaves.symm.trans second_leaves)
    exact caches
  case written =>
    intro email payload ttl there
    have guard := guard_writes inner (ShowsNoPassword keyStart) state.cache.calls
    have kept := (guards_endure front guard tagBatch patience first
      (fun _ _ _ there => .inl there) ?_).1
    · rcases kept _ payload ttl there with old | fine
      · exact .inl old
      · exact .inr (fine email rfl)
    · rintro incident _ change failing rfl cache held
      exact held
  case shown =>
    intro shown remembers empty fading answer there account answered
    have guard := guard_shown remembers (ShowsNoPassword keyStart)
    have found := (guards_endure front guard tagBatch patience first
      (fun key payload there => absurd there (empty key payload)) ?_).2
    · rcases found answer there account answered with redacted | ⟨email, payload, fine, decoded⟩
      · exact redacted
      · obtain ⟨written, redacted, rfl⟩ := fine email rfl
        rw [Account.lawful_codec.decode_encode] at decoded
        cases decoded
        exact redacted
    · rintro incident present change failing rfl cache held key payload there
      exact held key payload (fading change failing present _ key payload there)

namespace Sample

/-- An account is opened with one password, gets another one and is looked up, and gets a third one
in a unit of work while the cache cannot be written. -/
def credentials (first second : String) : List (Incident TimedCache) :=
  [.account (.save ⟨"u", "u@x.com", first, "", ""⟩),
    .account (.update "u@x.com" { password := some second }),
    .account (.find "u@x.com"),
    .disturb (fun cache => cache.elapse 5) [(.set, .operationFailed "down")],
    .work [(.perform (.updateAccount "u@x.com" { password := some (first ++ second) }), false)]]

/-- An empty database and an empty cache. -/
def untouched : Layered Database (Watched TimedCache) :=
  { source := database, cache := { inner := { cache := .ofSize 8 } } }

/-- Whether a lookup has found an account. -/
def hasFound : Except DeadlineOverflow (Except StorageError Account) → Bool
  | .ok (.ok _) => true
  | _ => false

end Sample

/-- Two runs with different passwords leave different accounts in their databases and the same cache
in front of them, and the account is found without its password. -/
theorem passwords_stay_out_of_cache_two_passwords :
    let front : CacheFront (Watched TimedCache) :=
      ⟨⟨Watched.backend TimedCache.backend, "article-", Duration.second⟩, true⟩
    let repositories := Repositories.cached front 100 0
    let first := repositories.endure Sample.untouched (Sample.credentials "p" "q")
    let second := repositories.endure Sample.untouched (Sample.credentials "r" "")
    let found := repositories.found Sample.untouched (Sample.credentials "p" "q")
    first.source.tables.accounts ≠ second.source.tables.accounts ∧ first.cache = second.cache ∧
      found.any Sample.hasFound ∧
      ∀ answer ∈ found, ∀ account, answer = .ok (.ok account) → account.password = "" := by
  intro front repositories first second found
  have same : (Sample.credentials "p" "q").map Incident.redacted =
      (Sample.credentials "r" "").map Incident.redacted := rfl
  obtain ⟨same_cache, -, -, without⟩ := passwords_stay_out_of_cache TimedCache.backend "article-"
    Duration.second true 100 0 Sample.untouched same
  refine ⟨by decide +kernel, same_cache, by decide +kernel, ?_⟩
  apply without TimedCache.Has TimedCache.remembers
  · rintro key payload ⟨entry, there, -⟩
    cases there
  · intro change failing there cache key payload shown
    simp only [Sample.credentials, List.mem_cons, reduceCtorEq, Incident.disturb.injEq,
      List.not_mem_nil, false_or, or_false] at there
    obtain ⟨rfl, rfl⟩ := there
    exact shown

end Gazette
