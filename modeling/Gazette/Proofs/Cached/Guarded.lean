import Mathlib.Data.List.Basic
import Gazette.Proofs.Cached.Effects

/-!
# What is written into the cache

An invariant of a cache that holds as long as nothing harmful is written is kept by every operation
through the cache, if what the operations write is harmless.  They write articles under the keys of
articles, and accounts with empty passwords under the keys of accounts.
-/

set_option autoImplicit false

namespace Gazette

open Tables Session Database

/-- What a task keeps, and what its answers are like. -/
def Guards {σ α : Type} (holds : σ → Prop) (task : Task σ α) (post : α → Prop) : Prop :=
  ∀ state, holds state →
    holds (task.outcome state).2 ∧ ∀ value, (task.outcome state).1 = .ok value → post value

variable {σ β α γ : Type}

section Rules

variable {holds : σ → Prop} {post : α → Prop}

/-- An answer alone keeps everything, and it is what it is. -/
theorem guards_pure {value : α} (h : post value) : Guards holds (pure value) post := by
  intro state held
  refine ⟨held, ?_⟩
  rintro other same
  cases same
  exact h

/-- Two tasks one after the other. -/
theorem guards_bind {mid : γ → Prop} {task : Task σ γ} {next : γ → Task σ α}
    (first : Guards holds task mid) (second : ∀ value, mid value → Guards holds (next value) post) :
    Guards holds (task >>= next) post := by
  intro state held
  obtain ⟨still_held, fits⟩ := first state held
  rcases ran : task.outcome state with ⟨cause | value, after⟩
  · rw [Task.outcome_bind_of_error ran]
    rw [ran] at still_held
    exact ⟨still_held, nofun⟩
  · rw [Task.outcome_bind_of_ok ran]
    rw [ran] at still_held fits
    exact second value (fits value rfl) after still_held

/-- Less may be told of the answers. -/
theorem Guards.mono {task : Task σ α} {weaker : α → Prop} (h : Guards holds task post)
    (bound : ∀ value, post value → weaker value) : Guards holds task weaker :=
  fun state held =>
    ⟨(h state held).1, fun value answered => bound value ((h state held).2 value answered)⟩

/-- Two activities one after the other. -/
theorem guards_activity_bind {mid : γ → Prop} {activity : Activity σ γ} {next : γ → Activity σ α}
    (first : Guards holds activity.run mid)
    (second : ∀ value, mid value → Guards holds (next value).run post) :
    Guards holds (activity >>= next).run post := by
  rw [Activity.run_bind_eq]
  exact guards_bind first second

end Rules

/-- What holds of a cache is told of the layered state. -/
def OfCache (holds : β → Prop) (state : Layered σ β) : Prop :=
  holds state.cache

section Layers

variable {holds : β → Prop} {post : α → Prop}

/-- A step of the cache. -/
theorem guards_onCache {task : Task β α} (h : Guards holds task post) :
    Guards (OfCache holds) (Activity.onCache task : Activity (Layered σ β) α).run post := by
  have stepped : Guards (OfCache holds) (Layered.onCache task : Task (Layered σ β) α) post := by
    intro state held
    rw [Layered.outcome_onCache]
    exact h state.cache held
  exact guards_bind stepped fun value fits => guards_pure fits

/-- Steps of the source leave the cache alone. -/
theorem guards_onSource {activity : Activity σ α}
    (answers : ∀ source value, (activity.run.outcome source).1 = .ok value → post value) :
    Guards (OfCache holds) (activity.onSource : Activity (Layered σ β) α).run post := by
  intro state held
  rw [activity.outcome_run_onSource]
  exact ⟨held, answers state.source⟩

/-- Nothing is told of the answers of the source. -/
theorem guards_source (activity : Activity σ α) :
    Guards (OfCache holds) (activity.onSource : Activity (Layered σ β) α).run fun _ => True :=
  guards_onSource fun _ _ _ => trivial

/-- What is done with a value, after the activity that has given it. -/
theorem guards_also {ε : Type} {activity : Activity (Layered σ β) (Except ε α)}
    {use : α → Activity (Layered σ β) Unit} {post : Except ε α → Prop}
    (first : Guards (OfCache holds) activity.run post)
    (second : ∀ value, post (.ok value) → Guards (OfCache holds) (use value).run fun _ => True) :
    Guards (OfCache holds) (activity.also use).run post := by
  apply guards_activity_bind first
  rintro (error | value) fits
  · exact guards_pure fits
  · exact guards_activity_bind (second value fits) fun _ _ => guards_pure fits

end Layers

/-- A cache of which something holds as long as only harmless payloads are written, and in which
what is read can be trusted then. -/
structure Guard (backend : Backend β) (holds : β → Prop)
    (harmless trusted : String → Payload → Prop) : Prop where
  get (key : String) : Guards holds (backend.get key)
    fun found => ∀ payload, found = .ok (some payload) → trusted key payload
  set (key : String) (payload : Payload) (ttl : Option Duration) : harmless key payload →
    Guards holds (backend.set key payload ttl) fun _ => True
  contains (key : String) : Guards holds (backend.contains key) fun _ => True
  delete (key : String) : Guards holds (backend.delete key) fun _ => True

namespace CacheFront

/-- The complete key of a key. -/
def full (front : CacheFront β) (key : String) : String :=
  CacheKey.namespaced front.store.keyStart key

/-- An operation on a complete key, or none on the empty key. -/
theorem guards_onKey {front : CacheFront β} {holds : β → Prop} {key : String}
    {operation : String → Task β (Except CacheError α)}
    (h : Guards holds (operation (front.full key)) fun _ => True) :
    Guards holds (front.store.onKey key operation) fun _ => True := by
  unfold CacheStore.onKey CacheStore.fullKey
  by_cases empty : key = ""
  · rw [if_pos empty]
    exact guards_pure trivial
  · rw [if_neg empty]
    exact h

end CacheFront

namespace Guard

variable {front : CacheFront β} {holds : β → Prop} {harmless trusted : String → Payload → Prop}
  (guard : Guard front.store.backend holds harmless trusted)

include guard

/-- Keeping a harmless payload keeps what holds of the cache. -/
theorem keep {codec : Codec α} {key : String} {value : α}
    (fine : harmless (front.full key) (codec.encode value)) :
    Guards (OfCache holds) (front.keep codec key value : Activity (Layered σ β) Unit).run
      fun _ => True := by
  apply guards_onCache
  exact guards_bind (CacheFront.guards_onKey (guard.set _ _ _ fine)) fun _ _ => guards_pure trivial

/-- Forgetting a key keeps what holds of the cache. -/
theorem forget (key : String) :
    Guards (OfCache holds) (front.forget key : Activity (Layered σ β) Unit).run fun _ => True := by
  apply guards_onCache
  exact guards_bind (CacheFront.guards_onKey (guard.delete _)) fun _ _ => guards_pure trivial

/-- Looking whether a key is there keeps what holds of the cache. -/
theorem holds_run (key : String) :
    Guards (OfCache holds) (front.holds key : Activity (Layered σ β) Bool).run fun _ => True := by
  apply guards_activity_bind (guards_onCache (CacheFront.guards_onKey (guard.contains _)))
  rintro (error | found) _
  · exact guards_pure trivial
  · exact guards_pure trivial

/-- Clearing a key keeps what holds of the cache. -/
theorem invalidate (key : String) :
    Guards (OfCache holds) (front.invalidate key : Activity (Layered σ β) Unit).run
      fun _ => True := by
  apply guards_activity_bind (guard.holds_run key)
  rintro (_ | _) _
  · exact guards_pure trivial
  · exact guard.forget key

/-- Clearing some keys keeps what holds of the cache. -/
theorem invalidateAll (keys : List String) :
    Guards (OfCache holds) (front.invalidateAll keys : Activity (Layered σ β) PUnit).run
      fun _ => True := by
  induction keys with
  | nil => exact guards_pure trivial
  | cons key keys ih => exact guards_activity_bind (guard.invalidate key) fun _ _ => ih

/-- What is found under a key comes from a payload that can be trusted. -/
theorem cached? (codec : Codec α) (full : String) :
    Guards holds (front.store.cached? codec full) fun found =>
      ∀ value, found = some value → ∃ payload, trusted full payload ∧
        codec.decode payload = .ok value := by
  have read : Guards holds (front.store.payload? full) fun found =>
      ∀ payload, found = some payload → trusted full payload := by
    apply guards_bind (guard.get full)
    rintro (error | found) fits
    · exact guards_pure nofun
    · exact guards_pure fun payload same => fits payload (same ▸ rfl)
  apply guards_bind read
  rintro (_ | payload) fits
  · exact guards_pure nofun
  · apply guards_pure
    intro value same
    refine ⟨payload, fits payload rfl, ?_⟩
    cases decoded : codec.decode payload with
    | error fault =>
      rw [decoded] at same
      cases same
    | ok found =>
      rw [decoded] at same
      cases same
      rfl

/-- A fetch answers with what can be trusted or with what has been made, which has been written
then. -/
theorem fetch {made : α → Prop} {codec : Codec α} {key : String} {generate : Answers σ α}
    (makes : ∀ source value, (generate.run.outcome source).1 = .ok (.ok value) → made value)
    (fine : ∀ value, made value → harmless (front.full key) (codec.encode value)) :
    Guards (OfCache holds) (front.store.fetch codec key generate).run fun answer =>
      ∀ fetched, answer = .ok fetched → made fetched.value ∨
        ∃ payload, trusted (front.full key) payload ∧ codec.decode payload = .ok fetched.value := by
  unfold CacheStore.fetch CacheStore.fullKey
  by_cases empty : key = ""
  · rw [if_pos empty]
    exact guards_pure nofun
  · rw [if_neg empty]
    apply guards_activity_bind (guards_onCache (guard.cached? codec _))
    rintro (_ | value) fits
    · -- the cache is looked at once more before anything is made
      apply guards_activity_bind (guards_onCache (guard.cached? codec _))
      rintro (_ | value) fits
      · have generated : Guards (OfCache holds) (generate.onSource : Activity (Layered σ β) _).run
            fun answer => ∀ value, answer = .ok value → made value :=
          guards_onSource fun source answer answered value same =>
            makes source value (same ▸ answered)
        apply guards_activity_bind generated
        rintro (error | value) fits
        · exact guards_pure nofun
        · have wrote : Guards holds (front.store.populate codec (front.full key) value)
              fun _ => True :=
            guards_bind (guard.set _ _ _ (fine value (fits value rfl)))
              fun _ _ => guards_pure trivial
          apply guards_activity_bind (guards_onCache wrote)
          intro _ _
          apply guards_pure
          rintro fetched ⟨⟩
          exact .inl (fits value rfl)
      · apply guards_pure
        rintro fetched ⟨⟩
        exact .inr (fits value rfl)
    · apply guards_pure
      rintro fetched ⟨⟩
      exact .inr (fits value rfl)

/-- A lookup answers with what can be trusted or with what has been read, which has been written
then. -/
theorem lookup {made : α → Prop} {domain : String} {codec : Codec α} {key : String}
    {read : Answers σ α}
    (reads : ∀ source value, (read.run.outcome source).1 = .ok (.ok value) → made value)
    (fine : ∀ value, made value → harmless (front.full key) (codec.encode value)) :
    Guards (OfCache holds) (front.lookup domain codec key read).run fun answer =>
      ∀ value, answer = .ok value → made value ∨ ∃ payload, trusted (front.full key) payload ∧
        codec.decode payload = .ok value := by
  have noted (fetched : Fetched α) : Guards (OfCache holds)
      (front.note domain fetched.hit : Activity (Layered σ β) Unit).run fun _ => True := by
    unfold CacheFront.note
    split
    · exact fun state held => ⟨held, fun _ _ => trivial⟩
    · exact guards_pure trivial
  apply guards_activity_bind (guards_also (guard.fetch reads fine) fun fetched _ => noted fetched)
  rintro (error | fetched) fits
  · exact guards_pure nofun
  · apply guards_pure
    rintro value ⟨⟩
    exact fits fetched rfl

end Guard

/-- A payload under a complete key that shows no password: if the key is that of an account, the
payload is an account with an empty password. -/
def ShowsNoPassword (keyStart key : String) (payload : Payload) : Prop :=
  ∀ email, key = userKey keyStart email →
    ∃ account : Account, account.password = "" ∧ payload = Account.codec.encode account

/-- A redacted account shows no password. -/
theorem showsNoPassword_account {keyStart key : String} {account : Account}
    (redacted : account.password = "") :
    ShowsNoPassword keyStart key (Account.codec.encode account) :=
  fun _ _ => ⟨account, redacted, rfl⟩

/-- Nothing under the key of an article is taken for an account. -/
theorem showsNoPassword_article {keyStart slug : String} {payload : Payload} :
    ShowsNoPassword keyStart (articleKey keyStart slug) payload :=
  fun _ same => absurd same.symm userKey_ne_articleKey

section Operations

variable {front : CacheFront β} {holds : β → Prop} {trusted : String → Payload → Prop}
  (guard : Guard front.store.backend holds (ShowsNoPassword front.store.keyStart) trusted)

include guard

/-- A lookup of an account through the cache shows no password but one that it has found there. -/
theorem guards_find (email : String) :
    Guards (OfCache holds) ((accountRepository.cached front).find email).run fun answer =>
      ∀ account, answer = .ok account → account.password = "" ∨
        ∃ payload, trusted (userKey front.store.keyStart email) payload ∧
          Account.codec.decode payload = .ok account := by
  have reads (db : Database) (account : Account)
      (answered : ((accountRepository.findRedacted email).run.outcome db).1 = .ok (.ok account)) :
      account.password = "" := by
    have opened : ((accountRepository.findRedacted email).run.outcome db).1 =
        .ok (((findAccount email).run db).1.map Account.redacted) := rfl
    rw [opened] at answered
    cases found : ((findAccount email).run db).1 with
    | error error =>
      rw [found] at answered
      cases answered
    | ok account =>
      rw [found] at answered
      cases answered
      rfl
  exact guard.lookup reads fun account redacted => showsNoPassword_account redacted

/-- Keeping a copy of an account keeps what holds of the cache, since the copy is redacted. -/
theorem guards_keepAccount (account : Account) :
    Guards (OfCache holds)
      (AccountRepository.keepAccount front account : Activity (Layered Database β) Unit).run
      fun _ => True :=
  guard.keep (showsNoPassword_account rfl)

/-- No operation on accounts writes a password into the cache. -/
theorem AccountOperation.guards_cached (operation : AccountOperation) :
    Guards (OfCache holds) (operation.perform (accountRepository.cached front)).run
      fun _ => True := by
  cases operation with
  | save account =>
    exact guards_also (guards_source _) fun saved _ => guards_keepAccount guard saved
  | update email patch =>
    apply guards_also (guards_source _)
    intro _ _
    apply guards_activity_bind (guard.holds_run _)
    rintro (_ | _) _
    · exact guards_pure trivial
    · apply guards_activity_bind (guards_source _)
      rintro (error | account) _
      · exact guard.forget _
      · exact guards_keepAccount guard account
  | find email => exact (guards_find guard email).mono fun _ _ => trivial
  | findFresh email => exact guards_source _

/-- No operation on articles writes a password into the cache. -/
theorem ArticleOperation.guards_cached (tagBatch : Nat) (operation : ArticleOperation) :
    Guards (OfCache holds) (operation.perform ((articleRepository tagBatch).cached front)).run
      fun _ => True := by
  cases operation with
  | carryOut work =>
    rw [ArticleOperation.perform, ArticleRepository.cached_carryOut]
    apply guards_activity_bind (guards_source _)
    rintro ⟨error | done, record⟩ _
    · exact guards_pure trivial
    · exact guards_activity_bind (guard.invalidateAll _) fun _ _ => guards_pure trivial
  | save article =>
    exact guards_also (guards_source _) fun saved _ => guard.keep showsNoPassword_article
  | saveFresh article => exact guards_source _
  | find slug =>
    exact Guards.mono (guard.lookup (fun _ _ _ => True.intro) fun _ _ => showsNoPassword_article)
      fun _ _ => trivial
  | findFresh slug => exact guards_source _
  | list criteria => exact guards_source _
  | delete authorId slug => exact guards_also (guards_source _) fun _ _ => guard.invalidate _
  | saveComment slug comment => exact guards_source _
  | findComments slug => exact guards_source _
  | deleteComment authorId slug id => exact guards_source _
  | deleteComments authorId slug => exact guards_source _
  | deleteWithComments authorId slug =>
    exact guards_also (guards_source _) fun _ _ => guard.invalidate _

end Operations

end Gazette
