import Mathlib.Data.List.Basic
import Gazette.Proofs.Cache.Changes
import Gazette.Proofs.Cached.Operations
import Gazette.Proofs.Storage.Holders

/-!
# What operations through a cache come to

An operation through a cache in memory leaves the database as the same operation without the cache
would, and answers the same unless it is a lookup that finds something in the cache.  In the cache
it clears the articles that it has deleted and the accounts that it has changed, and what it writes
is what the database holds, without credentials in the case of an account.
-/

set_option autoImplicit false

namespace Gazette

open Tables Session Database

/-- The complete key of an article. -/
def articleKey (keyStart slug : String) : String :=
  CacheKey.namespaced keyStart (CacheKey.articleBySlug slug)

/-- The complete key of an account. -/
def userKey (keyStart email : String) : String :=
  CacheKey.namespaced keyStart (CacheKey.userByEmail email)

section Keys

variable {start key other slug email : String}

/-- Different keys stay different behind the same start. -/
theorem namespaced_inj (h : CacheKey.namespaced start key = CacheKey.namespaced start other) :
    key = other := by
  have chars := congrArg String.toList h
  simp only [CacheKey.namespaced, String.toList_append] at chars
  exact String.toList_inj.mp (List.append_cancel_left chars)

/-- Different slugs have different keys. -/
theorem articleKey_inj (h : articleKey start slug = articleKey start other) : slug = other := by
  have chars := congrArg String.toList (namespaced_inj h)
  simp only [CacheKey.articleBySlug, String.toList_append] at chars
  exact String.toList_inj.mp (List.append_cancel_left chars)

/-- Different emails have different keys. -/
theorem userKey_inj (h : userKey start email = userKey start other) : email = other := by
  have chars := congrArg String.toList (namespaced_inj h)
  simp only [CacheKey.userByEmail, String.toList_append] at chars
  exact String.toList_inj.mp (List.append_cancel_left chars)

/-- An article and an account never share a key. -/
theorem userKey_ne_articleKey : userKey start email ≠ articleKey start slug := by
  intro same
  have chars := congrArg (fun text => text.toList.head?) (namespaced_inj same)
  simp [CacheKey.articleBySlug, CacheKey.userByEmail, CacheKey.articleBySlugDomain,
    CacheKey.userByEmailDomain] at chars

/-- No key of an article is empty. -/
theorem articleBySlug_ne_empty : CacheKey.articleBySlug slug ≠ "" := by
  simp [CacheKey.articleBySlug, CacheKey.articleBySlugDomain]

/-- No key of an account is empty. -/
theorem userByEmail_ne_empty : CacheKey.userByEmail email ≠ "" := by
  simp [CacheKey.userByEmail, CacheKey.userByEmailDomain]

end Keys

/-- What an operation through the cache answers, given what it answers without the cache. -/
def ArticleOperation.cachedAnswer (keyStart : String) (cache : TimedCache) :
    (operation : ArticleOperation) → operation.Answer → operation.Answer
  | .find slug, answer =>
    CacheFront.answered Article.codec (articleKey keyStart slug) cache answer
  | .carryOut _, answer => answer
  | .save _, answer => answer
  | .saveFresh _, answer => answer
  | .findFresh _, answer => answer
  | .list _, answer => answer
  | .delete _ _, answer => answer
  | .saveComment _ _, answer => answer
  | .findComments _, answer => answer
  | .deleteComment _ _ _, answer => answer
  | .deleteComments _ _, answer => answer
  | .deleteWithComments _ _, answer => answer

/-- What an operation on accounts answers when it may not show a credential. -/
def AccountOperation.redactedAnswer : (operation : AccountOperation) → operation.Answer →
    operation.Answer
  | .find _, answer => answer.map Account.redacted
  | .save _, answer => answer
  | .update _ _, answer => answer
  | .findFresh _, answer => answer

/-- What an operation on accounts through the cache answers, given what it answers without the
cache. -/
def AccountOperation.cachedAnswer (keyStart : String) (cache : TimedCache) :
    (operation : AccountOperation) → operation.Answer → operation.Answer
  | .find email, answer =>
    CacheFront.answered Account.codec (userKey keyStart email) cache (answer.map Account.redacted)
  | .save _, answer => answer
  | .update _ _, answer => answer
  | .findFresh _, answer => answer

/-- The emails under which an operation has changed an account, as its answer tells. -/
def AccountOperation.refreshed : (operation : AccountOperation) → operation.Answer → List String
  | .update email _, answer => if answer.toBool then [email] else []
  | .save _, _ => []
  | .find _, _ => []
  | .findFresh _, _ => []

/-- The emails under which an operation on articles has changed an account. -/
def ArticleOperation.refreshed : (operation : ArticleOperation) → operation.Answer → List String
  | .carryOut _, answer => refreshedByWork answer
  | .save _, _ => []
  | .saveFresh _, _ => []
  | .find _, _ => []
  | .findFresh _, _ => []
  | .list _, _ => []
  | .delete _ _, _ => []
  | .saveComment _ _, _ => []
  | .findComments _, _ => []
  | .deleteComment _ _ _, _ => []
  | .deleteComments _ _, _ => []
  | .deleteWithComments _ _, _ => []

variable {keyStart : String} {ttl : Duration} {observing : Bool}
  {state : Layered Database TimedCache}

/-- A payload that says what the database holds. -/
def TrueCopies (keyStart : String) (tables : Tables) (key : String) (payload : Payload) : Prop :=
  ∃ slug article, key = articleKey keyStart slug ∧ payload = Article.codec.encode article ∧
    tables.lookup slug = .ok article

/-- A payload that says, without the credential, what account the database holds. -/
def RedactedCopies (keyStart : String) (tables : Tables) (key : String) (payload : Payload) : Prop :=
  ∃ email account, key = userKey keyStart email ∧
    payload = Account.codec.encode account.redacted ∧ tables.holder email = .ok account

namespace CacheFront

/-- Invalidating keys one after the other. -/
theorem comes_invalidateAll (keyStart : String) (ttl : Duration) (observing : Bool)
    (keys : List String) (named : ∀ key ∈ keys, key ≠ "")
    (state : Layered Database TimedCache) :
    ((inMemory keyStart ttl observing).invalidateAll keys).Comes state PUnit.unit state.source
      (keys.map (CacheKey.namespaced keyStart)) nothingWritten := by
  induction keys generalizing state with
  | nil => exact Activity.Comes.pure PUnit.unit state
  | cons key keys ih =>
    have first : ((inMemory keyStart ttl observing).invalidate key).Comes state () state.source
        [CacheKey.namespaced keyStart key] nothingWritten :=
      comes_invalidate (named key List.mem_cons_self)
    have others : ∀ after : Layered Database TimedCache, after.source = state.source →
        ((inMemory keyStart ttl observing).invalidateAll keys).Comes after PUnit.unit state.source
          (keys.map (CacheKey.namespaced keyStart)) nothingWritten := by
      intro after same
      rw [← same]
      exact ih (fun key there => named key (List.mem_cons_of_mem _ there)) after
    refine (first.bind fun after same _ => others after same).weaken ?_
    intro key payload never
    exact never.elim id id

end CacheFront

/-- A key that is cleared after a success covers the name that counts as changed after one. -/
theorem cleared_of_success {α : Type} (key : String → String) (name : String)
    (result : Except StorageError α) :
    ∀ other ∈ (if result.toBool then [name] else []),
      key other ∈ clearedAfter (fun _ => [key name]) result := by
  intro other there
  cases result with
  | error error => cases there
  | ok value =>
    rw [List.mem_singleton.mp there]
    exact List.mem_singleton_self _

/-- No stale key is empty. -/
theorem ne_empty_of_mem_staleKeys {record : List Performed} {key : String}
    (there : key ∈ staleKeys record) : key ≠ "" := by
  rcases List.mem_append.mp there with article | user
  · obtain ⟨slug, -, rfl⟩ := List.mem_map.mp article
    exact articleBySlug_ne_empty
  · obtain ⟨email, -, rfl⟩ := List.mem_map.mp user
    exact userByEmail_ne_empty

/-- A unit of work through a cache clears the articles that it has deleted and the accounts that it
has updated, unless it has failed. -/
theorem comes_carryOut (keyStart : String) (ttl : Duration) (observing : Bool) (tagBatch : Nat)
    (work : Work) :
    ∃ cleared, (∀ slug ∈ retiredByWork (Database.carryOut tagBatch work state.source).1,
        articleKey keyStart slug ∈ cleared) ∧
      (∀ email ∈ refreshedByWork (Database.carryOut tagBatch work state.source).1,
        userKey keyStart email ∈ cleared) ∧
      (((articleRepository tagBatch).cached
        (CacheFront.inMemory keyStart ttl observing)).carryOut work).Comes state
        (Database.carryOut tagBatch work state.source).1
        (Database.carryOut tagBatch work state.source).2 cleared nothingWritten := by
  have begun := Activity.Comes.onSource
    ((ArticleOperation.carryOut work).outcome_effect tagBatch state.source)
  have same : (ArticleOperation.carryOut work).effect tagBatch state.source =
      Database.carryOut tagBatch work state.source := rfl
  rw [same] at begun
  rw [ArticleRepository.cached_carryOut]
  generalize Database.carryOut tagBatch work state.source = result at begun
  obtain ⟨⟨outcome, record⟩, source⟩ := result
  cases outcome with
  | error error =>
    exact ⟨[], by simp [retiredByWork, Except.toBool], by simp [refreshedByWork, Except.toBool],
      begun.bind_done rfl⟩
  | ok done =>
    refine ⟨(staleKeys (record.getD [])).map (CacheKey.namespaced keyStart), ?_, ?_, ?_⟩
    · intro slug there
      apply List.mem_map_of_mem
      apply List.mem_append_left
      exact List.mem_map_of_mem there
    · intro email there
      apply List.mem_map_of_mem
      apply List.mem_append_right
      exact List.mem_map_of_mem there
    · refine begun.bind_quiet ?_
      intro after same_source _
      have cleared := CacheFront.comes_invalidateAll keyStart ttl observing
        (staleKeys (record.getD [])) (fun _ => ne_empty_of_mem_staleKeys) after
      rw [same_source] at cleared
      exact cleared.bind_done rfl

/-- An operation on articles through a cache, told by the same operation without it. -/
theorem ArticleOperation.comes_cached (tagBatch : Nat) (operation : ArticleOperation)
    (ready : state.source.Ready)
    (fit : state.cache.Fit (CacheFront.inMemory keyStart ttl observing).store.entryTtl) :
    ∃ cleared, (∀ slug ∈ operation.retired (operation.effect tagBatch state.source).1,
        articleKey keyStart slug ∈ cleared) ∧
      (∀ email ∈ operation.refreshed (operation.effect tagBatch state.source).1,
        userKey keyStart email ∈ cleared) ∧
      (operation.perform ((articleRepository tagBatch).cached
        (CacheFront.inMemory keyStart ttl observing))).Comes state
        (operation.cachedAnswer keyStart state.cache (operation.effect tagBatch state.source).1)
        (operation.effect tagBatch state.source).2 cleared
        (TrueCopies keyStart (operation.effect tagBatch state.source).2.tables) := by
  have ran := operation.outcome_effect tagBatch state.source
  cases operation with
  | saveFresh article => exact ⟨[], nofun, nofun, (Activity.Comes.onSource ran).quiet⟩
  | findFresh slug => exact ⟨[], nofun, nofun, (Activity.Comes.onSource ran).quiet⟩
  | list criteria => exact ⟨[], nofun, nofun, (Activity.Comes.onSource ran).quiet⟩
  | saveComment slug comment => exact ⟨[], nofun, nofun, (Activity.Comes.onSource ran).quiet⟩
  | findComments slug => exact ⟨[], nofun, nofun, (Activity.Comes.onSource ran).quiet⟩
  | deleteComment authorId slug id => exact ⟨[], nofun, nofun, (Activity.Comes.onSource ran).quiet⟩
  | deleteComments authorId slug => exact ⟨[], nofun, nofun, (Activity.Comes.onSource ran).quiet⟩
  | carryOut work =>
    obtain ⟨cleared, gone, stale, comes⟩ := comes_carryOut keyStart ttl observing tagBatch work
    exact ⟨cleared, gone, stale, comes.quiet⟩
  | save article =>
    refine ⟨[], nofun, nofun, (Activity.Comes.onSource ran).also_uncleared ?_⟩
    intro saved done after same change
    refine (same ▸ CacheFront.comes_keep articleBySlug_ne_empty saved
      (fit.change change)).uncleared.weaken ?_
    rintro key payload ⟨rfl, rfl⟩
    exact ⟨saved.slug, saved, rfl, rfl, lookup_of_save ready done⟩
  | find slug =>
    have found : (find slug).effect tagBatch state.source =
        (state.source.tables.lookup slug, state.source) := run_findArticle ready.toHealthy slug
    rw [found] at ran ⊢
    refine ⟨[], nofun, nofun, ?_⟩
    refine (CacheFront.comes_lookup Article.codec articleBySlug_ne_empty _ fit ran).weaken ?_
    rintro key payload ⟨rfl, article, held, rfl⟩
    exact ⟨slug, article, rfl, rfl, held⟩
  | delete authorId slug =>
    refine ⟨_, ?_, nofun, (Activity.Comes.onSource ran).also (fun _ => [articleKey keyStart slug]) ?_⟩
    · exact cleared_of_success (articleKey keyStart) slug _
    · intro removed done after same change
      exact (same ▸ CacheFront.comes_invalidate articleBySlug_ne_empty).quiet
  | deleteWithComments authorId slug =>
    refine ⟨_, ?_, nofun, (Activity.Comes.onSource ran).also (fun _ => [articleKey keyStart slug]) ?_⟩
    · exact cleared_of_success (articleKey keyStart) slug _
    · intro removed done after same change
      exact (same ▸ CacheFront.comes_invalidate articleBySlug_ne_empty).quiet

/-- Keeping an account that the tables hold writes a redacted copy in place of what was there. -/
theorem comes_keepAccount {tables : Tables} {email : String} {account : Account}
    (held : tables.holder email = .ok account)
    (fit : state.cache.Fit (CacheFront.inMemory keyStart ttl observing).store.entryTtl) :
    (AccountRepository.keepAccount (CacheFront.inMemory keyStart ttl observing) account).Comes state
      () state.source [userKey keyStart email] (RedactedCopies keyStart tables) := by
  rw [← email_of_holder held]
  refine (CacheFront.comes_keep userByEmail_ne_empty account.redacted fit).weaken ?_
  rintro key payload ⟨rfl, rfl⟩
  exact ⟨account.email, account, rfl, rfl, (email_of_holder held).symm ▸ held⟩

/-- Bringing the cached copy of an account up to date clears the one that was there. -/
theorem comes_refresh {email : String} (healthy : state.source.Healthy)
    (fit : state.cache.Fit (CacheFront.inMemory keyStart ttl observing).store.entryTtl) :
    (accountRepository.refresh (CacheFront.inMemory keyStart ttl observing) email).Comes state ()
      state.source [userKey keyStart email] (RedactedCopies keyStart state.source.tables) := by
  have looked : ((CacheFront.inMemory keyStart ttl observing).holds
      (CacheKey.userByEmail email)).Comes state _ state.source [] nothingWritten :=
    CacheFront.comes_holds userByEmail_ne_empty
  unfold AccountRepository.refresh
  refine looked.bind_quiet ?_
  intro after same change
  cases shown : state.cache.live? (CacheKey.namespaced keyStart (CacheKey.userByEmail email)) with
  | none =>
    obtain ⟨last, ran, same_last, still⟩ := (Activity.Comes.pure () after).outcome
    apply Activity.Comes.quiet
    exact ⟨last, ran, same_last.trans same, still.of_absent (change.absent shown)⟩
  | some payload =>
    -- the copy is written anew, or removed if the account cannot be read
    have reads : (accountRepository.find email).onSource.Comes after
        (state.source.tables.holder email) state.source [] nothingWritten := by
      apply Activity.Comes.onSource
      have ran : (accountRepository.find email).run.outcome after.source =
          (.ok ((findAccount email).run after.source).1, ((findAccount email).run after.source).2) :=
        rfl
      rw [ran, same, findAccount_eq healthy]
    refine reads.bind_quiet ?_
    intro last same_last change_last
    cases held : state.source.tables.holder email with
    | ok account =>
      have kept := comes_keepAccount held ((fit.change change).change change_last)
      rw [same_last] at kept
      exact kept
    | error error =>
      exact (same_last ▸ CacheFront.comes_forget userByEmail_ne_empty).quiet

/-- An operation on accounts through a cache, told by the same operation without it. -/
theorem AccountOperation.comes_cached (operation : AccountOperation)
    (healthy : state.source.Healthy)
    (fit : state.cache.Fit (CacheFront.inMemory keyStart ttl observing).store.entryTtl) :
    ∃ cleared, (∀ email ∈ operation.refreshed (operation.effect state.source).1,
        userKey keyStart email ∈ cleared) ∧
      (operation.perform (accountRepository.cached
        (CacheFront.inMemory keyStart ttl observing))).Comes state
        (operation.cachedAnswer keyStart state.cache (operation.effect state.source).1)
        (operation.effect state.source).2 cleared
        (RedactedCopies keyStart (operation.effect state.source).2.tables) := by
  have ran := operation.outcome_effect state.source
  cases operation with
  | save account =>
    refine ⟨[], nofun, (Activity.Comes.onSource ran).also_uncleared ?_⟩
    intro saved done after same change
    exact (same ▸ comes_keepAccount (holder_of_save (Prod.ext done rfl)) (fit.change change)).uncleared
  | update email patch =>
    refine ⟨_, ?_, (Activity.Comes.onSource ran).also (fun _ => [userKey keyStart email]) ?_⟩
    · exact cleared_of_success (userKey keyStart) email _
    · intro saved done after same change
      have still_healthy : after.source.Healthy := by
        rw [same]
        exact (leaves_updateAccount email patch state.source).alike.healthy healthy
      rw [← same]
      exact comes_refresh still_healthy (fit.change change)
  | find email =>
    have same : (find email).effect state.source =
        (state.source.tables.holder email, state.source) := findAccount_eq healthy email
    have reads : (accountRepository.findRedacted email).run.outcome state.source =
        (.ok ((state.source.tables.holder email).map Account.redacted), state.source) := by
      rw [same] at ran
      exact Task.outcome_bind_of_ok ran
    rw [same]
    refine ⟨[], nofun, ?_⟩
    refine (CacheFront.comes_lookup Account.codec userByEmail_ne_empty _ fit reads).weaken ?_
    rintro key payload ⟨rfl, copy, found, rfl⟩
    cases held : state.source.tables.holder email with
    | error error =>
      rw [held] at found
      cases found
    | ok account =>
      rw [held] at found
      cases found
      exact ⟨email, account, rfl, rfl, held⟩
  | findFresh email => exact ⟨[], nofun, (Activity.Comes.onSource ran).quiet⟩

end Gazette
