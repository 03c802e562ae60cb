import Mathlib.Data.List.Basic
import Gazette.Proofs.Flight.Alone
import Gazette.Proofs.Storage.Atomicity

/-!
# A faulty cache does no harm

Whatever the cache answers, an operation through it never fails for that.  What is written comes to
what it comes to without the cache.  A lookup gives a value that the cache has just shown under its
key, or what the repository behind it gives, which is asked once at most.
-/

set_option autoImplicit false

namespace Gazette

variable {σ β α : Type}

/-- Whether a repository answers every operation on accounts. -/
def AccountRepository.Answering (repository : AccountRepository σ) : Prop :=
  ∀ (operation : AccountOperation) (state : σ), ∃ answer after,
    (operation.perform repository).run.outcome state = (.ok answer, after)

/-- Whether a repository answers every operation on articles. -/
def ArticleRepository.Answering (repository : ArticleRepository σ) : Prop :=
  ∀ (operation : ArticleOperation) (state : σ), ∃ answer after,
    (operation.perform repository).run.outcome state = (.ok answer, after)

/-- Straight from the database every operation on accounts has an answer. -/
theorem Database.accounts_answering : accountRepository.Answering :=
  fun operation db => ⟨_, _, operation.outcome_effect db⟩

/-- Straight from the database every operation on articles has an answer. -/
theorem Database.articles_answering (tagBatch : Nat) : (articleRepository tagBatch).Answering :=
  fun operation db => ⟨_, _, operation.outcome_effect tagBatch db⟩

section Settling

variable {front : CacheFront β} {fit : β → Prop} (responds : front.store.Responds fit)
  {state : Layered σ β} (fits : fit state.cache) {written : String → Payload → Prop}
  {accounts : AccountRepository σ} {articles : ArticleRepository σ} {source between : σ}

include responds

/-- Keeping a copy of an account never fails. -/
theorem settles_keepAccount (fits : fit state.cache) (account : Account)
    (allowed : written (front.full (CacheKey.userByEmail account.email))
      (Account.codec.encode account.redacted)) :
    (AccountRepository.keepAccount front account).Settles front.store fit state () state.source
      written :=
  CacheFront.settles_keep responds userByEmail_ne_empty fits Account.codec account.redacted allowed

include fits

/-- Saving an account comes to what it comes to without the cache. -/
theorem settles_saveAccount {account : NewAccount} {result : Except StorageError Account}
    (ran : (accounts.save account).run.outcome state.source = (.ok result, source))
    (allowed : ∀ saved, result = .ok saved →
      written (front.full (CacheKey.userByEmail saved.email))
        (Account.codec.encode saved.redacted)) :
    ((accounts.cached front).save account).Settles front.store fit state result source written := by
  refine (Activity.Settles.onSource ran fits).also ?_
  intro saved done after same fits_after
  exact same ▸ settles_keepAccount responds fits_after saved (allowed saved done)

variable (state) in
/-- Bringing the copy of an account up to date never fails. -/
theorem settles_refresh {email : String} {found : Except StorageError Account}
    (reads : (accounts.find email).run.outcome state.source = (.ok found, source))
    (allowed : ∀ account, found = .ok account →
      written (front.full (CacheKey.userByEmail account.email))
        (Account.codec.encode account.redacted)) :
    ∃ last, (last = state.source ∨ last = source) ∧
      (accounts.refresh front email).Settles front.store fit state () last written := by
  obtain ⟨held, looked⟩ : ∃ held, (front.holds (CacheKey.userByEmail email)).Settles front.store fit
      state held state.source written :=
    CacheFront.settles_holds responds userByEmail_ne_empty fits
  cases held with
  | false =>
    refine ⟨state.source, .inl rfl, looked.bind ?_⟩
    exact fun after same fits_after => .pure fits_after same
  | true =>
    refine ⟨source, .inr rfl, looked.bind ?_⟩
    intro after same fits_after
    have reads_after : (accounts.find email).run.outcome after.source = (.ok found, source) := by
      rw [same]
      exact reads
    refine (Activity.Settles.onSource reads_after fits_after).bind ?_
    intro last same_last fits_last
    cases found with
    | ok account => exact same_last ▸ settles_keepAccount responds fits_last account (allowed _ rfl)
    | error error =>
      exact same_last ▸ CacheFront.settles_forget responds userByEmail_ne_empty fits_last

/-- Updating an account comes to what it comes to without the cache. -/
theorem settles_updateAccount {email : String} {patch : AccountPatch}
    {result : Except StorageError Unit} {found : Except StorageError Account}
    (ran : (accounts.update email patch).run.outcome state.source = (.ok result, between))
    (reads : (accounts.find email).run.outcome between = (.ok found, source))
    (allowed : ∀ account, result = .ok () → found = .ok account →
      written (front.full (CacheKey.userByEmail account.email))
        (Account.codec.encode account.redacted)) :
    ∃ last, (last = between ∨ last = source) ∧
      ((accounts.cached front).update email patch).Settles front.store fit state result last
        written := by
  cases result with
  | error error =>
    exact ⟨between, .inl rfl, (Activity.Settles.onSource ran fits).also_error⟩
  | ok done =>
    -- whether the account is read again depends on the cache, and so does the source in the end
    have begun : (accounts.update email patch).onSource.run.outcome state =
        (.ok (.ok done), { state with source := between }) := by
      rw [Activity.outcome_run_onSource, ran]
    obtain ⟨last, which, refreshed⟩ := settles_refresh responds
      { state with source := between } fits reads fun account => allowed account rfl
    obtain ⟨after, refreshed, same, served, fits_after⟩ := refreshed.outcome
    refine ⟨last, which, after, ?_, same, served, fits_after⟩
    refine (Activity.outcome_bind_of_ok begun).trans ?_
    exact Activity.outcome_bind_of_ok refreshed

/-- Saving an article comes to what it comes to without the cache. -/
theorem settles_saveArticle {article : NewArticle} {result : Except StorageError Article}
    (ran : (articles.save article).run.outcome state.source = (.ok result, source))
    (allowed : ∀ saved, result = .ok saved →
      written (front.full (CacheKey.articleBySlug saved.slug)) (Article.codec.encode saved)) :
    ((articles.cached front).save article).Settles front.store fit state result source written := by
  refine (Activity.Settles.onSource ran fits).also ?_
  intro saved done after same fits_after
  exact same ▸ CacheFront.settles_keep responds articleBySlug_ne_empty fits_after Article.codec saved
    (allowed saved done)

/-- Deleting an article, after which its copy is removed, comes to what it comes to without the
cache. -/
theorem settles_removal {removal : Answers σ α} {result : Except StorageError α}
    (ran : removal.run.outcome state.source = (.ok result, source)) (slug : String) :
    (removal.onSource.also fun _ => ArticleRepository.invalidateArticle front slug).Settles
      front.store fit state result source written := by
  refine (Activity.Settles.onSource ran fits).also ?_
  intro removed done after same fits_after
  exact same ▸ CacheFront.settles_invalidate responds articleBySlug_ne_empty fits_after

/-- A unit of work comes to what it comes to without the cache. -/
theorem settles_carryOut {work : Work} {answer : Except StorageError Unit × Option (List Performed)}
    (ran : (articles.carryOut work).run.outcome state.source = (.ok answer, source)) :
    ((articles.cached front).carryOut work).Settles front.store fit state answer source written := by
  rw [ArticleRepository.cached_carryOut]
  refine (Activity.Settles.onSource ran fits).bind ?_
  intro after same fits_after
  obtain ⟨outcome, record⟩ := answer
  cases outcome with
  | error error => exact .pure fits_after same
  | ok done =>
    have stale : (front.invalidateAll (staleKeys (record.getD []))).Settles front.store fit after
        PUnit.unit after.source written :=
      CacheFront.settles_invalidateAll responds fits_after _ fun _ => ne_empty_of_mem_staleKeys
    exact stale.bind fun last same_last fits_last => .pure fits_last (same_last.trans same)

end Settling

/-- What is always allowed to be written. -/
def anythingWritten : String → Payload → Prop :=
  fun _ _ => True

section Operations

variable {front : CacheFront β} {fit : β → Prop} (responds : front.store.Responds fit)
  {accounts : AccountRepository σ} {articles : ArticleRepository σ} {state : Layered σ β}
  (fits : fit state.cache)

include responds fits

/-- An operation on accounts through the cache answers what it answers without, unless it is a
lookup. -/
theorem AccountOperation.settles_cached (answering : accounts.Answering)
    (operation : AccountOperation) (other : ∀ email, operation ≠ .find email) :
    ∃ answer last, ((operation.perform accounts).run.outcome state.source).1 = .ok answer ∧
      (operation.perform (accounts.cached front)).Settles front.store fit state answer last
        anythingWritten := by
  obtain ⟨answer, source, ran⟩ := answering operation state.source
  have answered : ((operation.perform accounts).run.outcome state.source).1 = .ok answer := by
    rw [ran]
  cases operation with
  | save account =>
    exact ⟨answer, _, answered, settles_saveAccount responds fits ran fun _ _ => trivial⟩
  | update email patch =>
    obtain ⟨found, again, reads⟩ := answering (.find email) source
    obtain ⟨last, -, settles⟩ : ∃ last, (last = source ∨ last = again) ∧
        ((accounts.cached front).update email patch).Settles front.store fit state answer last
          anythingWritten :=
      settles_updateAccount responds fits ran reads fun _ _ _ => trivial
    exact ⟨answer, last, answered, settles⟩
  | find email => exact absurd rfl (other email)
  | findFresh email => exact ⟨answer, _, answered, Activity.Settles.onSource ran fits⟩

/-- An operation on articles through the cache answers what it answers without, unless it is a
lookup. -/
theorem ArticleOperation.settles_cached (answering : articles.Answering)
    (operation : ArticleOperation) (other : ∀ slug, operation ≠ .find slug) :
    ∃ answer last, ((operation.perform articles).run.outcome state.source).1 = .ok answer ∧
      (operation.perform (articles.cached front)).Settles front.store fit state answer last
        anythingWritten := by
  obtain ⟨answer, source, ran⟩ := answering operation state.source
  have answered : ((operation.perform articles).run.outcome state.source).1 = .ok answer := by
    rw [ran]
  have passed : (operation.perform articles).onSource.Settles front.store fit state answer source
      anythingWritten := Activity.Settles.onSource ran fits
  cases operation with
  | carryOut work => exact ⟨answer, _, answered, settles_carryOut responds fits ran⟩
  | save article =>
    exact ⟨answer, _, answered, settles_saveArticle responds fits ran fun _ _ => trivial⟩
  | find slug => exact absurd rfl (other slug)
  | delete authorId slug => exact ⟨answer, _, answered, settles_removal responds fits ran slug⟩
  | deleteWithComments authorId slug =>
    exact ⟨answer, _, answered, settles_removal responds fits ran slug⟩
  | _ => exact ⟨answer, _, answered, passed⟩

end Operations

/-- How a lookup through a cache goes: it fetches a value, which is noted.  If it fails for the
cache, then the repository behind it has failed so.  And it comes to what a caller comes to that
goes through a flight alone. -/
structure CacheFront.Looks (front : CacheFront β) (domain : String) (codec : Codec α) (key : String)
    (read : Answers σ α) (lookup : Answers (Layered σ β) α) (before : Layered σ β)
    (fetched : Except StorageError (Fetched α)) (between : Layered σ β) : Prop where
  fetches : front.store.Fetches codec (front.full key) read before fetched between
  outcome : lookup.run.outcome before =
    (.ok (fetched.map Fetched.value), front.noted domain fetched between)
  blameless {error : CacheError} : fetched = .error (.cache error) →
    (read.run.outcome before.source).1 = .ok (.error (.cache error))
  alone :
    let burst := front.store.burst before [⟨key, codec, read.run⟩]
    (front.store.alone burst.rank burst).EndsWith fetched between

/-- A lookup through a cache that may answer anything goes as it should. -/
theorem CacheFront.looks {front : CacheFront β} {fit : β → Prop}
    (responds : front.store.Responds fit) {key : String} (named : key ≠ "") (domain : String)
    (codec : Codec α) {read : Answers σ α} {state : Layered σ β} (fits : fit state.cache)
    (answers : ∃ result source, read.run.outcome state.source = (.ok result, source)) :
    ∃ fetched between, front.Looks domain codec key read (front.lookup domain codec key read) state
      fetched between ∧ fit between.cache := by
  have complete : front.store.fullKey key = .ok (front.full key) := CacheStore.fullKey_named named
  obtain ⟨fetched, between, ran, ended, still_fits⟩ :=
    CacheStore.fetches responds complete codec fits answers
  refine ⟨fetched, between, ⟨ended, CacheFront.outcome_lookup ran, ?_,
    CacheStore.alone_fetches complete ended⟩, still_fits⟩
  rintro error rfl
  cases ended with
  | failed _ _ _ _ failed => rw [failed]

/-- A call of the repositories. -/
inductive RepositoryCall where
  | account (operation : AccountOperation)
  | article (operation : ArticleOperation)

/-- The state after some calls, one after the other. -/
def RepositoryCall.serve (accounts : AccountRepository σ) (articles : ArticleRepository σ) (state : σ)
    (calls : List RepositoryCall) : σ :=
  calls.foldl (fun state call =>
    match call with
    | account operation => ((operation.perform accounts).run.outcome state).2
    | article operation => ((operation.perform articles).run.outcome state).2) state

section Run

variable {front : CacheFront β} {fit : β → Prop} (responds : front.store.Responds fit)
  {accounts : AccountRepository σ} {articles : ArticleRepository σ}
  (accounts_answer : accounts.Answering) (articles_answer : articles.Answering)
  {state : Layered σ β} (fits : fit state.cache)

/-- Noting a lookup leaves the cache alone. -/
theorem CacheFront.cache_noted (front : CacheFront β) (domain : String)
    (fetched : Except StorageError (Fetched α)) (state : Layered σ β) :
    (front.noted domain fetched state).cache = state.cache := by
  unfold CacheFront.noted
  split
  · split <;> rfl
  · rfl

/-- Noting a lookup leaves the source alone. -/
theorem CacheFront.source_noted (front : CacheFront β) (domain : String)
    (fetched : Except StorageError (Fetched α)) (state : Layered σ β) :
    (front.noted domain fetched state).source = state.source := by
  unfold CacheFront.noted
  split
  · split <;> rfl
  · rfl

include responds fits

include accounts_answer in
/-- A lookup of an account goes as it should. -/
theorem looks_findAccount (email : String) :
    ∃ fetched between, front.Looks CacheKey.userByEmailDomain Account.codec
      (CacheKey.userByEmail email) (accounts.findRedacted email) ((accounts.cached front).find email)
      state fetched between ∧ fit between.cache := by
  apply CacheFront.looks responds userByEmail_ne_empty _ _ fits
  obtain ⟨answer, source, ran⟩ := accounts_answer (.find email) state.source
  exact ⟨_, _, Activity.outcome_bind_of_ok ran⟩

include articles_answer in
/-- A lookup of an article goes as it should. -/
theorem looks_findArticle (slug : String) :
    ∃ fetched between, front.Looks CacheKey.articleBySlugDomain Article.codec
      (CacheKey.articleBySlug slug) (articles.find slug) ((articles.cached front).find slug)
      state fetched between ∧ fit between.cache :=
  CacheFront.looks responds articleBySlug_ne_empty _ _ fits
    (articles_answer (.find slug) state.source)

include accounts_answer articles_answer in
/-- The cache stays fit while calls are served. -/
theorem fit_serve (calls : List RepositoryCall) :
    fit (RepositoryCall.serve (accounts.cached front) (articles.cached front) state calls).cache := by
  induction calls generalizing state with
  | nil => exact fits
  | cons call calls ih =>
    apply ih
    have of_settles {α : Type} {activity : Activity (Layered σ β) α} {answer : α} {last : σ}
        (settles : activity.Settles front.store fit state answer last anythingWritten) :
        fit (activity.run.outcome state).2.cache := by
      obtain ⟨after, ran, -, -, fits_after⟩ := settles.outcome
      rw [ran]
      exact fits_after
    have of_looks {α : Type} {domain key : String} {codec : Codec α} {read : Answers σ α}
        {lookup : Answers (Layered σ β) α} (looked : ∃ fetched between,
          front.Looks domain codec key read lookup state fetched between ∧ fit between.cache) :
        fit (lookup.run.outcome state).2.cache := by
      obtain ⟨fetched, between, looks, fits_between⟩ := looked
      rw [looks.outcome, front.cache_noted]
      exact fits_between
    cases call with
    | account operation =>
      by_cases lookup : ∃ email, operation = .find email
      · obtain ⟨email, rfl⟩ := lookup
        exact of_looks (looks_findAccount responds accounts_answer fits email)
      · obtain ⟨answer, last, -, settles⟩ := operation.settles_cached responds fits accounts_answer
          fun email same => lookup ⟨email, same⟩
        exact of_settles settles
    | article operation =>
      by_cases lookup : ∃ slug, operation = .find slug
      · obtain ⟨slug, rfl⟩ := lookup
        exact of_looks (looks_findArticle responds articles_answer fits slug)
      · obtain ⟨answer, last, -, settles⟩ := operation.settles_cached responds fits articles_answer
          fun slug same => lookup ⟨slug, same⟩
        exact of_settles settles

end Run

/-- A faulty cache does no harm.  Whatever a cache answers to its calls, also after other operations,
everything but the two lookups answers what it answers without the cache.  A lookup gives a value
that the cache has shown under the key just now, or the answer of the repository behind it, without
the credential in the case of an account.  That repository is asked once, and only if neither of two
reads of the cache gives a value; its error is passed on, with nothing written or noted.  No lookup
fails for the cache, nor does the flight that it would lead without company. -/
theorem faulty_cache_harmless {front : CacheFront β} {fit : β → Prop}
    (responds : front.store.Responds fit) {accounts : AccountRepository σ}
    {articles : ArticleRepository σ} (accounts_answer : accounts.Answering)
    (articles_answer : articles.Answering) (start : Layered σ β) (fits : fit start.cache)
    (past : List RepositoryCall) :
    let before := RepositoryCall.serve (accounts.cached front) (articles.cached front) start past
    (∀ operation : AccountOperation, (∀ email, operation ≠ .find email) →
      ((operation.perform (accounts.cached front)).run.outcome before).1 =
        ((operation.perform accounts).run.outcome before.source).1) ∧
    (∀ operation : ArticleOperation, (∀ slug, operation ≠ .find slug) →
      ((operation.perform (articles.cached front)).run.outcome before).1 =
        ((operation.perform articles).run.outcome before.source).1) ∧
    (∀ email, ∃ fetched between, front.Looks CacheKey.userByEmailDomain Account.codec
      (CacheKey.userByEmail email) (accounts.findRedacted email) ((accounts.cached front).find email)
      before fetched between) ∧
    ∀ slug, ∃ fetched between, front.Looks CacheKey.articleBySlugDomain Article.codec
      (CacheKey.articleBySlug slug) (articles.find slug) ((articles.cached front).find slug)
      before fetched between := by
  intro before
  have fits_before : fit before.cache :=
    fit_serve responds accounts_answer articles_answer fits past
  refine ⟨?_, ?_, ?_, ?_⟩
  · intro operation other
    obtain ⟨answer, last, answered, settles⟩ :=
      operation.settles_cached responds fits_before accounts_answer other
    obtain ⟨after, ran, -⟩ := settles.outcome
    rw [ran, answered]
  · intro operation other
    obtain ⟨answer, last, answered, settles⟩ :=
      operation.settles_cached responds fits_before articles_answer other
    obtain ⟨after, ran, -⟩ := settles.outcome
    rw [ran, answered]
  · intro email
    obtain ⟨fetched, between, looks, -⟩ :=
      looks_findAccount responds accounts_answer fits_before email
    exact ⟨fetched, between, looks⟩
  · intro slug
    obtain ⟨fetched, between, looks, -⟩ :=
      looks_findArticle responds articles_answer fits_before slug
    exact ⟨fetched, between, looks⟩

namespace Sample

/-- What has been written down for a read, or nothing. -/
def scriptedPayload : List (Except CacheError CacheAnswer) → Except CacheError (Option Payload)
  | .ok (.payload found) :: _ => .ok found
  | .error error :: _ => .error error
  | _ => .ok none

/-- What has been written down for a look, or that there is no entry. -/
def scriptedPresence : List (Except CacheError CacheAnswer) → Except CacheError Bool
  | .ok (.presence found) :: _ => .ok found
  | .error error :: _ => .error error
  | _ => .ok false

/-- What has been written down for a write or a delete, or that it is done. -/
def scriptedDone : List (Except CacheError CacheAnswer) → Except CacheError Unit
  | .error error :: _ => .error error
  | _ => .ok ()

/-- A backend that answers what has been written down for it, whatever it is asked. -/
def scripted : Backend (List (Except CacheError CacheAnswer)) where
  get _ := Task.ofState fun script => (scriptedPayload script, script.tail)
  set _ _ _ := Task.ofState fun script => (scriptedDone script, script.tail)
  contains _ := Task.ofState fun script => (scriptedPresence script, script.tail)
  delete _ := Task.ofState fun script => (scriptedDone script, script.tail)

/-- A front before such a backend. -/
def faulty : CacheFront (List (Except CacheError CacheAnswer)) :=
  ⟨⟨scripted, "inkpress", Duration.second⟩, true⟩

/-- The backend of the sample answers every call, if only with an error. -/
theorem responds_faulty : faulty.store.Responds fun _ => True := by
  intro script call _ _
  cases call <;> exact ⟨_, rfl, trivial⟩

/-- A cache in front of an empty database that fails to write, then fails to read, and then shows
what is no account. -/
def troubled : Layered Database (List (Except CacheError CacheAnswer)) where
  source := database
  cache := [.error (.connectionFailed "down"), .error (.operationFailed "busy"),
    .ok (.payload (some [0])), .error (.connectionFailed "down")]

/-- The email of an account that has been found. -/
def emailOf : Except DeadlineOverflow (Except StorageError Account) → Option String
  | .ok (.ok account) => some account.email
  | _ => none

end Sample

/-- An account is saved and found through a cache that never does what it should. -/
theorem faulty_cache_harmless_troubled :
    let accounts := Database.accountRepository
    let articles := Database.articleRepository 100
    let before := RepositoryCall.serve (accounts.cached Sample.faulty) (articles.cached Sample.faulty)
      Sample.troubled [.account (.save ⟨"u", "u@x.com", "p", "", ""⟩)]
    before.cache.length = 3 ∧ accounts.Answering ∧ articles.Answering ∧
      Sample.faulty.store.Responds (fun _ => True) ∧
      (∃ fetched between, Sample.faulty.Looks CacheKey.userByEmailDomain Account.codec
        (CacheKey.userByEmail "u@x.com") (accounts.findRedacted "u@x.com")
        ((accounts.cached Sample.faulty).find "u@x.com") before fetched between) ∧
      Sample.emailOf (((accounts.cached Sample.faulty).find "u@x.com").run.outcome before).1 =
        some "u@x.com" := by
  intro accounts articles before
  obtain ⟨-, -, looks, -⟩ := faulty_cache_harmless Sample.responds_faulty
    Database.accounts_answering (Database.articles_answering 100) Sample.troubled trivial
    [.account (.save ⟨"u", "u@x.com", "p", "", ""⟩)]
  exact ⟨by decide +kernel, Database.accounts_answering, Database.articles_answering 100,
    Sample.responds_faulty, looks "u@x.com", by decide +kernel⟩

end Gazette
