import Mathlib.Data.List.Basic
import Gazette.Proofs.Outcome
import Gazette.Proofs.Storage.Works
import Gazette.Repositories

/-!
# Operations on the repositories

The operations that a caller can perform one after the other, on accounts and on articles, with
and without a cache.  Straight from the database each operation is a function of the database,
and it leaves all articles alone but those that it is reported to have deleted.
-/

set_option autoImplicit false

namespace Gazette

open Tables Session Database

/-- An operation on accounts. -/
inductive AccountOperation where
  | save (account : NewAccount)
  | update (email : String) (patch : AccountPatch)
  | find (email : String)
  | findFresh (email : String)

/-- An operation on articles, tags and comments. -/
inductive ArticleOperation where
  | carryOut (work : Work)
  | save (article : NewArticle)
  | saveFresh (article : NewArticle)
  | find (slug : String)
  | findFresh (slug : String)
  | list (criteria : ArticleCriteria)
  | delete (authorId : Int64) (slug : String)
  | saveComment (slug : String) (comment : NewComment)
  | findComments (slug : String)
  | deleteComment (authorId : Int64) (slug : String) (id : Int64)
  | deleteComments (authorId : Int64) (slug : String)
  | deleteWithComments (authorId : Int64) (slug : String)

variable {σ β : Type}

namespace CacheFront

variable (front : CacheFront β)

/-- Invalidates keys one after the other. -/
def invalidateAll : List String → Activity (Layered σ β) PUnit
  | [] => pure PUnit.unit
  | key :: keys => do
    front.invalidate key
    invalidateAll keys

/-- A loop that invalidates keys takes them one after the other. -/
theorem forIn_invalidate (keys : List String) :
    (forIn keys PUnit.unit fun key (_ : PUnit) => do
      front.invalidate key
      pure (ForInStep.yield PUnit.unit) : Activity (Layered σ β) PUnit) =
      front.invalidateAll keys := by
  induction keys with
  | nil => rfl
  | cons key keys ih =>
    rw [List.forIn_cons, invalidateAll, ← ih]
    exact Activity.bind_assoc _ _ _

/-- What is done about the cache after a unit of work: if it has succeeded, everything that it has
made stale is invalidated. -/
def afterWork : Except StorageError Unit × Option (List Performed) →
    Activity (Layered σ β) (Except StorageError Unit × Option (List Performed))
  | (.error error, record) => pure (.error error, record)
  | (.ok done, record) => do
    front.invalidateAll (staleKeys (record.getD []))
    pure (.ok done, record)

end CacheFront

/-- A unit of work through a cache is carried out without it, and the cache is seen to afterwards. -/
theorem ArticleRepository.cached_carryOut (inner : ArticleRepository σ) (front : CacheFront β)
    (work : Work) :
    (inner.cached front).carryOut work = (inner.carryOut work).onSource >>= front.afterWork := by
  refine congrArg ((inner.carryOut work).onSource >>= ·) (funext ?_)
  rintro ⟨error | done, record⟩
  · rfl
  · rw [CacheFront.afterWork, ← front.forIn_invalidate]

section CarryOut

variable {inner : ArticleRepository σ} {work : Work} {state : Layered σ β} {source : σ}
  {record : Option (List Performed)}

/-- A unit of work that fails through a cache fails as it does without, and leaves the cache and the
observations as they are. -/
theorem ArticleRepository.outcome_cached_carryOut_of_error (front : CacheFront β)
    {error : StorageError}
    (failed : (inner.carryOut work).run.outcome state.source = (.ok (.error error, record), source)) :
    ((inner.cached front).carryOut work).run.outcome state =
      (.ok (.error error, record), { state with source }) := by
  have begun : (inner.carryOut work).onSource.run.outcome state =
      (.ok (.error error, record), { state with source }) := by
    rw [Activity.outcome_run_onSource, failed]
  rw [cached_carryOut, Activity.outcome_bind_of_ok begun]
  rfl

/-- A unit of work that succeeds through a cache invalidates what it has made stale, and then
answers as it does without. -/
theorem ArticleRepository.outcome_cached_carryOut_of_ok (front : CacheFront β)
    (done : (inner.carryOut work).run.outcome state.source = (.ok (.ok (), record), source)) :
    let stale := front.invalidateAll (σ := σ) (staleKeys (record.getD []))
    ((inner.cached front).carryOut work).run.outcome state =
      ((stale.run.outcome { state with source }).1.map fun _ => (.ok (), record),
        (stale.run.outcome { state with source }).2) := by
  intro stale
  have begun : (inner.carryOut work).onSource.run.outcome state =
      (.ok (.ok (), record), { state with source }) := by
    rw [Activity.outcome_run_onSource, done]
  rw [cached_carryOut, Activity.outcome_bind_of_ok begun]
  exact Activity.outcome_bind_pure stale (fun _ => (Except.ok (), record)) { state with source }

end CarryOut

namespace AccountOperation

/-- What an operation answers. -/
abbrev Answer : AccountOperation → Type
  | save _ => Except StorageError Account
  | update _ _ => Except StorageError Unit
  | find _ => Except StorageError Account
  | findFresh _ => Except StorageError Account

/-- Performs an operation on a repository. -/
def perform (repository : AccountRepository σ) :
    (operation : AccountOperation) → Activity σ operation.Answer
  | save account => repository.save account
  | update email patch => repository.update email patch
  | find email => repository.find email
  | findFresh email => repository.findFresh email

/-- An operation on accounts straight from the database. -/
def effect : (operation : AccountOperation) → StateM Database operation.Answer
  | save account => (saveAccount account).run
  | update email patch => (updateAccount email patch).run
  | find email => (findAccount email).run
  | findFresh email => (findAccount email).run

end AccountOperation

namespace ArticleOperation

/-- What an operation answers. -/
abbrev Answer : ArticleOperation → Type
  | carryOut _ => Except StorageError Unit × Option (List Performed)
  | save _ => Except StorageError Article
  | saveFresh _ => Except StorageError Article
  | find _ => Except StorageError Article
  | findFresh _ => Except StorageError Article
  | list _ => Except StorageError Listing
  | delete _ _ => Except StorageError Unit
  | saveComment _ _ => Except StorageError Comment
  | findComments _ => Except StorageError (List Comment)
  | deleteComment _ _ _ => Except StorageError Unit
  | deleteComments _ _ => Except StorageError Nat
  | deleteWithComments _ _ => Except StorageError Nat

/-- Performs an operation on a repository. -/
def perform (repository : ArticleRepository σ) :
    (operation : ArticleOperation) → Activity σ operation.Answer
  | carryOut work => repository.carryOut work
  | save article => repository.save article
  | saveFresh article => repository.saveFresh article
  | find slug => repository.find slug
  | findFresh slug => repository.findFresh slug
  | list criteria => repository.list criteria
  | delete authorId slug => repository.delete authorId slug
  | saveComment slug comment => repository.saveComment slug comment
  | findComments slug => repository.findComments slug
  | deleteComment authorId slug id => repository.deleteComment authorId slug id
  | deleteComments authorId slug => repository.deleteComments authorId slug
  | deleteWithComments authorId slug => repository.deleteWithComments authorId slug

/-- An operation on articles straight from the database. -/
def effect (tagBatch : Nat) : (operation : ArticleOperation) → StateM Database operation.Answer
  | carryOut work => Database.carryOut tagBatch work
  | save article => (transaction (insertArticle article)).run
  | saveFresh article => (transaction (insertArticle article)).run
  | find slug => (findArticle slug).run
  | findFresh slug => (findArticle slug).run
  | list criteria => (listArticles tagBatch criteria).run
  | delete authorId slug => (transaction (removeArticle authorId slug)).run
  | saveComment slug comment => (Database.saveComment slug comment).run
  | findComments slug => (Database.findComments slug).run
  | deleteComment authorId slug id => (removeComment authorId slug id).run
  | deleteComments authorId slug => (removeComments authorId slug).run
  | deleteWithComments authorId slug => (removeWithComments authorId slug).run

/-- The slugs whose articles an operation has deleted, as its answer tells. -/
def retired : (operation : ArticleOperation) → operation.Answer → List String
  | carryOut _, answer => retiredByWork answer
  | delete _ slug, answer => removed slug answer
  | deleteWithComments _ slug, answer => removed slug answer
  | save _, _ => []
  | saveFresh _, _ => []
  | find _, _ => []
  | findFresh _, _ => []
  | list _, _ => []
  | saveComment _ _, _ => []
  | findComments _, _ => []
  | deleteComment _ _ _, _ => []
  | deleteComments _ _, _ => []

/-- Whether the units of work of an operation are not ended by one of their steps. -/
def Unbroken (tagBatch : Nat) (operation : ArticleOperation) (db : Database) : Prop :=
  ∀ work, operation = carryOut work → work.Unbroken tagBatch db

end ArticleOperation

namespace Session

variable {α : Type} {db : Database} {exempt : Except StorageError α → List String}
  {post : α → Tables → Prop} {session : Session Database α}

/-- A session outside of a unit of work leaves a database that is ready for the next one. -/
theorem Ended.ready {outcome : Except StorageError α × Database} (ready : db.Ready)
    (ended : Ended exempt post db outcome) :
    outcome.2.Ready ∧ Follows (exempt outcome.1) db.tables outcome.2.tables ∧
      ∀ value, outcome.1 = .ok value → post value outcome.2.tables := by
  cases ended with
  | lost _ opened _ _ =>
    rw [ready.closed] at opened
    cases opened
  | kept fine same_work sound follows stands =>
    exact ⟨⟨fine, sound, same_work.trans ready.closed⟩, follows, stands⟩

end Session

/-- Straight from the database an operation on articles always answers. -/
theorem ArticleOperation.outcome_effect (tagBatch : Nat) (operation : ArticleOperation)
    (db : Database) :
    (operation.perform (articleRepository tagBatch)).run.outcome db =
      (.ok (operation.effect tagBatch db).1, (operation.effect tagBatch db).2) := by
  cases operation <;> rfl

/-- Straight from the database an operation on accounts always answers. -/
theorem AccountOperation.outcome_effect (operation : AccountOperation) (db : Database) :
    (operation.perform accountRepository).run.outcome db =
      (.ok (operation.effect db).1, (operation.effect db).2) := by
  cases operation <;> rfl

/-- An operation on accounts leaves all articles alone. -/
theorem AccountOperation.follows_effect (operation : AccountOperation) {db : Database}
    (ready : db.Ready) :
    (operation.effect db).2.Ready ∧ Follows [] db.tables (operation.effect db).2.tables := by
  have alone {α : Type} {session : Session Database α} {post : α → Tables → Prop}
      (keeps : Keeps (fun _ => []) anyTables session post) :
      (session.run db).2.Ready ∧ Follows [] db.tables (session.run db).2.tables := by
    obtain ⟨next_ready, follows, -⟩ := (keeps db ready.toHealthy ready.sound trivial).ready ready
    exact ⟨next_ready, follows⟩
  cases operation with
  | save account => exact alone (keeps_saveAccount account)
  | update email patch => exact alone (keeps_updateAccount email patch)
  | find email => exact alone (keeps_findAccount email)
  | findFresh email => exact alone (keeps_findAccount email)

namespace ArticleOperation

/-- An operation on articles leaves the database ready for the next one, and unless its unit of
work has been ended by a step it leaves all articles alone but those that it has deleted. -/
theorem follows_effect (tagBatch : Nat) (operation : ArticleOperation) {db : Database}
    (ready : db.Ready) :
    (operation.effect tagBatch db).2.Ready ∧
      (operation.Unbroken tagBatch db →
        Follows (operation.retired (operation.effect tagBatch db).1) db.tables
          (operation.effect tagBatch db).2.tables) := by
  have settled {α : Type} {exempt : Except StorageError α → List String}
      {post : α → Tables → Prop} {outcome : Except StorageError α × Database}
      (ended : Ended exempt post db outcome) :
      outcome.2.Ready ∧ (operation.Unbroken tagBatch db →
        Follows (exempt outcome.1) db.tables outcome.2.tables) := by
    obtain ⟨next_ready, follows, -⟩ := ended.ready ready
    exact ⟨next_ready, fun _ => follows⟩
  have alone {α : Type} {session : Session Database α} {post : α → Tables → Prop}
      (keeps : Keeps (fun _ => []) anyTables session post) :=
    settled (keeps db ready.toHealthy ready.sound trivial)
  have whole {α : Type} {session : Session Database α} {post : α → Tables → Prop}
      {less exempt : Except StorageError α → List String} (keeps : Keeps less anyTables session post)
      (covered : ∀ value slug, slug ∈ less (.ok value) → slug ∈ exempt (.ok value)) :=
    settled (ended_transaction keeps ready.toHealthy ready.sound ready.closed covered)
  cases operation with
  | carryOut work =>
    obtain ⟨next_ready, follows⟩ := Database.follows_carryOut tagBatch work ready
    exact ⟨next_ready, fun unbroken => follows (unbroken work rfl)⟩
  | save article => exact whole (keeps_insertArticle article) fun _ _ there => there
  | saveFresh article => exact whole (keeps_insertArticle article) fun _ _ there => there
  | find slug => exact alone (keeps_findArticle slug)
  | findFresh slug => exact alone (keeps_findArticle slug)
  | list criteria => exact alone (keeps_listArticles tagBatch criteria)
  | delete authorId slug => exact whole (keeps_removeArticle authorId slug) fun _ _ there => there
  | saveComment slug comment => exact alone (keeps_saveComment slug comment)
  | findComments slug => exact alone (keeps_findComments slug)
  | deleteComment authorId slug id => exact alone (keeps_removeComment authorId slug id)
  | deleteComments authorId slug => exact alone (keeps_removeComments authorId slug)
  | deleteWithComments authorId slug =>
    exact whole (keeps_removeWithComments authorId slug) fun _ _ there => there

/-- A saved article is what the tables hold under its slug from then on. -/
theorem lookup_of_save {tagBatch : Nat} {article : NewArticle} {saved : Article} {db : Database}
    (ready : db.Ready) (done : ((save article).effect tagBatch db).1 = .ok saved) :
    ((save article).effect tagBatch db).2.tables.lookup saved.slug = .ok saved := by
  have ended : Ended (fun _ => []) (fun saved tables => tables.lookup article.slug = .ok saved) db
      ((transaction (insertArticle article)).run db) :=
    ended_transaction (keeps_insertArticle article) ready.toHealthy ready.sound ready.closed
      fun _ _ there => there
  obtain ⟨next_ready, -, stands⟩ := ended.ready ready
  have held := stands saved done
  rw [((lookup_eq_ok next_ready.sound).mp held).slug_eq]
  exact held

end ArticleOperation

end Gazette
