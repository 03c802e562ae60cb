import Gazette.Layered
import Gazette.Storage.Work

/-!
# Repositories

What a caller sees of the storage: one set of operations for accounts and one for articles,
with their tags and comments.  Whether the answers come straight from the database or through
a cache cannot be told from these types.  An operation that is marked fresh never goes through
a cache.
-/

set_option autoImplicit false

namespace Gazette

/-- An activity that answers with a value or a storage error. -/
abbrev Answers (σ α : Type) := Activity σ (Except StorageError α)

/-- The operations on accounts. -/
structure AccountRepository (σ : Type) where
  save : NewAccount → Answers σ Account
  update : String → AccountPatch → Answers σ Unit
  find : String → Answers σ Account
  findFresh : String → Answers σ Account

/-- The operations on articles, tags and comments.  A unit of work answers with its outcome and,
unless it could not be started, with the record of its steps. -/
structure ArticleRepository (σ : Type) where
  carryOut : Work → Activity σ (Except StorageError Unit × Option (List Performed))
  save : NewArticle → Answers σ Article
  saveFresh : NewArticle → Answers σ Article
  find : String → Answers σ Article
  findFresh : String → Answers σ Article
  list : ArticleCriteria → Answers σ Listing
  delete : Int64 → String → Answers σ Unit
  saveComment : String → NewComment → Answers σ Comment
  findComments : String → Answers σ (List Comment)
  deleteComment : Int64 → String → Int64 → Answers σ Unit
  deleteComments : Int64 → String → Answers σ Nat
  deleteWithComments : Int64 → String → Answers σ Nat

namespace Database

/-- The number of articles whose tags are read at once when the settings do not say. -/
def defaultTagBatch : Nat := 100

/-- The operations on accounts, straight from the database. -/
def accountRepository : AccountRepository Database where
  save account := .ofTask (saveAccount account).task
  update email patch := .ofTask (updateAccount email patch).task
  find email := .ofTask (findAccount email).task
  findFresh email := .ofTask (findAccount email).task

/-- Deletes an article together with its author's comments on it, as one unit of work, and
tells how many comments there were. -/
def removeWithComments (authorId : Int64) (slug : String) : Session Database Nat :=
  transaction do
    removeArticle authorId slug
    removeComments authorId slug

/-- The operations on articles, straight from the database.  The tags of a listing are read for
`tagBatch` articles at a time. -/
def articleRepository (tagBatch : Nat) : ArticleRepository Database where
  carryOut work := .ofTask (Task.ofState (carryOut tagBatch work))
  save article := .ofTask (transaction (insertArticle article)).task
  saveFresh article := .ofTask (transaction (insertArticle article)).task
  find slug := .ofTask (findArticle slug).task
  findFresh slug := .ofTask (findArticle slug).task
  list criteria := .ofTask (listArticles tagBatch criteria).task
  delete authorId slug := .ofTask (transaction (removeArticle authorId slug)).task
  saveComment slug comment := .ofTask (saveComment slug comment).task
  findComments slug := .ofTask (findComments slug).task
  deleteComment authorId slug id := .ofTask (removeComment authorId slug id).task
  deleteComments authorId slug := .ofTask (removeComments authorId slug).task
  deleteWithComments authorId slug := .ofTask (removeWithComments authorId slug).task

end Database

namespace AccountRepository

/-- The same operations with a cache standing by unused. -/
def onSource {σ β : Type} (inner : AccountRepository σ) : AccountRepository (Layered σ β) where
  save account := (inner.save account).onSource
  update email patch := (inner.update email patch).onSource
  find email := (inner.find email).onSource
  findFresh email := (inner.findFresh email).onSource

end AccountRepository

namespace ArticleRepository

/-- The operations on articles when all of them fail with an error. -/
def unavailable {σ : Type} (error : StorageError) : ArticleRepository σ where
  carryOut _ := .done (.error error, none)
  save _ := .done (.error error)
  saveFresh _ := .done (.error error)
  find _ := .done (.error error)
  findFresh _ := .done (.error error)
  list _ := .done (.error error)
  delete _ _ := .done (.error error)
  saveComment _ _ := .done (.error error)
  findComments _ := .done (.error error)
  deleteComment _ _ _ := .done (.error error)
  deleteComments _ _ := .done (.error error)
  deleteWithComments _ _ := .done (.error error)

/-- The same operations with a cache standing by unused. -/
def onSource {σ β : Type} (inner : ArticleRepository σ) : ArticleRepository (Layered σ β) where
  carryOut work := (inner.carryOut work).onSource
  save article := (inner.save article).onSource
  saveFresh article := (inner.saveFresh article).onSource
  find slug := (inner.find slug).onSource
  findFresh slug := (inner.findFresh slug).onSource
  list criteria := (inner.list criteria).onSource
  delete authorId slug := (inner.delete authorId slug).onSource
  saveComment slug comment := (inner.saveComment slug comment).onSource
  findComments slug := (inner.findComments slug).onSource
  deleteComment authorId slug id := (inner.deleteComment authorId slug id).onSource
  deleteComments authorId slug := (inner.deleteComments authorId slug).onSource
  deleteWithComments authorId slug :=
    (inner.deleteWithComments authorId slug).onSource

end ArticleRepository

end Gazette
