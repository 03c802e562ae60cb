import Gazette.Storage.Comments

/-!
# Units of work

A unit of work is a program over the steps below.  It decides after each step, from what
the step has answered, how to go on; so it may also swallow the error of a step.  All its
steps happen inside one transaction, and the record of the steps is kept for those who need
to know what has been touched.
-/

set_option autoImplicit false

namespace Gazette

/-- A step inside a unit of work. -/
inductive Step where
  | saveAccount (account : NewAccount)
  | updateAccount (email : String) (patch : AccountPatch)
  | findAccount (email : String)
  | saveArticle (article : NewArticle)
  | findArticle (slug : String)
  | listArticles (criteria : ArticleCriteria)
  | deleteArticle (authorId : Int64) (slug : String)
  | saveComment (slug : String) (comment : NewComment)
  | findComments (slug : String)
  | deleteComment (authorId : Int64) (slug : String) (id : Int64)
  | deleteComments (authorId : Int64) (slug : String)

/-- What a step answers when it succeeds. -/
abbrev Step.Answer : Step → Type
  | .saveAccount _ => Account
  | .updateAccount _ _ => Unit
  | .findAccount _ => Account
  | .saveArticle _ => Article
  | .findArticle _ => Article
  | .listArticles _ => Listing
  | .deleteArticle _ _ => Unit
  | .saveComment _ _ => Comment
  | .findComments _ => List Comment
  | .deleteComment _ _ _ => Unit
  | .deleteComments _ _ => Nat

/-- Performs a step in a unit of work that is already open. -/
def Step.perform (tagBatch : Nat) : (step : Step) → Session Database step.Answer
  | .saveAccount account => Database.saveAccount account
  | .updateAccount email patch => Database.updateAccount email patch
  | .findAccount email => Database.findAccount email
  | .saveArticle article => Database.insertArticle article
  | .findArticle slug => Database.findArticle slug
  | .listArticles criteria => Database.listArticles tagBatch criteria
  | .deleteArticle authorId slug => Database.removeArticle authorId slug
  | .saveComment slug comment => Database.saveComment slug comment
  | .findComments slug => Database.findComments slug
  | .deleteComment authorId slug id => Database.removeComment authorId slug id
  | .deleteComments authorId slug => Database.removeComments authorId slug

/-- A unit of work: it ends with an outcome, or performs a step and goes on from its result. -/
inductive Work where
  | finish (outcome : Except StorageError Unit)
  | perform (step : Step) (next : Except StorageError step.Answer → Work)

/-- A step that has been performed, with its result. -/
structure Performed where
  step : Step
  result : Except StorageError step.Answer

/-- Whether a performed step has succeeded. -/
def Performed.succeeded (performed : Performed) : Bool :=
  match performed.result with
  | .ok _ => true
  | .error _ => false

/-- A line of a unit of work that is written down in advance: a step, or an error to end with. -/
inductive Directive where
  | perform (step : Step)
  | fail (error : StorageError)

namespace Work

/-- Carries out a unit of work, and records its steps. -/
def carryOut (tagBatch : Nat) :
    Work → StateM Database (Except StorageError Unit × List Performed)
  | .finish outcome => fun db => ((outcome, []), db)
  | .perform step next => fun db =>
    let (result, after) := (step.perform tagBatch).run db
    let ((outcome, record), last) := (next result).carryOut tagBatch after
    ((outcome, ⟨step, result⟩ :: record), last)

/-- The error of a whole unit of work: what its steps have raised is wrapped. -/
def abortion : StorageError → StorageError
  | .transaction text => .transaction text
  | .rollbackFailed cause rollback => .rollbackFailed cause rollback
  | cause => .aborted cause

/-- The work that follows some directives in order and stops at the first error, except for the
errors of directives that are marked as tolerated. -/
def ofDirectives : List (Directive × Bool) → Work
  | [] => .finish (.ok ())
  | (.perform step, tolerated) :: rest =>
    .perform step fun
      | .ok _ => ofDirectives rest
      | .error error => if tolerated then ofDirectives rest else .finish (.error error)
  | (.fail error, tolerated) :: rest =>
    if tolerated then ofDirectives rest else .finish (.error error)

end Work

/-- Carries out a unit of work in a transaction.  The record is missing if the transaction
could not be started. -/
def Database.carryOut (tagBatch : Nat) (work : Work) :
    StateM Database (Except StorageError Unit × Option (List Performed)) := fun db =>
  let ((outcome, record), after) := unitOfWork (work.carryOut tagBatch) db
  ((outcome.mapError Work.abortion, record), after)

end Gazette
