import Mathlib.Data.List.Basic
import Gazette.Proofs.Storage.Redacted
import Gazette.Proofs.Storage.Transactions

/-!
# Operations that do not look at passwords

Every operation on a database does the same without the texts of passwords, in the database and in
what it is given.  So does a unit of work whose steps are written down in advance.  What is answered
differs in the passwords of accounts only.
-/

set_option autoImplicit false

namespace Gazette

open Tables Session Database

namespace Database

/-- Whether a session does and answers the same without passwords. -/
abbrev Blind {α : Type} (session : Session Database α) : Prop :=
  Mirrors Database.redacted id session session

/-- A lookup finds without passwords the account it finds with them, without its password. -/
theorem mirrors_findAccount (email : String) :
    Mirrors Database.redacted Account.redacted (findAccount email) (findAccount email) := by
  apply mirrors_query
  intro tables
  rw [filter_email_redacted]
  cases tables.accounts.filter fun row => row.email = .text email with
  | nil => rfl
  | cons row rows => exact account_redacted row

/-- Saving an account does without passwords what it does with them. -/
theorem mirrors_saveAccount (account : NewAccount) :
    Mirrors Database.redacted Account.redacted (saveAccount account)
      (saveAccount account.redacted) := by
  apply mirrors_bind mirrors_now
  intro stamp
  apply mirrors_bind (mirrors_execute fun _ _ => insertAccount_redacted account)
  exact fun _ => mirrors_findAccount account.email

/-- Updating an account does without passwords what it does with them. -/
theorem mirrors_updateAccount (email : String) (patch : AccountPatch) :
    Mirrors Database.redacted id (updateAccount email patch)
      (updateAccount email patch.redacted) := by
  apply mirrors_bind mirrors_now
  intro stamp
  apply mirrors_bind
  · exact mirrors_change fun _ _ => updateAccount_redacted email patch
  · intro changed
    dsimp only [id]
    split
    · exact mirrors_throw id _
    · exact mirrors_pure id _

/-- Asking for a tag does not look at passwords. -/
theorem blind_saveTag (name : String) : Blind (saveTag name) := by
  apply mirrors_bind (mirrors_execute fun _ _ => upsertTag_redacted name)
  exact fun _ => mirrors_read fun _ => rfl

/-- The lookup of an article does not look at passwords. -/
theorem blind_findArticle (slug : String) : Blind (findArticle slug) := by
  refine mirrors_bind (mirrors_read fun tables => ?_) fun article =>
    mirrors_bind (mirrors_read fun _ => rfl) fun tags => mirrors_pure id _
  rw [articleColumns?_redacted]
  rfl

/-- Saving an article does not look at passwords. -/
theorem blind_insertArticle (article : NewArticle) : Blind (insertArticle article) := by
  unfold insertArticle
  split
  · exact fun _ => rfl
  · refine mirrors_bind (mirrors_mapM blind_saveTag _) fun tags =>
      mirrors_bind mirrors_now fun stamp => mirrors_bind (mirrors_change ?_) fun id =>
        mirrors_bind (mirrors_forIn (fun tag => mirrors_execute ?_) _) fun _ =>
          blind_findArticle article.slug
    · exact fun _ _ => insertArticle_redacted article
    · exact fun _ _ => insertLink_redacted id tag.id

/-- Deleting an article does not look at passwords. -/
theorem blind_removeArticle (authorId : Int64) (slug : String) :
    Blind (removeArticle authorId slug) := by
  apply mirrors_bind mirrors_now
  intro stamp
  apply mirrors_bind
  · exact mirrors_change fun _ _ => tombstoneArticle_redacted authorId slug _
  · rintro (_ | id)
    · exact mirrors_throw _ _
    · exact mirrors_execute fun _ _ => deleteLinks_redacted id

/-- A listing does not look at passwords. -/
theorem blind_listArticles (tagBatch : Nat) (criteria : ArticleCriteria) :
    Blind (listArticles tagBatch criteria) := by
  have passes (tables : Tables) : tables.redacted.passes criteria = tables.passes criteria := by
    funext row
    unfold Tables.passes
    cases criteria.author with
    | none => rfl
    | some username =>
      have written : tables.redacted.writtenBy username row = tables.writtenBy username row :=
        any_redacted fun _ => rfl
      dsimp only
      rw [written]
      rfl
  have matching (tables : Tables) :
      tables.redacted.matchingIds criteria = tables.matchingIds criteria := by
    unfold Tables.matchingIds
    rw [passes]
    rfl
  refine mirrors_bind (mirrors_read fun tables => ?total) fun total =>
    mirrors_bind (mirrors_read fun tables => ?ids) fun ids => ?_
  case total => rw [matching]
  case ids => rw [matching]
  dsimp only [id]
  split
  · exact mirrors_pure id _
  · refine mirrors_bind (mirrors_read fun tables => ?bare) fun bare =>
      mirrors_bind (mirrors_mapM (fun batch => mirrors_read fun _ => rfl) _) fun links =>
        mirrors_pure id _
    case bare =>
      rw [articleColumns?_redacted]
      rfl

/-- Saving a comment does not look at passwords. -/
theorem blind_saveComment (slug : String) (comment : NewComment) :
    Blind (saveComment slug comment) := by
  apply mirrors_bind (mirrors_read fun _ => rfl)
  intro active
  dsimp only [id]
  split
  · exact fun _ => rfl
  · refine mirrors_bind mirrors_now fun stamp => mirrors_bind (mirrors_change ?_) fun id =>
      mirrors_read fun tables => ?_
    · exact fun _ _ => insertComment_redacted slug comment
    · rw [commentColumns?_redacted]
      rfl

/-- The lookup of comments does not look at passwords. -/
theorem blind_findComments (slug : String) : Blind (findComments slug) := by
  apply mirrors_read
  intro tables
  rw [commentColumns?_redacted]
  rfl

/-- Deleting a comment does not look at passwords. -/
theorem blind_removeComment (authorId : Int64) (slug : String) (commentId : Int64) :
    Blind (removeComment authorId slug commentId) := by
  apply mirrors_bind mirrors_now
  intro stamp
  apply mirrors_bind (mirrors_change fun _ _ => tombstoneComments_redacted _)
  intro removed
  dsimp only [id]
  split
  · exact mirrors_throw _ _
  · exact mirrors_pure _ _

/-- Deleting an author's comments does not look at passwords. -/
theorem blind_removeComments (authorId : Int64) (slug : String) :
    Blind (removeComments authorId slug) := by
  apply mirrors_bind mirrors_now
  intro stamp
  exact mirrors_change fun _ _ => tombstoneComments_redacted _

end Database

/-- A step without the text of a password. -/
def Step.redacted : Step → Step
  | .saveAccount account => .saveAccount account.redacted
  | .updateAccount email patch => .updateAccount email patch.redacted
  | .findAccount email => .findAccount email
  | .saveArticle article => .saveArticle article
  | .findArticle slug => .findArticle slug
  | .listArticles criteria => .listArticles criteria
  | .deleteArticle authorId slug => .deleteArticle authorId slug
  | .saveComment slug comment => .saveComment slug comment
  | .findComments slug => .findComments slug
  | .deleteComment authorId slug id => .deleteComment authorId slug id
  | .deleteComments authorId slug => .deleteComments authorId slug

/-- What a step answers, without passwords. -/
def Step.shown : (step : Step) → step.Answer → step.redacted.Answer
  | .saveAccount _, account => account.redacted
  | .updateAccount _ _, done => done
  | .findAccount _, account => account.redacted
  | .saveArticle _, article => article
  | .findArticle _, article => article
  | .listArticles _, listing => listing
  | .deleteArticle _ _, done => done
  | .saveComment _ _, comment => comment
  | .findComments _, comments => comments
  | .deleteComment _ _ _, done => done
  | .deleteComments _ _, count => count

/-- A step that has been performed, without passwords. -/
def Performed.redacted (performed : Performed) : Performed :=
  ⟨performed.step.redacted, performed.result.map performed.step.shown⟩

/-- A line of a unit of work without the text of a password. -/
def Directive.redacted : Directive → Directive
  | .perform step => .perform step.redacted
  | .fail error => .fail error

/-- The lines of a unit of work without the texts of passwords. -/
def redactedLines (lines : List (Directive × Bool)) : List (Directive × Bool) :=
  lines.map fun line => (line.1.redacted, line.2)

/-- A step does the same without passwords. -/
theorem Step.mirrors_perform (tagBatch : Nat) (step : Step) :
    Mirrors Database.redacted step.shown (step.perform tagBatch)
      (step.redacted.perform tagBatch) := by
  cases step with
  | saveAccount account => exact mirrors_saveAccount account
  | updateAccount email patch => exact mirrors_updateAccount email patch
  | findAccount email => exact mirrors_findAccount email
  | saveArticle article => exact blind_insertArticle article
  | findArticle slug => exact blind_findArticle slug
  | listArticles criteria => exact blind_listArticles tagBatch criteria
  | deleteArticle authorId slug => exact blind_removeArticle authorId slug
  | saveComment slug comment => exact blind_saveComment slug comment
  | findComments slug => exact blind_findComments slug
  | deleteComment authorId slug id => exact blind_removeComment authorId slug id
  | deleteComments authorId slug => exact blind_removeComments authorId slug

section UnitsOfWork

variable {α ρ τ υ : Type} {shown : α → τ} {reported : ρ → υ} {db : Database}

/-- A unit of work does the same without passwords if its body does. -/
theorem unitOfWork_redacted {body : StateM Database (Except StorageError α × ρ)}
    {mirror : StateM Database (Except StorageError τ × υ)}
    (same : ∀ inner : Database, mirror inner.redacted =
      (((body inner).1.1.map shown, reported (body inner).1.2), (body inner).2.redacted)) :
    Database.unitOfWork mirror db.redacted =
      (((Database.unitOfWork body db).1.1.map shown,
        (Database.unitOfWork body db).1.2.map reported),
        (Database.unitOfWork body db).2.redacted) := by
  have opened : ({ db.redacted with beforeWork := some db.redacted.tables } : Database) =
      Database.redacted { db with beforeWork := some db.tables } := rfl
  have locked : db.redacted.locked = db.locked := rfl
  unfold Database.unitOfWork
  rw [opened, same, locked]
  split
  · rfl
  · rcases body { db with beforeWork := some db.tables } with ⟨⟨result, report⟩, after⟩
    have work : after.redacted.beforeWork = after.beforeWork.map Tables.redacted := rfl
    cases result with
    | ok value =>
      dsimp only [Except.map]
      rw [work]
      cases after.beforeWork with
      | none => rfl
      | some start => rfl
    | error cause =>
      dsimp only [Except.map]
      rw [work, undone_redacted]
      cases after.beforeWork with
      | none => rfl
      | some start => rfl

/-- A transaction does the same without passwords if its session does. -/
theorem blind_transaction {session : Session Database α} (blind : Blind session) :
    Blind (Database.transaction session) := by
  intro db
  obtain ⟨body, reports, through⟩ := run_transaction session
  have same (inner : Database) : body inner.redacted =
      (((body inner).1.1.map id, id (body inner).1.2), (body inner).2.redacted) := by
    rw [reports, reports, blind inner]
  rw [through, through, unitOfWork_redacted same]

end UnitsOfWork

/-- The steps of a unit of work that is written down in advance do the same without passwords. -/
theorem Work.carryOut_redacted (tagBatch : Nat) (lines : List (Directive × Bool)) (db : Database) :
    (Work.ofDirectives (redactedLines lines)).carryOut tagBatch db.redacted =
      ((((Work.ofDirectives lines).carryOut tagBatch db).1.1,
        ((Work.ofDirectives lines).carryOut tagBatch db).1.2.map Performed.redacted),
        ((Work.ofDirectives lines).carryOut tagBatch db).2.redacted) := by
  induction lines generalizing db with
  | nil => rfl
  | cons line rest ih =>
    obtain ⟨directive, tolerated⟩ := line
    cases directive with
    | fail error =>
      cases tolerated with
      | true => exact ih db
      | false => rfl
    | perform step =>
      have stepped := step.mirrors_perform tagBatch db
      rcases ran : (step.perform tagBatch).run db with ⟨result, after⟩
      rw [ran] at stepped
      have mirrored := ih after
      rcases went_on : (Work.ofDirectives rest).carryOut tagBatch after with
        ⟨⟨outcome, record⟩, last⟩
      rw [went_on] at mirrored
      -- whether the rest follows depends on the kind of the result only
      cases result with
      | ok value =>
        have whole : (Work.ofDirectives ((.perform step, tolerated) :: rest)).carryOut tagBatch db =
            ((outcome, ⟨step, .ok value⟩ :: record), last) := Work.carryOut_perform ran went_on
        rw [whole]
        exact Work.carryOut_perform stepped mirrored
      | error error =>
        cases tolerated with
        | true =>
          have whole : (Work.ofDirectives ((.perform step, true) :: rest)).carryOut tagBatch db =
              ((outcome, ⟨step, .error error⟩ :: record), last) := Work.carryOut_perform ran went_on
          rw [whole]
          exact Work.carryOut_perform stepped mirrored
        | false =>
          have whole : (Work.ofDirectives ((.perform step, false) :: rest)).carryOut tagBatch db =
              ((.error error, [⟨step, .error error⟩]), after) := Work.carryOut_perform ran rfl
          rw [whole]
          exact Work.carryOut_perform stepped rfl

/-- A unit of work that is written down in advance does the same without passwords. -/
theorem Database.carryOut_redacted (tagBatch : Nat) (lines : List (Directive × Bool))
    (db : Database) :
    Database.carryOut tagBatch (.ofDirectives (redactedLines lines)) db.redacted =
      (((Database.carryOut tagBatch (.ofDirectives lines) db).1.1,
        (Database.carryOut tagBatch (.ofDirectives lines) db).1.2.map
          (List.map Performed.redacted)),
        (Database.carryOut tagBatch (.ofDirectives lines) db).2.redacted) := by
  have same (inner : Database) :
      (Work.ofDirectives (redactedLines lines)).carryOut tagBatch inner.redacted =
      ((((Work.ofDirectives lines).carryOut tagBatch inner).1.1.map id,
        ((Work.ofDirectives lines).carryOut tagBatch inner).1.2.map Performed.redacted),
        ((Work.ofDirectives lines).carryOut tagBatch inner).2.redacted) := by
    rw [Work.carryOut_redacted, Except.map_id]
    rfl
  unfold Database.carryOut
  rw [unitOfWork_redacted same, Except.map_id]
  rcases unitOfWork ((Work.ofDirectives lines).carryOut tagBatch) db with ⟨⟨outcome, record⟩, after⟩
  rfl

end Gazette
