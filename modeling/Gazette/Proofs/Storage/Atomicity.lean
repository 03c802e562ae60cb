import Mathlib.Data.List.Basic
import Gazette.Proofs.Outcome
import Gazette.Proofs.Storage.Transactions

/-!
# Units of work are atomic

A unit of work adds nothing to its steps but that all of them happen or none does.  If its steps
would all succeed as calls of their own, the unit of work commits, with the same results and the
same database.  If it ends with an error, the tables are what they were.  The operations that need
several statements are units of work themselves, and leave no trace in the tables when they fail.
-/

set_option autoImplicit false

namespace Gazette

open Tables Session Database

/-- Performs a step as a call of its own. -/
def Step.issue (tagBatch : Nat) : (step : Step) → Answers Database step.Answer
  | .saveAccount account => accountRepository.save account
  | .updateAccount email patch => accountRepository.update email patch
  | .findAccount email => accountRepository.findFresh email
  | .saveArticle article => (articleRepository tagBatch).save article
  | .findArticle slug => (articleRepository tagBatch).find slug
  | .listArticles criteria => (articleRepository tagBatch).list criteria
  | .deleteArticle authorId slug => (articleRepository tagBatch).delete authorId slug
  | .saveComment slug comment => (articleRepository tagBatch).saveComment slug comment
  | .findComments slug => (articleRepository tagBatch).findComments slug
  | .deleteComment authorId slug id => (articleRepository tagBatch).deleteComment authorId slug id
  | .deleteComments authorId slug => (articleRepository tagBatch).deleteComments authorId slug

/-- Carries out a unit of work step by step, each step as a call of its own, and records the
steps. -/
def Work.separately (tagBatch : Nat) :
    Work → Activity Database (Except StorageError Unit × List Performed)
  | .finish outcome => .done (outcome, [])
  | .perform step next => do
    let result ← step.issue tagBatch
    let (outcome, record) ← (next result).separately tagBatch
    return (outcome, ⟨step, result⟩ :: record)

namespace Database

/-- A transaction that has succeeded would have gone in the same way as a part of a unit of work. -/
theorem transaction_elsewhere {α : Type} {changes : Tables → Tables → Prop}
    {session : Session Database α} (composed : Composed changes session) {db after : Database}
    {value : α} (ran : (transaction session).run db = (.ok value, after)) :
    after.beforeWork = none ∧ ∀ work, session.run { db with beforeWork := work } =
      (.ok value, { after with beforeWork := work }) := by
  rcases Bool.eq_false_or_eq_true db.locked with held | unlocked
  · obtain ⟨error, untouched⟩ := transaction_locked session held
    rw [untouched] at ran
    cases ran
  · cases inside : session.run { db with beforeWork := some db.tables } with
    | mk result last =>
      cases opened : last.beforeWork with
      | none =>
        obtain ⟨error, failed⟩ := transaction_ended unlocked inside opened
        rw [failed] at ran
        cases ran
      | some start =>
        cases result with
        | error cause =>
          rw [transaction_rollback unlocked inside opened] at ran
          cases ran
        | ok result =>
          rw [transaction_commit unlocked inside opened] at ran
          cases ran
          refine ⟨rfl, ?_⟩
          intro work
          exact (composed.elsewhere inside).2 work

end Database

/-- No more is told of the changes of a session than that there are some. -/
def anyChange (_before _after : Tables) : Prop :=
  True

/-- Every step of a unit of work is composed of statements. -/
theorem Step.composed_perform (tagBatch : Nat) (step : Step) :
    Composed anyChange (step.perform tagBatch) := by
  have same {α : Type} {session : Session Database α} (composed : Composed SameAccounts session) :
      Composed anyChange session := composed.mono fun _ _ _ => trivial
  have fewer {α : Type} {session : Session Database α} (composed : Composed Removes session) :
      Composed anyChange session := composed.mono fun _ _ _ => trivial
  have refl (tables : Tables) : anyChange tables tables := trivial
  cases step with
  | saveAccount account => exact composed_saveAccount refl account fun _ _ _ _ _ => trivial
  | updateAccount email patch => exact composed_updateAccount email patch fun _ _ _ _ _ _ => trivial
  | findAccount email => exact composed_findAccount refl email
  | saveArticle article => exact same (composed_insertArticle article)
  | findArticle slug => exact composed_findArticle refl slug
  | listArticles criteria => exact composed_listArticles refl tagBatch criteria
  | deleteArticle authorId slug => exact fewer (composed_removeArticle authorId slug)
  | saveComment slug comment => exact same (composed_saveComment slug comment)
  | findComments slug => exact composed_findComments refl slug
  | deleteComment authorId slug id => exact fewer (composed_removeComment authorId slug id)
  | deleteComments authorId slug => exact fewer (composed_removeComments authorId slug)

/-- A step that has succeeded as a call of its own would have gone in the same way as a part of a
unit of work. -/
theorem Step.perform_of_issue (tagBatch : Nat) (step : Step) {db after : Database}
    {value : step.Answer} (closed : db.beforeWork = none)
    (ran : (step.issue tagBatch).run.outcome db = (.ok (.ok value), after)) :
    after.beforeWork = none ∧ ∀ work, (step.perform tagBatch).run { db with beforeWork := work } =
      (.ok value, { after with beforeWork := work }) := by
  have composed := step.composed_perform tagBatch
  have alone (same : (step.issue tagBatch).run.outcome db =
      (.ok ((step.perform tagBatch).run db).1, ((step.perform tagBatch).run db).2)) :
      after.beforeWork = none ∧ ∀ work, (step.perform tagBatch).run { db with beforeWork := work } =
        (.ok value, { after with beforeWork := work }) := by
    have there : (step.perform tagBatch).run db = (.ok value, after) := by
      rw [same] at ran
      obtain ⟨answered, left⟩ := Prod.mk.inj ran
      exact Prod.ext (Except.ok.inj answered) left
    obtain ⟨same_work, elsewhere⟩ := composed.elsewhere there
    exact ⟨same_work.trans closed, elsewhere⟩
  have within (same : (step.issue tagBatch).run.outcome db =
      (.ok ((transaction (step.perform tagBatch)).run db).1,
        ((transaction (step.perform tagBatch)).run db).2)) :
      after.beforeWork = none ∧ ∀ work, (step.perform tagBatch).run { db with beforeWork := work } =
        (.ok value, { after with beforeWork := work }) := by
    have there : (transaction (step.perform tagBatch)).run db = (.ok value, after) := by
      rw [same] at ran
      obtain ⟨answered, left⟩ := Prod.mk.inj ran
      exact Prod.ext (Except.ok.inj answered) left
    exact transaction_elsewhere composed there
  cases step with
  | saveArticle article => exact within rfl
  | deleteArticle authorId slug => exact within rfl
  | saveAccount account => exact alone rfl
  | updateAccount email patch => exact alone rfl
  | findAccount email => exact alone rfl
  | findArticle slug => exact alone rfl
  | listArticles criteria => exact alone rfl
  | saveComment slug comment => exact alone rfl
  | findComments slug => exact alone rfl
  | deleteComment authorId slug id => exact alone rfl
  | deleteComments authorId slug => exact alone rfl

namespace Work

variable {tagBatch : Nat} {outcome : Except StorageError Unit} {record : List Performed}

/-- The steps of a unit of work that have all succeeded as calls of their own would have gone in
the same way inside of it. -/
theorem carryOut_of_separately (work : Work) {db after : Database} (closed : db.beforeWork = none)
    (ran : (work.separately tagBatch).run.outcome db = (.ok (outcome, record), after))
    (succeeded : ∀ performed ∈ record, performed.succeeded) :
    after.beforeWork = none ∧ ∀ start,
      work.carryOut tagBatch { db with beforeWork := start } =
        ((outcome, record), { after with beforeWork := start }) := by
  induction work generalizing db record with
  | finish result =>
    cases ran
    exact ⟨closed, fun _ => rfl⟩
  | perform step next ih =>
    rw [separately, Activity.run_bind_eq] at ran
    obtain ⟨result, between, issued, ran⟩ := Task.outcome_bind_eq_ok ran
    rw [Activity.run_bind_eq] at ran
    obtain ⟨⟨outcome, others⟩, last, went_on, ran⟩ := Task.outcome_bind_eq_ok ran
    cases ran
    cases result with
    | error error =>
      have never : (⟨step, .error error⟩ : Performed).succeeded :=
        succeeded _ List.mem_cons_self
      cases never
    | ok value =>
      obtain ⟨still_closed, performed⟩ := step.perform_of_issue tagBatch closed issued
      obtain ⟨closed_last, rest⟩ := ih (.ok value) still_closed went_on
        fun performed there => succeeded performed (List.mem_cons_of_mem _ there)
      exact ⟨closed_last, fun start => carryOut_perform (performed start) (rest start)⟩

/-- The steps of a unit of work change no circumstances, and the unit of work is either open at
their end or has been closed by one of them. -/
theorem alike_carryOut (tagBatch : Nat) (work : Work) (db : Database) :
    db.Alike (work.carryOut tagBatch db).2 ∧
      ((work.carryOut tagBatch db).2.beforeWork = none ∨
        (work.carryOut tagBatch db).2.beforeWork = db.beforeWork) := by
  have steps (step : Step) (db : Database) :
      Leaves (fun _ _ _ => True) db ((step.perform tagBatch).run db) :=
    ((step.composed_perform tagBatch).leaves (fun _ => trivial) (fun _ _ => trivial) db).mono
      fun _ _ _ _ => trivial
  obtain ⟨alike, closed | ⟨same, -⟩⟩ := @leaves_carryOut tagBatch (fun _ _ _ => True)
    (fun _ => trivial) (fun _ _ => trivial) steps work db
  · exact ⟨alike, .inl closed⟩
  · exact ⟨alike, .inr same⟩

end Work

/-- Whether a call that has failed has left no trace in the tables. -/
def LeavesNoTrace {α : Type} (call : Answers Database α) (db : Database) : Prop :=
  ∀ error after, call.run.outcome db = (.ok (.error error), after) → after.tables = db.tables

/-- An operation that is a transaction leaves no trace when it fails. -/
theorem leavesNoTrace_transaction {α : Type} {changes : Tables → Tables → Prop}
    {session : Session Database α} {db : Database} (composed : Composed changes session)
    (closed : db.beforeWork = none) : LeavesNoTrace (.ofTask (transaction session).task) db := by
  intro error after ran
  have whole := whole_transaction (fun _ => trivial) (fun _ _ => trivial)
    (composed.mono fun _ _ _ => (trivial : anyChange _ _)) closed
  obtain ⟨answered, left⟩ := Prod.mk.inj
    (ran : (Except.ok ((transaction session).run db).1, ((transaction session).run db).2) =
      (Except.ok (.error error), after))
  rw [← left]
  exact whole.failed (Except.ok.inj answered)

/-- Units of work are atomic and nothing else.  If all steps of a unit of work succeed as calls of
their own, the unit of work commits with the same record and the same database; if it ends with an
error, and has not been ended before by the engine, only the clock has been read.  Operations of
several statements leave no trace when they fail. -/
theorem units_of_work_atomic (tagBatch : Nat) (db : Database) (closed : db.beforeWork = none) :
    let repository := articleRepository tagBatch
    (∀ work record after, db.locked = false →
      (work.separately tagBatch).run.outcome db = (.ok (.ok (), record), after) →
      (∀ performed ∈ record, performed.succeeded) →
      (repository.carryOut work).run.outcome db = (.ok (.ok (), some record), after)) ∧
    (∀ work cause record inside, db.locked = false → work.Unbroken tagBatch db →
      work.carryOut tagBatch { db with beforeWork := some db.tables } =
        ((.error cause, record), inside) →
      (repository.carryOut work).run.outcome db =
        (.ok (.error (Work.abortion cause), some record),
          { db with readings := inside.readings })) ∧
    (∀ article, LeavesNoTrace (repository.save article) db) ∧
    (∀ authorId slug, LeavesNoTrace (repository.delete authorId slug) db) ∧
    ∀ authorId slug, LeavesNoTrace (repository.deleteWithComments authorId slug) db := by
  intro repository
  have through (work : Work) : (repository.carryOut work).run.outcome db =
      (.ok ((unitOfWork (work.carryOut tagBatch) db).1.1.mapError Work.abortion,
        (unitOfWork (work.carryOut tagBatch) db).1.2),
        (unitOfWork (work.carryOut tagBatch) db).2) := rfl
  refine ⟨?commits, ?undone, ?save, ?delete, ?deleteWithComments⟩
  case commits =>
    intro work record after unlocked ran succeeded
    obtain ⟨closed_after, inside⟩ := work.carryOut_of_separately closed ran succeeded
    rw [through, unitOfWork_commit unlocked (inside _) rfl]
    have same : { after with beforeWork := none } = after := by rw [← closed_after]
    rw [same]
    rfl
  case undone =>
    intro work cause record inside unlocked unbroken ran
    obtain ⟨alike, open_or_not⟩ :=
      work.alike_carryOut tagBatch { db with beforeWork := some db.tables }
    unfold Work.Unbroken at unbroken
    rw [ran] at unbroken alike open_or_not
    have opened := open_or_not.resolve_left unbroken
    have back : inside.undone = { db with readings := inside.readings } := by
      rw [undone, opened, ← closed, ← alike.triggers, ← alike.missing, ← alike.locked,
        ← alike.clock]
    rw [through, unitOfWork_rollback unlocked ran opened, back]
    rfl
  case save =>
    exact fun article => leavesNoTrace_transaction (composed_insertArticle article) closed
  case delete =>
    exact fun authorId slug =>
      leavesNoTrace_transaction (composed_removeArticle authorId slug) closed
  case deleteWithComments =>
    intro authorId slug
    have composed : Composed Removes
        (do
          removeArticle authorId slug
          removeComments authorId slug) :=
      .bind (composed_removeArticle authorId slug) fun _ => composed_removeComments authorId slug
    exact leavesNoTrace_transaction composed closed

namespace Sample

/-- An empty database whose clock stands still. -/
def database : Database where
  clock _ := ⟨⟨2023, 10, 31, by decide, by decide, by decide⟩,
    ⟨23, 58, 7, 250000000, by decide, by decide, by decide, by decide⟩⟩

/-- An account is opened and publishes an article, and then the work ends as told. -/
def publish (last : Except StorageError Unit) : Work :=
  .perform (.saveAccount ⟨"u", "u@x.com", "p", "", ""⟩) fun _ =>
    .perform (.saveArticle ⟨"hello-world", "Hello World", "b", 1, ["go"]⟩) fun _ => .finish last

/-- Whether the two steps have succeeded and an article has been published. -/
def published (answer : Except StorageError Unit × List Performed) (after : Database) : Bool :=
  answer.1.toBool && answer.2.all Performed.succeeded && answer.2.length == 2 &&
    after.tables.articles.length == 1

end Sample

/-- An author and an article are saved together, or neither of them is, and an article without an
author is not saved at all. -/
theorem units_of_work_atomic_publish :
    let repository := articleRepository 100
    (∃ record after, (repository.carryOut (Sample.publish (.ok ()))).run.outcome Sample.database =
        (.ok (.ok (), some record), after) ∧ Sample.published (.ok (), record) after) ∧
    (∃ record readings,
      (repository.carryOut (Sample.publish (.error (.invalidData "no")))).run.outcome
          Sample.database =
        (.ok (.error (.aborted (.invalidData "no")), some record),
          { Sample.database with readings })) ∧
    ∃ error after, (repository.save ⟨"hello-world", "Hello World", "b", 1, ["go"]⟩).run.outcome
        Sample.database = (.ok (.error error), after) ∧ after.tables = {} := by
  intro repository
  obtain ⟨commits, undone, save, -⟩ := units_of_work_atomic 100 Sample.database rfl
  refine ⟨?_, ?_, ?_⟩
  · have checked : ∃ record after,
        ((Sample.publish (.ok ())).separately 100).run.outcome Sample.database =
          (.ok (.ok (), record), after) ∧ Sample.published (.ok (), record) after := by
      exact ⟨_, _, rfl, by decide +kernel⟩
    obtain ⟨record, after, ran, there⟩ := checked
    refine ⟨record, after, commits _ _ _ rfl ran ?_, there⟩
    simp only [Sample.published, Bool.and_eq_true, List.all_eq_true] at there
    exact there.1.1.2
  · have unbroken : (Sample.publish (.error (.invalidData "no"))).Unbroken 100 Sample.database := by
      unfold Work.Unbroken
      decide +kernel
    exact ⟨_, _, undone _ _ _ _ rfl unbroken rfl⟩
  · have failed : ∃ error after,
        (repository.save ⟨"hello-world", "Hello World", "b", 1, ["go"]⟩).run.outcome
          Sample.database = (.ok (.error error), after) := ⟨_, _, rfl⟩
    obtain ⟨error, after, ran⟩ := failed
    exact ⟨error, after, ran, save _ error after ran⟩

end Gazette
