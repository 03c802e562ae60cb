import Mathlib.Data.List.Basic
import Gazette.Cached.Articles
import Gazette.Proofs.Storage.Sessions

/-!
# What units of work leave of the articles

A unit of work decides after each step how to go on, so nothing can be said about the order of its
steps.  But each step leaves the articles alone, except for those that the record of the unit of
work reports as deleted, as long as no step ends the unit of work.
-/

set_option autoImplicit false

namespace Gazette

open Tables Session Database

/-- The record of a unit of work reports the articles that each step has deleted. -/
theorem deletedSlugs_cons (performed : Performed) (record : List Performed) :
    deletedSlugs (performed :: record) = deletedSlugs [performed] ++ deletedSlugs record := by
  unfold deletedSlugs
  rw [← List.filterMap_append]
  rfl

/-- A step leaves all articles alone but the one that it is reported to have deleted. -/
theorem Step.keeps_perform (tagBatch : Nat) (step : Step) :
    Keeps (fun result => deletedSlugs [⟨step, result⟩]) anyTables (step.perform tagBatch)
      fun _ => anyTables := by
  cases step with
  | saveAccount account => exact keeps_saveAccount account
  | updateAccount email patch => exact keeps_updateAccount email patch
  | findAccount email => exact keeps_findAccount email
  | saveArticle article =>
    exact (keeps_insertArticle article).mono (fun _ given => given) (fun _ _ there => there)
      fun _ _ _ => trivial
  | findArticle slug =>
    exact (keeps_findArticle slug).mono (fun _ given => given) (fun _ _ there => there)
      fun _ _ _ => trivial
  | listArticles criteria => exact keeps_listArticles tagBatch criteria
  | deleteArticle authorId slug =>
    have reported : (fun result => deletedSlugs [⟨.deleteArticle authorId slug, result⟩]) =
        removed slug := by
      funext result
      cases result <;> rfl
    rw [reported]
    exact keeps_removeArticle authorId slug
  | saveComment slug comment => exact keeps_saveComment slug comment
  | findComments slug => exact keeps_findComments slug
  | deleteComment authorId slug id => exact keeps_removeComment authorId slug id
  | deleteComments authorId slug => exact keeps_removeComments authorId slug

/-- The steps of a unit of work, one after the other, leave tables that are sound.  Unless one of
them ends the unit of work, the articles that are not reported as deleted are left alone. -/
theorem Work.follows_carryOut (tagBatch : Nat) (work : Work) {db : Database} (healthy : db.Healthy)
    (sound : db.tables.Sound) (start_sound : ∀ start, db.beforeWork = some start → start.Sound) :
    ((work.carryOut tagBatch db).2).Healthy ∧ (work.carryOut tagBatch db).2.tables.Sound ∧
      ((work.carryOut tagBatch db).2.beforeWork = none ∨
        (work.carryOut tagBatch db).2.beforeWork = db.beforeWork ∧
        Follows (deletedSlugs (work.carryOut tagBatch db).1.2) db.tables
          (work.carryOut tagBatch db).2.tables) := by
  induction work generalizing db with
  | finish outcome => exact ⟨healthy, sound, .inr ⟨rfl, Follows.refl _ _⟩⟩
  | perform step next ih =>
    have ended := step.keeps_perform tagBatch db healthy sound trivial
    have ran : (Work.perform step next).carryOut tagBatch db =
        ((((next ((step.perform tagBatch).run db).1).carryOut tagBatch
            ((step.perform tagBatch).run db).2).1.1,
          ⟨step, ((step.perform tagBatch).run db).1⟩ ::
            ((next ((step.perform tagBatch).run db).1).carryOut tagBatch
              ((step.perform tagBatch).run db).2).1.2),
          ((next ((step.perform tagBatch).run db).1).carryOut tagBatch
            ((step.perform tagBatch).run db).2).2) := rfl
    rw [ran]
    generalize (step.perform tagBatch).run db = outcome at ended
    cases ended with
    | @lost error after start fine work gone back =>
      -- the later steps take effect on their own and cannot open the unit of work again
      obtain ⟨last_fine, last_sound, rest⟩ := ih (.error error) fine (back ▸ start_sound start work)
        fun start opened => by rw [gone] at opened; cases opened
      refine ⟨last_fine, last_sound, .inl ?_⟩
      rcases rest with closed | ⟨same_work, -⟩
      · exact closed
      · exact same_work.trans gone
    | @kept result after fine same_work still_sound follows _ =>
      obtain ⟨last_fine, last_sound, rest⟩ := ih result fine still_sound (same_work ▸ start_sound)
      refine ⟨last_fine, last_sound, ?_⟩
      rcases rest with closed | ⟨work_last, follows_last⟩
      · exact .inl closed
      · refine .inr ⟨work_last.trans same_work, ?_⟩
        rw [deletedSlugs_cons]
        apply Follows.trans
        · exact follows.mono fun slug there => List.mem_append_left _ there
        · exact follows_last.mono fun slug there => List.mem_append_right _ there

/-- A database between two operations: healthy, with sound tables and no unit of work open. -/
structure Database.Ready (db : Database) : Prop extends db.Healthy where
  sound : db.tables.Sound
  closed : db.beforeWork = none

/-- Whether no step of a unit of work ends it, if it is carried out now, so that it is committed or
rolled back. -/
def Work.Unbroken (tagBatch : Nat) (work : Work) (db : Database) : Prop :=
  (work.carryOut tagBatch { db with beforeWork := some db.tables }).2.beforeWork ≠ none

/-- The slugs that a unit of work has changed: those of the articles that it has deleted, unless
all of it has been undone. -/
def retiredByWork (answer : Except StorageError Unit × Option (List Performed)) : List String :=
  if answer.1.toBool then deletedSlugs (answer.2.getD []) else []

/-- A unit of work is one of its steps, and its error may be wrapped. -/
theorem Database.run_carryOut (tagBatch : Nat) (work : Work) (db : Database) :
    Database.carryOut tagBatch work db =
      (((unitOfWork (work.carryOut tagBatch) db).1.1.mapError Work.abortion,
        (unitOfWork (work.carryOut tagBatch) db).1.2),
        (unitOfWork (work.carryOut tagBatch) db).2) :=
  rfl

/-- A unit of work as a whole leaves the database ready for the next operation, and unless it has
been ended by one of its steps it leaves all articles alone but those that it has deleted. -/
theorem Database.follows_carryOut (tagBatch : Nat) (work : Work) {db : Database} (ready : db.Ready) :
    (Database.carryOut tagBatch work db).2.Ready ∧
      (work.Unbroken tagBatch db →
        Follows (retiredByWork (Database.carryOut tagBatch work db).1) db.tables
          (Database.carryOut tagBatch work db).2.tables) := by
  have opened : Database.Healthy { db with beforeWork := some db.tables } :=
    ⟨ready.triggers, ready.missing, ready.locked⟩
  have through := Database.run_carryOut tagBatch work db
  obtain ⟨fine, still_sound, rest⟩ := work.follows_carryOut tagBatch opened ready.sound
    fun start same => Option.some.inj same ▸ ready.sound
  unfold Work.Unbroken
  generalize ran : work.carryOut tagBatch { db with beforeWork := some db.tables } = whole
    at fine still_sound rest ⊢
  obtain ⟨⟨outcome, record⟩, after⟩ := whole
  rcases rest with gone | ⟨same_work, follows⟩
  · obtain ⟨error, ended⟩ := unitOfWork_ended ready.locked ran gone
    rw [through, ended]
    refine ⟨⟨fine, still_sound, gone⟩, ?_⟩
    intro unbroken
    exact absurd gone unbroken
  · rw [through]
    cases outcome with
    | ok value =>
      rw [unitOfWork_commit ready.locked ran same_work]
      exact ⟨⟨⟨fine.triggers, fine.missing, fine.locked⟩, still_sound, rfl⟩, fun _ => follows⟩
    | error cause =>
      rw [unitOfWork_rollback ready.locked ran same_work, undone, same_work]
      exact ⟨⟨⟨fine.triggers, fine.missing, fine.locked⟩, ready.sound, rfl⟩,
        fun _ => Follows.refl _ _⟩

/-- A unit of work that has committed has been open up to its end, and its steps are recorded. -/
theorem Database.carryOut_eq_ok {tagBatch : Nat} {work : Work} {db after : Database}
    {record : Option (List Performed)}
    (done : Database.carryOut tagBatch work db = ((.ok (), record), after)) :
    db.locked = false ∧ ∃ steps inside start,
      work.carryOut tagBatch { db with beforeWork := some db.tables } = ((.ok (), steps), inside) ∧
      inside.beforeWork = some start ∧ record = some steps ∧
      after = { inside with beforeWork := none } := by
  apply unitOfWork_eq_ok
  rcases whole : unitOfWork (work.carryOut tagBatch) db with ⟨⟨outcome, reported⟩, last⟩
  unfold Database.carryOut at done
  rw [whole] at done
  cases outcome with
  | error error => cases done
  | ok value =>
    cases done
    rfl

end Gazette
