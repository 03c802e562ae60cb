import Mathlib.Data.List.Basic
import Gazette.Proofs.Cached.Operations
import Gazette.Proofs.Storage.Atomicity
import Gazette.Proofs.Storage.Endings

/-!
# Databases that operations lead to

A property of the tables lasts if no step of a unit of work destroys it.  Then it is kept by every
operation, whether it succeeds or fails, and by every unit of work, whether it commits or is undone,
also after it has passed over the errors of some steps.  To be orderly lasts, so from empty tables on
the tables always keep what they promise.
-/

set_option autoImplicit false

namespace Gazette

open Tables Session Database

/-- Whether a clock shows an instant with one of its readings. -/
def ShownBy (clock : Nat → Instant) (instant : Instant) : Prop :=
  ∃ reading, instant = clock reading

/-- A healthy database with a clock, and with tables that have been orderly since before the open
unit of work. -/
structure Database.Orderly (clock : Nat → Instant) (db : Database) : Prop extends db.Healthy where
  same_clock : db.clock = clock
  tables : db.tables.Orderly (ShownBy clock)
  before : ∀ start, db.beforeWork = some start → start.Orderly (ShownBy clock)

/-- A healthy database with a clock, and with tables that have had a property since before the open
unit of work. -/
structure Database.Within (clock : Nat → Instant) (fits : Tables → Prop) (db : Database) : Prop
    extends db.Healthy where
  same_clock : db.clock = clock
  tables : fits db.tables
  before : ∀ start, db.beforeWork = some start → fits start

/-- A property of tables that no step destroys, whether it succeeds or fails. -/
def Tables.Lasting (setting : Setting) (fits : Tables → Prop) : Prop :=
  ∀ (tagBatch : Nat) (step : Step),
    Meets setting fits (step.perform tagBatch) (fun _ => fits) fun _ => fits

namespace Database.Within

variable {clock : Nat → Instant} {fits : Tables → Prop} {db : Database}

/-- Opening a unit of work. -/
theorem opened (within : db.Within clock fits) :
    Database.Within clock fits { db with beforeWork := some db.tables } where
  toHealthy := ⟨within.triggers, within.missing, within.locked⟩
  same_clock := within.same_clock
  tables := within.tables
  before := by
    rintro start opened
    cases opened
    exact within.tables

/-- Committing a unit of work. -/
theorem committed (within : db.Within clock fits) :
    Database.Within clock fits { db with beforeWork := none } where
  toHealthy := ⟨within.triggers, within.missing, within.locked⟩
  same_clock := within.same_clock
  tables := within.tables
  before := by
    rintro start never
    cases never

/-- Undoing a unit of work. -/
theorem undone (within : db.Within clock fits) : Database.Within clock fits db.undone := by
  unfold Database.undone
  split
  · rename_i start opened
    exact { within.committed with tables := within.before start opened }
  · exact within

/-- The circumstances in which the contracts of sessions hold. -/
theorem holds (within : db.Within clock fits) : Setting.Holds ⟨ShownBy clock, True⟩ db :=
  ⟨within.toHealthy, fun reading => ⟨reading, congrFun within.same_clock reading⟩, fun _ => trivial⟩

/-- A session whose contract says that it keeps the property. -/
theorem run {α : Type} {session : Session Database α}
    (meets : Meets ⟨ShownBy clock, True⟩ fits session (fun _ => fits) fun _ => fits)
    (within : db.Within clock fits) : (session.run db).2.Within clock fits := by
  have ended := meets db within.holds within.tables
  have healthy := ended.alike.healthy within.toHealthy
  have same_clock := ended.alike.clock.trans within.same_clock
  generalize session.run db = outcome at ended healthy same_clock
  cases ended with
  | done _ same_work still =>
    exact ⟨healthy, same_clock, still, same_work ▸ within.before⟩
  | failed _ same_work still =>
    exact ⟨healthy, same_clock, still, same_work ▸ within.before⟩
  | lost _ opened closed back =>
    refine ⟨healthy, same_clock, back ▸ within.before _ opened, ?_⟩
    intro start still_open
    cases closed.symm.trans still_open

/-- A unit of work keeps the property if its body does. -/
theorem unitOfWork {α ρ : Type} {body : StateM Database (Except StorageError α × ρ)}
    (keeps : ∀ inner : Database, inner.Within clock fits → (body inner).2.Within clock fits)
    (within : db.Within clock fits) : (Database.unitOfWork body db).2.Within clock fits := by
  have inside_within := keeps _ within.opened
  rcases inside : body { db with beforeWork := some db.tables } with ⟨⟨result, report⟩, after⟩
  rw [inside] at inside_within
  cases opened : after.beforeWork with
  | none =>
    obtain ⟨error, ended⟩ := unitOfWork_ended within.locked inside opened
    rw [ended]
    exact inside_within
  | some start =>
    cases result with
    | ok value =>
      rw [unitOfWork_commit within.locked inside opened]
      exact inside_within.committed
    | error cause =>
      rw [unitOfWork_rollback within.locked inside opened]
      exact inside_within.undone

/-- A transaction keeps the property if its session does. -/
theorem transaction {α : Type} {session : Session Database α}
    (meets : Meets ⟨ShownBy clock, True⟩ fits session (fun _ => fits) fun _ => fits)
    (within : db.Within clock fits) :
    ((Database.transaction session).run db).2.Within clock fits := by
  obtain ⟨body, reports, through⟩ := run_transaction session
  rw [through]
  apply within.unitOfWork
  intro inner inner_within
  rw [reports]
  exact inner_within.run meets

end Database.Within

section Lasting

variable {clock : Nat → Instant} {fits : Tables → Prop} {db : Database}
  (lasting : Lasting ⟨ShownBy clock, True⟩ fits)

include lasting

/-- The steps of a unit of work keep what lasts. -/
theorem Work.within_carryOut (tagBatch : Nat) (work : Work) (within : db.Within clock fits) :
    (work.carryOut tagBatch db).2.Within clock fits := by
  induction work generalizing db with
  | finish outcome => exact within
  | perform step next ih => exact ih _ (within.run (lasting tagBatch step))

/-- An operation on accounts keeps what lasts. -/
theorem AccountOperation.within_effect (operation : AccountOperation)
    (within : db.Within clock fits) : (operation.effect db).2.Within clock fits := by
  have alone (step : Step) : ((step.perform 0).run db).2.Within clock fits :=
    within.run (lasting 0 step)
  cases operation with
  | save account => exact alone (.saveAccount account)
  | update email patch => exact alone (.updateAccount email patch)
  | find email => exact alone (.findAccount email)
  | findFresh email => exact alone (.findAccount email)

/-- An operation on articles keeps what lasts. -/
theorem ArticleOperation.within_effect (tagBatch : Nat) (operation : ArticleOperation)
    (within : db.Within clock fits) : (operation.effect tagBatch db).2.Within clock fits := by
  have meets (step : Step) := lasting tagBatch step
  have both (authorId : Int64) (slug : String) :
      Meets ⟨ShownBy clock, True⟩ fits
        (do
          removeArticle authorId slug
          removeComments authorId slug)
        (fun _ => fits) fun _ => fits :=
    meets_bind (meets (.deleteArticle authorId slug)) fun _ =>
      meets (.deleteComments authorId slug)
  cases operation with
  | carryOut work =>
    exact within.unitOfWork fun inner inner_within =>
      work.within_carryOut lasting tagBatch inner_within
  | save article => exact within.transaction (meets (.saveArticle article))
  | saveFresh article => exact within.transaction (meets (.saveArticle article))
  | find slug => exact within.run (meets (.findArticle slug))
  | findFresh slug => exact within.run (meets (.findArticle slug))
  | list criteria => exact within.run (meets (.listArticles criteria))
  | delete authorId slug => exact within.transaction (meets (.deleteArticle authorId slug))
  | saveComment slug comment => exact within.run (meets (.saveComment slug comment))
  | findComments slug => exact within.run (meets (.findComments slug))
  | deleteComment authorId slug id => exact within.run (meets (.deleteComment authorId slug id))
  | deleteComments authorId slug => exact within.run (meets (.deleteComments authorId slug))
  | deleteWithComments authorId slug => exact within.transaction (both authorId slug)

end Lasting

namespace Tables

variable {setting : Setting}

/-- What every step keeps that starts on orderly tables lasts. -/
theorem lasting_of_makes {fits : Tables → Prop}
    (orderly : ∀ tables, fits tables → tables.Orderly setting.shown)
    (kept : ∀ {step : Step} {failed : Bool} {before after : Tables},
      fits before → step.Makes setting failed before after → fits after) : Lasting setting fits := by
  intro tagBatch step
  apply meets_each
  intro start fitting
  exact (step.meets_perform tagBatch (orderly start fitting)).mono (fun _ given => given)
    (fun _ _ makes => kept fitting makes) fun _ _ makes => kept fitting makes

/-- Every step keeps tables orderly. -/
theorem lasting_orderly (setting : Setting) : Lasting setting (Orderly setting.shown) :=
  lasting_of_makes (fun _ orderly => orderly) fun orderly makes => makes.orderly orderly

end Tables

namespace Database.Orderly

variable {clock : Nat → Instant} {db : Database}

/-- An orderly database is one whose tables have been orderly since before the open unit of work. -/
theorem iff_within : db.Orderly clock ↔ db.Within clock (Tables.Orderly (ShownBy clock)) :=
  ⟨fun orderly => ⟨orderly.toHealthy, orderly.same_clock, orderly.tables, orderly.before⟩,
    fun within => ⟨within.toHealthy, within.same_clock, within.tables, within.before⟩⟩

/-- Opening a unit of work keeps the database orderly. -/
theorem opened (orderly : db.Orderly clock) :
    Database.Orderly clock { db with beforeWork := some db.tables } :=
  iff_within.mpr (iff_within.mp orderly).opened

/-- A step keeps the database orderly. -/
theorem perform (orderly : db.Orderly clock) (tagBatch : Nat) (step : Step) :
    ((step.perform tagBatch).run db).2.Orderly clock :=
  iff_within.mpr ((iff_within.mp orderly).run (lasting_orderly ⟨ShownBy clock, True⟩ tagBatch step))

end Database.Orderly

variable {clock : Nat → Instant} {db : Database}

/-- The databases that operations on the repositories, units of work among them, lead to from empty
tables. -/
inductive Database.Reachable : Database → Prop where
  | empty (clock : Nat → Instant) : Reachable { clock }
  | account {db : Database} (operation : AccountOperation) :
    Reachable db → Reachable ((operation.perform accountRepository).run.outcome db).2
  | article {db : Database} (tagBatch : Nat) (operation : ArticleOperation) :
    Reachable db → Reachable ((operation.perform (articleRepository tagBatch)).run.outcome db).2

namespace Database

/-- A database that can be reached is ready for the next operation. -/
theorem Reachable.ready (reachable : db.Reachable) : db.Ready := by
  induction reachable with
  | empty clock => exact ⟨⟨rfl, rfl, rfl⟩, sound_empty, rfl⟩
  | account operation _ ih =>
    rw [operation.outcome_effect]
    exact (operation.follows_effect ih).1
  | article tagBatch operation _ ih =>
    rw [operation.outcome_effect]
    exact (operation.follows_effect tagBatch ih).1

/-- What lasts and holds of empty tables holds wherever operations lead. -/
theorem Reachable.within {fits : (Nat → Instant) → Tables → Prop} (reachable : db.Reachable)
    (lasting : ∀ clock, Lasting ⟨ShownBy clock, True⟩ (fits clock)) (empty : ∀ clock, fits clock {}) :
    db.Within db.clock (fits db.clock) := by
  induction reachable with
  | empty clock =>
    refine ⟨⟨rfl, rfl, rfl⟩, rfl, empty clock, ?_⟩
    intro start never
    cases never
  | account operation _ ih =>
    have kept := operation.within_effect (lasting _) ih
    rw [operation.outcome_effect, kept.same_clock]
    exact kept
  | article tagBatch operation _ ih =>
    have kept := operation.within_effect (lasting _) tagBatch ih
    rw [operation.outcome_effect, kept.same_clock]
    exact kept

/-- A database that can be reached is orderly. -/
theorem Reachable.orderly (reachable : db.Reachable) : db.Orderly db.clock :=
  Orderly.iff_within.mpr
    (reachable.within (fun clock => lasting_orderly ⟨ShownBy clock, True⟩) fun _ => orderly_empty _)

/-- Whatever operations and units of work have been carried out, the tables keep what they promise,
and so no query loses a row that it has selected because an author or a tag is missing. -/
theorem reachable_integrity (reachable : db.Reachable) :
    db.tables.Integrity ∧ db.tables.JoinsWhole := by
  have sane := reachable.orderly.tables.toIntegrity
  exact ⟨sane, sane.joinsWhole⟩

end Database

namespace Sample

/-- A unit of work that tries to publish an article in the name of nobody, and commits. -/
def nobodyPublishes : Work :=
  .ofDirectives [(.perform (.saveArticle ⟨"by-nobody", "By Nobody", "b", 9, ["go", "rust"]⟩), true),
    (.perform (.saveComment "hello-world" ⟨"c", 1⟩), false)]

/-- A database on which an article has been published, commented on and deleted. -/
def retracted : Database :=
  let opened := (accountRepository.save ⟨"u", "u@x.com", "p", "", ""⟩).run.outcome database
  let saved := ((articleRepository 100).save
    ⟨"hello-world", "Hello World", "b", 1, ["go"]⟩).run.outcome opened.2
  let commented := ((articleRepository 100).carryOut nobodyPublishes).run.outcome saved.2
  (((articleRepository 100).delete 1 "hello-world").run.outcome commented.2).2

/-- How many rows there are in each table. -/
def sizes (tables : Tables) : List Nat :=
  [tables.accounts.length, tables.articles.length, tables.tags.length, tables.links.length,
    tables.comments.length]

end Sample

/-- A database on which a unit of work has committed although one of its steps has failed, and from
which an article has been deleted. -/
theorem reachable_integrity_retracted :
    Sample.sizes Sample.retracted.tables = [1, 1, 2, 0, 1] ∧ Sample.retracted.tables.Integrity ∧
      Sample.retracted.tables.JoinsWhole := by
  refine ⟨by decide +kernel, ?_⟩
  have opened : Sample.database.Reachable := .empty _
  have saved := (opened.account (.save ⟨"u", "u@x.com", "p", "", ""⟩)).article 100
    (.save ⟨"hello-world", "Hello World", "b", 1, ["go"]⟩)
  have commented := saved.article 100 (.carryOut Sample.nobodyPublishes)
  exact reachable_integrity (commented.article 100 (.delete 1 "hello-world"))

end Gazette
