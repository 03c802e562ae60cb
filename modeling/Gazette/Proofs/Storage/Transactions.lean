import Mathlib.Data.List.Basic
import Gazette.Proofs.Storage.Composed
import Gazette.Proofs.Storage.Works

/-!
# What transactions leave

A transaction either does all that its session does, or leaves the tables as they were.  A unit of
work goes on after a step that has failed; what its steps do to the tables adds up along its
record, as long as none of them ends the unit of work.
-/

set_option autoImplicit false

namespace Gazette

open Tables Session Database

namespace Database

section Transaction

variable {α : Type} {session : Session Database α} {db after : Database} {start : Tables}

/-- A transaction is the unit of work of its session. -/
theorem run_transaction (session : Session Database α) :
    ∃ body : StateM Database (Except StorageError α × Unit),
      (∀ inner, body inner = (((session.run inner).1, ()), (session.run inner).2)) ∧
      ∀ db, (transaction session).run db = ((unitOfWork body db).1.1, (unitOfWork body db).2) :=
  ⟨_, fun _ => rfl, fun _ => rfl⟩

/-- A transaction that succeeds is committed if no statement has ended it. -/
theorem transaction_commit {value : α} (unlocked : db.locked = false)
    (ran : session.run { db with beforeWork := some db.tables } = (.ok value, after))
    (opened : after.beforeWork = some start) :
    (transaction session).run db = (.ok value, { after with beforeWork := none }) := by
  obtain ⟨body, reports, through⟩ := run_transaction session
  have inside := reports { db with beforeWork := some db.tables }
  rw [ran] at inside
  rw [through, unitOfWork_commit unlocked inside opened]

/-- A transaction that fails is undone if no statement has ended it. -/
theorem transaction_rollback {cause : StorageError} (unlocked : db.locked = false)
    (ran : session.run { db with beforeWork := some db.tables } = (.error cause, after))
    (opened : after.beforeWork = some start) :
    (transaction session).run db = (.error cause, after.undone) := by
  obtain ⟨body, reports, through⟩ := run_transaction session
  have inside := reports { db with beforeWork := some db.tables }
  rw [ran] at inside
  rw [through, unitOfWork_rollback unlocked inside opened]

/-- A transaction that a statement has ended fails. -/
theorem transaction_ended {result : Except StorageError α} (unlocked : db.locked = false)
    (ran : session.run { db with beforeWork := some db.tables } = (result, after))
    (closed : after.beforeWork = none) :
    ∃ error, (transaction session).run db = (.error error, after) := by
  obtain ⟨body, reports, through⟩ := run_transaction session
  have inside := reports { db with beforeWork := some db.tables }
  rw [ran] at inside
  obtain ⟨error, whole⟩ := unitOfWork_ended unlocked inside closed
  exact ⟨error, by rw [through, whole]⟩

/-- A transaction that a statement has ended by failing cannot be rolled back any more. -/
theorem transaction_lost {cause : StorageError} (unlocked : db.locked = false)
    (ran : session.run { db with beforeWork := some db.tables } = (.error cause, after))
    (closed : after.beforeWork = none) :
    (transaction session).run db =
      (.error (.rollbackFailed cause "cannot rollback - no transaction is active"), after) := by
  obtain ⟨body, reports, through⟩ := run_transaction session
  have inside := reports { db with beforeWork := some db.tables }
  rw [ran] at inside
  rw [through, unitOfWork_lost unlocked inside closed]

/-- A transaction that cannot be started leaves the database as it is. -/
theorem transaction_locked (session : Session Database α) (held : db.locked = true) :
    ∃ error, (transaction session).run db = (.error error, db) := by
  obtain ⟨body, -, through⟩ := run_transaction session
  refine ⟨.transaction ("begin: " ++ lockText), ?_⟩
  rw [through, unitOfWork, if_pos held]

end Transaction

/-- How a transaction has ended: all that its session does has been done, or nothing. -/
structure Whole {α : Type} (changes : Tables → Tables → Prop) (before : Database)
    (outcome : Except StorageError α × Database) : Prop where
  alike : before.Alike outcome.2
  closed : outcome.2.beforeWork = none
  done {value : α} : outcome.1 = .ok value → changes before.tables outcome.2.tables
  failed {error : StorageError} : outcome.1 = .error error → outcome.2.tables = before.tables

section Changes

variable {α : Type} {changes : Tables → Tables → Prop} {session : Session Database α} {db : Database}
  (refl : ∀ tables, changes tables tables)
  (trans : ∀ {before between after : Tables}, changes before between →
    changes between after → changes before after)

include refl trans

/-- All that a transaction's session does is done, or nothing. -/
theorem whole_transaction (composed : Composed changes session) (closed : db.beforeWork = none) :
    Whole changes db ((transaction session).run db) := by
  have failed {error : StorageError} {after : Database} (alike : db.Alike after)
      (no_work : after.beforeWork = none) (same : after.tables = db.tables) :
      Whole changes db ((.error error, after) : Except StorageError α × Database) :=
    ⟨alike, no_work, nofun, fun _ => same⟩
  rcases Bool.eq_false_or_eq_true db.locked with held | unlocked
  · obtain ⟨error, untouched⟩ := transaction_locked session held
    rw [untouched]
    exact failed (.refl db) closed rfl
  · have left := composed.leaves refl trans { db with beforeWork := some db.tables }
    have from_start {after : Database}
        (alike : Alike { db with beforeWork := some db.tables } after) : db.Alike after :=
      ⟨alike.triggers, alike.missing, alike.locked, alike.clock⟩
    cases ran : session.run { db with beforeWork := some db.tables } with
    | mk result after =>
      rw [ran] at left
      cases left with
      | lost alike opened gone back =>
        obtain ⟨error, whole⟩ := transaction_ended unlocked ran gone
        cases opened
        rw [whole]
        exact failed (from_start alike) gone back
      | kept alike same_work changed =>
        cases result with
        | ok value =>
          rw [transaction_commit unlocked ran same_work]
          have alike := from_start alike
          exact ⟨⟨alike.triggers, alike.missing, alike.locked, alike.clock⟩, rfl, fun _ => changed,
            nofun⟩
        | error cause =>
          rw [transaction_rollback unlocked ran same_work]
          have back : after.undone = { after with tables := db.tables, beforeWork := none } := by
            simp [undone, same_work]
          exact failed (from_start alike).undone (by rw [back]) (by rw [back])

end Changes

end Database

namespace Work

variable {tagBatch : Nat} {outcome : Except StorageError Unit} {record : List Performed}

/-- The first step of a unit of work, and after it the rest. -/
theorem carryOut_perform {step : Step} {next : Except StorageError step.Answer → Work}
    {result : Except StorageError step.Answer} {db between after : Database}
    (ran : (step.perform tagBatch).run db = (result, between))
    (rest : (next result).carryOut tagBatch between = ((outcome, record), after)) :
    (perform step next).carryOut tagBatch db = ((outcome, ⟨step, result⟩ :: record), after) := by
  have opened : (perform step next).carryOut tagBatch db =
      ((((next ((step.perform tagBatch).run db).1).carryOut tagBatch
          ((step.perform tagBatch).run db).2).1.1,
        ⟨step, ((step.perform tagBatch).run db).1⟩ ::
          ((next ((step.perform tagBatch).run db).1).carryOut tagBatch
            ((step.perform tagBatch).run db).2).1.2),
        ((next ((step.perform tagBatch).run db).1).carryOut tagBatch
          ((step.perform tagBatch).run db).2).2) := rfl
  rw [opened, ran, rest]

/-- The work that performs a step again and again, whatever becomes of it. -/
def repeatedly (step : Step) (count : Nat) : Work :=
  .ofDirectives (List.replicate count (.perform step, true))

/-- To perform a step once more is to perform it first and then as often as before. -/
theorem repeatedly_succ (step : Step) (count : Nat) :
    repeatedly step (count + 1) = .perform step fun _ => repeatedly step count := by
  unfold repeatedly
  rw [List.replicate_succ, ofDirectives]
  congr 1
  funext answer
  cases answer <;> rfl

/-- Where each performance of a step counts one up to a limit, so many performances count as many. -/
theorem carryOut_repeatedly {step : Step} {counted : Int → Database → Prop} {limit : Int}
    (one : ∀ {last : Int} {db : Database}, counted last db → last < limit →
      ∃ answer after, (step.perform tagBatch).run db = (answer, after) ∧
        after.beforeWork = db.beforeWork ∧ counted (last + 1) after)
    (count : Nat) {last : Int} {db : Database} (begun : counted last db)
    (room : last + count ≤ limit) :
    ∃ record after, (repeatedly step count).carryOut tagBatch db = ((.ok (), record), after) ∧
      after.beforeWork = db.beforeWork ∧ counted (last + count) after := by
  induction count generalizing db last with
  | zero =>
    rw [Int.natCast_zero, Int.add_zero]
    exact ⟨[], db, rfl, rfl, begun⟩
  | succ count ih =>
    rw [Int.natCast_succ] at room ⊢
    obtain ⟨answer, between, performed, same, more⟩ := one begun (by omega)
    obtain ⟨record, after, ran, kept, ended⟩ := ih more (by omega)
    refine ⟨⟨step, answer⟩ :: record, after, ?_, kept.trans same, ?_⟩
    · rw [repeatedly_succ]
      exact carryOut_perform performed ran
    · rw [Int.add_comm (count : Int) 1, ← Int.add_assoc]
      exact ended

/-- What the steps of a unit of work do to the tables they do one after the other, unless one of
them has closed the unit of work. -/
theorem leaves_carryOut {changes : List Performed → Tables → Tables → Prop}
    (nothing : ∀ tables, changes [] tables tables)
    (more : ∀ {performed record before between after}, changes [performed] before between →
      changes record between after → changes (performed :: record) before after)
    (steps : ∀ (step : Step) (db : Database), Leaves (fun result => changes [⟨step, result⟩]) db
      ((step.perform tagBatch).run db))
    (work : Work) (db : Database) :
    db.Alike (work.carryOut tagBatch db).2 ∧
      ((work.carryOut tagBatch db).2.beforeWork = none ∨
        (work.carryOut tagBatch db).2.beforeWork = db.beforeWork ∧
        changes (work.carryOut tagBatch db).1.2 db.tables (work.carryOut tagBatch db).2.tables) := by
  induction work generalizing db with
  | finish outcome => exact ⟨.refl db, .inr ⟨rfl, nothing _⟩⟩
  | perform step next ih =>
    have left := steps step db
    cases ran : (step.perform tagBatch).run db with
    | mk result between =>
      rw [ran] at left
      obtain ⟨alike, open_or_not⟩ := ih result between
      cases rest : (next result).carryOut tagBatch between with
      | mk answer after =>
        rw [rest] at alike open_or_not
        rw [carryOut_perform ran rest]
        refine ⟨left.alike.trans alike, ?_⟩
        rcases open_or_not with closed | ⟨same_last, changed_last⟩
        · exact .inl closed
        · cases left with
          | lost _ _ gone _ => exact .inl (same_last.trans gone)
          | kept _ same_work changed =>
            exact .inr ⟨same_last.trans same_work, more changed changed_last⟩

end Work

/-- A unit of work that performs a step again and again commits with as many performances counted. -/
theorem Database.carryOut_repeatedly {tagBatch : Nat} {step : Step}
    {counted : Int → Database → Prop} {limit : Int}
    (one : ∀ {last : Int} {db : Database}, counted last db → last < limit →
      ∃ answer after, (step.perform tagBatch).run db = (answer, after) ∧
        after.beforeWork = db.beforeWork ∧ counted (last + 1) after)
    (alike : ∀ {last : Int} {db : Database} (work : Option Tables), counted last db →
      counted last { db with beforeWork := work })
    (count : Nat) {last : Int} {db : Database} (unlocked : db.locked = false)
    (begun : counted last db) (room : last + count ≤ limit) :
    counted (last + count)
      (((articleRepository tagBatch).carryOut (.repeatedly step count)).run.outcome db).2 := by
  obtain ⟨record, after, ran, kept, ended⟩ :=
    Work.carryOut_repeatedly one count (alike (some db.tables) begun) room
  have whole :
      (((articleRepository tagBatch).carryOut (.repeatedly step count)).run.outcome db).2 =
        (unitOfWork ((Work.repeatedly step count).carryOut tagBatch) db).2 := rfl
  rw [whole, unitOfWork_commit unlocked ran kept]
  exact alike none ended

end Gazette
