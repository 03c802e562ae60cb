import Mathlib.Data.List.Basic
import Gazette.Proofs.Storage.Atomicity

/-!
# Readings of the clock

A session reads the clock a number of times, and of the clock nothing matters to it but what it has
read.  So what a session does can be told for any other clock that shows the same to it, and from
any other reading on.
-/

set_option autoImplicit false

namespace Gazette

open Tables Session Database

/-- A database with another clock, which is about to be read for the given time. -/
def Database.withClock (db : Database) (clock : Nat → Instant) (readings : Nat) : Database :=
  { db with clock, readings }

/-- Whether a clock shows the same in some of its readings as the clock of a database in the next
ones. -/
def Database.Shows (db : Database) (taken : Nat) (clock : Nat → Instant) (readings : Nat) : Prop :=
  ∀ k < taken, clock (readings + k) = db.clock (db.readings + k)

namespace Database

variable {db : Database}

/-- Of two clocks that are put in, the later one counts. -/
@[simp]
theorem withClock_withClock (clock later : Nat → Instant) (readings reading : Nat) :
    (db.withClock clock readings).withClock later reading = db.withClock later reading :=
  rfl

/-- It makes no difference whether a clock is put in before or after a unit of work is undone. -/
theorem withClock_undone (clock : Nat → Instant) (readings : Nat) :
    (db.withClock clock readings).undone = db.undone.withClock clock readings := by
  unfold undone
  cases opened : db.beforeWork with
  | none => simp [withClock, opened]
  | some tables => simp [withClock, opened]

/-- A clock that shows the same for some readings shows the same for the first of them. -/
theorem Shows.first {taken more : Nat} {clock : Nat → Instant} {readings : Nat}
    (shows : db.Shows (taken + more) clock readings) : db.Shows taken clock readings :=
  fun k less => shows k (Nat.lt_add_right more less)

end Database

/-- What some operation does if it reads the clock for the given number of times. -/
def ReadsClock {ρ : Type} (taken : Nat) (operation : Database → ρ × Database) (db : Database) :
    Prop :=
  ∀ clock readings, db.Shows taken clock readings →
    operation (db.withClock clock readings) =
      ((operation db).1, (operation db).2.withClock clock (readings + taken))

namespace ReadsClock

variable {ρ τ : Type} {begun ended : Nat} {operation : Database → ρ × Database}
  {later : Database → τ × Database} {db : Database}

/-- Afterwards the clock is the same, and as many of its readings have gone by. -/
theorem after_eq (reads : ReadsClock begun operation db) :
    (operation db).2.clock = db.clock ∧ (operation db).2.readings = db.readings + begun := by
  have same : (operation db).2 = (operation db).2.withClock db.clock (db.readings + begun) :=
    congrArg Prod.snd (reads db.clock db.readings fun _ _ => rfl)
  constructor
  · rw [same]
    rfl
  · rw [same]
    rfl

/-- What comes after an operation goes on with the readings that the operation has left. -/
theorem next (reads : ReadsClock begun operation db)
    (reads_later : ReadsClock ended later (operation db).2) (clock : Nat → Instant) (readings : Nat)
    (shows : db.Shows (begun + ended) clock readings) :
    later ((operation db).2.withClock clock (readings + begun)) =
      ((later (operation db).2).1,
        (later (operation db).2).2.withClock clock (readings + (begun + ended))) := by
  obtain ⟨same_clock, gone_by⟩ := reads.after_eq
  rw [← Nat.add_assoc]
  apply reads_later
  intro k less
  rw [same_clock, gone_by, Nat.add_assoc, Nat.add_assoc]
  exact shows (begun + k) (Nat.add_lt_add_left less begun)

end ReadsClock

/-- A statement does not read the clock. -/
theorem readsClock_statement {α : Type} (needs : List Need) (entity id : String)
    (change : List Trigger → Tables → Except Refusal (α × Tables)) (db : Database) :
    ReadsClock 0 (Engine.about (Database.statement needs change) entity id).run db := by
  intro clock readings _
  have same : (Database.statement needs change).run (db.withClock clock readings) =
      (((Database.statement needs change).run db).1,
        ((Database.statement needs change).run db).2.withClock clock readings) := by
    unfold Database.statement
    simp only [ExceptT.run_mk]
    have circumstances : (db.withClock clock readings).locked = db.locked ∧
        (db.withClock clock readings).missing = db.missing ∧
        (db.withClock clock readings).triggers = db.triggers ∧
        (db.withClock clock readings).tables = db.tables := ⟨rfl, rfl, rfl, rfl⟩
    obtain ⟨locked, missing, triggers, tables⟩ := circumstances
    rw [locked, missing, triggers, tables]
    split
    · rfl
    · split
      · rfl
      · split
        · rfl
        · -- a refusal that ends the unit of work changes more than the tables
          rename_i refusal _
          cases refusal.endsWork with
          | false => rfl
          | true =>
            rw [if_pos rfl, if_pos rfl, withClock_undone]
  rw [Engine.run_about, same, Engine.run_about]
  rfl

/-- A session that is composed of readings and statements reads the clock some number of times. -/
theorem Session.Composed.readsClock {α : Type} {changes : Tables → Tables → Prop}
    {session : Session Database α} (composed : Composed changes session) (db : Database) :
    ∃ taken, ReadsClock taken session.run db := by
  induction composed generalizing db with
  | pure value => exact ⟨0, fun _ _ _ => rfl⟩
  | throw error => exact ⟨0, fun _ _ _ => rfl⟩
  | now =>
    refine ⟨1, fun clock readings shows => ?_⟩
    have shown : clock readings = db.clock db.readings := shows 0 Nat.zero_lt_one
    have read : Database.now.run (db.withClock clock readings) =
        (.ok (clock readings), db.withClock clock (readings + 1)) := rfl
    rw [read, shown]
    rfl
  | statement _ => exact ⟨0, readsClock_statement _ _ _ _ db⟩
  | @bind α β session next _ _ first second =>
    obtain ⟨begun, reads⟩ := first db
    rcases ran : session.run db with ⟨error | value, between⟩
    · refine ⟨begun, fun clock readings shows => ?_⟩
      rw [run_bind, run_bind, reads clock readings shows, ran]
    · obtain ⟨ended, reads_later⟩ := second value (session.run db).2
      refine ⟨begun + ended, fun clock readings shows => ?_⟩
      have went_on := reads.next reads_later clock readings shows
      rw [run_bind, run_bind, reads clock readings shows.first]
      rw [ran] at went_on ⊢
      exact went_on

/-- The steps of a unit of work read the clock some number of times. -/
theorem Work.readsClock_carryOut (tagBatch : Nat) (work : Work) (db : Database) :
    ∃ taken, ReadsClock taken (work.carryOut tagBatch) db := by
  induction work generalizing db with
  | finish outcome => exact ⟨0, fun _ _ _ => rfl⟩
  | perform step next ih =>
    obtain ⟨begun, reads⟩ := (step.composed_perform tagBatch).readsClock db
    obtain ⟨ended, reads_later⟩ :=
      ih ((step.perform tagBatch).run db).1 ((step.perform tagBatch).run db).2
    refine ⟨begun + ended, fun clock readings shows => ?_⟩
    have stepped := reads clock readings shows.first
    have went_on := reads.next reads_later clock readings shows
    rw [carryOut_perform stepped went_on]
    rfl

end Gazette
