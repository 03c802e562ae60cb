import Mathlib.Data.List.Basic
import Gazette.Proofs.Storage.Changes
import Gazette.Proofs.Storage.Composed

/-!
# Contracts of sessions

On a healthy database a session fails for reasons of the tables and of the clock only.  A contract
says on which tables it may start and which tables fit its result.  A statement that finds all ids
of a table given out ends the open unit of work, and with it the session; nothing else does.
-/

set_option autoImplicit false

namespace Gazette

/-- The error of a statement that needs an id when all have been given out. -/
def StorageError.outOfIds : StorageError :=
  .queryFailed "database or disk is full"

/-- The engine reports the same about anything it has no more ids for. -/
theorem Refusal.about_full (entity id : String) :
    Refusal.full.error.about entity id = .outOfIds := by
  rfl

namespace Session

variable {α β γ : Type}

/-- How a session has ended on a healthy database.  Either the unit of work that was open is open
still, and the tables are good for the value or bad for the error that has been answered; or there
were no more ids, and the unit of work is undone. -/
inductive Ends (good : α → Tables → Prop) (bad : StorageError → Tables → Prop) (before : Database) :
    Except StorageError α × Database → Prop where
  | done {value : α} {after : Database} : before.Alike after →
      after.beforeWork = before.beforeWork → good value after.tables →
      Ends good bad before (.ok value, after)
  | failed {error : StorageError} {after : Database} : before.Alike after →
      after.beforeWork = before.beforeWork → bad error after.tables →
      Ends good bad before (.error error, after)
  | lost {after : Database} {start : Tables} : before.Alike after →
      before.beforeWork = some start → after.beforeWork = none → after.tables = start →
      Ends good bad before (.error .outOfIds, after)

/-- The circumstances in which a contract holds: what the readings of the clock are like, and
whether the session may run outside of a unit of work. -/
structure Setting where
  shown : Instant → Prop
  outside : Prop

/-- Whether a database is healthy and in given circumstances. -/
structure Setting.Holds (setting : Setting) (db : Database) : Prop extends db.Healthy where
  shown : ∀ reading, setting.shown (db.clock reading)
  outside : db.beforeWork = none → setting.outside

/-- Whether a session that starts on tables with a property ends on tables that are good for its
value or bad for its error. -/
def Meets (setting : Setting) (pre : Tables → Prop) (session : Session Database α)
    (good : α → Tables → Prop) (bad : StorageError → Tables → Prop) : Prop :=
  ∀ db : Database, setting.Holds db → pre db.tables → Ends good bad db (session.run db)

/-- The circumstances last as long as the unit of work is not ended. -/
theorem Setting.Holds.alike {setting : Setting} {before after : Database}
    (holds : setting.Holds before) (alike : before.Alike after)
    (same_work : after.beforeWork = before.beforeWork) : setting.Holds after where
  toHealthy := alike.healthy holds.toHealthy
  shown reading := by
    rw [alike.clock]
    exact holds.shown reading
  outside closed := holds.outside (same_work ▸ closed)

variable {setting : Setting} {pre : Tables → Prop} {mid : β → Tables → Prop}
  {good : α → Tables → Prop} {bad : StorageError → Tables → Prop}

/-- However a session has ended, the circumstances have not changed. -/
theorem Ends.alike {before : Database} {outcome : Except StorageError α × Database}
    (h : Ends good bad before outcome) : before.Alike outcome.2 := by
  cases h with
  | done alike _ _ => exact alike
  | failed alike _ _ => exact alike
  | lost alike _ _ _ => exact alike

/-- A contract may be used where more is given and less is asked. -/
theorem Meets.mono {session : Session Database α} {stronger : Tables → Prop}
    {better : α → Tables → Prop} {worse : StorageError → Tables → Prop}
    (h : Meets setting pre session better worse) (given : ∀ tables, stronger tables → pre tables)
    (good_of : ∀ value tables, better value tables → good value tables)
    (bad_of : ∀ error tables, worse error tables → bad error tables) :
    Meets setting stronger session good bad := by
  intro db holds start
  have ended := h db holds (given _ start)
  generalize session.run db = outcome at ended
  cases ended with
  | done alike same_work fits => exact .done alike same_work (good_of _ _ fits)
  | failed alike same_work fits => exact .failed alike same_work (bad_of _ _ fits)
  | lost alike opened closed back => exact .lost alike opened closed back

/-- A contract may be shown for each of the tables on which it may start. -/
theorem meets_each {session : Session Database α}
    (h : ∀ start, pre start → Meets setting (fun tables => tables = start) session good bad) :
    Meets setting pre session good bad :=
  fun db holds given => h db.tables given db holds rfl

/-- A session that only answers meets a contract if the tables it starts on are good for the
answer. -/
theorem meets_pure {value : α} (h : ∀ tables, pre tables → good value tables) :
    Meets setting pre (pure value) good bad :=
  fun db _ start => .done (.refl db) rfl (h _ start)

/-- A session that only fails meets a contract if the tables it starts on are bad for the error. -/
theorem meets_throw {error : StorageError} (h : ∀ tables, pre tables → bad error tables) :
    Meets setting pre (throw error : Session Database α) good bad :=
  fun db _ start => .failed (.refl db) rfl (h _ start)

/-- Two sessions one after the other. -/
theorem meets_bind {session : Session Database β} {next : β → Session Database α}
    (first : Meets setting pre session mid bad)
    (second : ∀ value, Meets setting (mid value) (next value) good bad) :
    Meets setting pre (session >>= next) good bad := by
  intro db holds start
  rw [run_bind]
  have begun := first db holds start
  generalize session.run db = outcome at begun
  cases begun with
  | lost alike opened closed back => exact .lost alike opened closed back
  | failed alike same_work fits => exact .failed alike same_work fits
  | @done value between alike same_work fits =>
    have ended := second value between (holds.alike alike same_work) fits
    dsimp only
    generalize (next value).run between = outcome at ended
    cases ended with
    | lost alike_last opened closed back =>
      exact .lost (alike.trans alike_last) (same_work ▸ opened) closed back
    | done alike_last work_last fits_last =>
      exact .done (alike.trans alike_last) (work_last.trans same_work) fits_last
    | failed alike_last work_last fits_last =>
      exact .failed (alike.trans alike_last) (work_last.trans same_work) fits_last

/-- Nothing comes after an error. -/
theorem meets_throw_bind {error : StorageError} {next : β → Session Database α}
    (h : ∀ tables, pre tables → bad error tables) :
    Meets setting pre (throw error >>= next) good bad :=
  meets_throw h

/-- A session that begins with a reading of the clock. -/
theorem meets_now {next : Instant → Session Database α}
    (rest : ∀ stamp, setting.shown stamp → Meets setting pre (next stamp) good bad) :
    Meets setting pre (Database.now >>= next) good bad := by
  have read : Meets setting pre Database.now
      (fun stamp tables => setting.shown stamp ∧ pre tables) bad :=
    fun db holds start => .done ⟨rfl, rfl, rfl, rfl⟩ rfl ⟨holds.shown db.readings, start⟩
  apply meets_bind read
  intro stamp db holds start
  exact rest stamp start.1 db holds start.2

/-- One statement, told by what it makes of the tables.  Only for lack of ids does it end the unit
of work. -/
theorem meets_statement {needs : List Need} {entity id : String}
    {change : List Trigger → Tables → Except Refusal (α × Tables)}
    (done : ∀ tables value after, pre tables → change [] tables = .ok (value, after) →
      good value after)
    (refused : ∀ tables refusal, pre tables → change [] tables = .error refusal →
      (refusal.endsWork → refusal = .full) ∧
        ((refusal.endsWork → setting.outside) → bad (refusal.error.about entity id) tables)) :
    Meets setting pre (Engine.about (Database.statement needs change) entity id) good bad := by
  intro db holds start
  rw [run_statement holds.toHealthy]
  cases made : change [] db.tables with
  | ok result => exact .done ⟨rfl, rfl, rfl, rfl⟩ rfl (done _ _ _ start made)
  | error refusal =>
    obtain ⟨only_full, fits⟩ := refused _ _ start made
    dsimp only
    cases ends : refusal.endsWork with
    | false =>
      refine .failed (.refl db) rfl (fits ?_)
      simp [ends]
    | true =>
      cases opened : db.beforeWork with
      | none =>
        -- without a unit of work there is nothing to undo but the statement itself
        rw [if_pos rfl, undone_of_closed opened]
        exact .failed (.refl db) rfl (fits fun _ => holds.outside opened)
      | some tables =>
        have back : db.undone = { db with tables, beforeWork := none } := by
          simp [Database.undone, opened]
        rw [if_pos rfl, back, only_full ends, Refusal.about_full]
        exact .lost ⟨rfl, rfl, rfl, rfl⟩ opened rfl rfl

/-- A statement that gives no value. -/
theorem meets_execute {needs : List Need} {entity id : String} {good : Unit → Tables → Prop}
    {change : List Trigger → Tables → Except Refusal Tables}
    (done : ∀ tables after, pre tables → change [] tables = .ok after → good () after)
    (refused : ∀ tables refusal, pre tables → change [] tables = .error refusal →
      (refusal.endsWork → refusal = .full) ∧
        ((refusal.endsWork → setting.outside) → bad (refusal.error.about entity id) tables)) :
    Meets setting pre (Engine.about (Database.execute needs change) entity id) good bad := by
  apply meets_statement
  · intro tables value after start made
    cases ran : change [] tables with
    | error refusal =>
      rw [ran] at made
      cases made
    | ok result =>
      rw [ran] at made
      cases made
      exact done tables after start ran
  · intro tables refusal start made
    cases ran : change [] tables with
    | error cause =>
      rw [ran] at made
      cases made
      exact refused tables refusal start ran
    | ok result =>
      rw [ran] at made
      cases made

/-- A query answers from the tables and leaves them as they are. -/
theorem meets_query {needs : List TableName} {entity id : String}
    {read : Tables → Except EngineError α}
    (found : ∀ tables value, pre tables → read tables = .ok value → good value tables)
    (missed : ∀ tables error, pre tables → read tables = .error error →
      bad (error.about entity id) tables) :
    Meets setting pre (Engine.about (Database.query needs read) entity id) good bad := by
  intro db holds start
  rw [run_query holds.toHealthy]
  cases answered : read db.tables with
  | ok value => exact .done (.refl db) rfl (found _ _ start answered)
  | error error => exact .failed (.refl db) rfl (missed _ _ start answered)

/-- One session for each member of a list, told by what holds after some of them. -/
theorem meets_mapM {session : γ → Session Database α} {items : List γ}
    {motive : List γ → List α → Tables → Prop}
    (step : ∀ done item rest values, items = done ++ item :: rest →
      Meets setting (motive done values) (session item)
        (fun value => motive (done ++ [item]) (values ++ [value])) bad) :
    Meets setting (motive [] []) (items.mapM session) (motive items) bad := by
  -- the induction is on what is left of the list, for all splits of it
  have onward (done rest : List γ) (values : List α) (all : items = done ++ rest) :
      Meets setting (motive done values) (rest.mapM session)
        (fun more => motive items (values ++ more)) bad := by
    induction rest generalizing done values with
    | nil =>
      rw [List.mapM_nil]
      apply meets_pure
      intro tables start
      rw [List.append_nil] at all
      subst all
      simpa using start
    | cons item rest ih =>
      rw [List.mapM_cons]
      apply meets_bind (step done item rest values all)
      intro value
      apply meets_bind (ih (done ++ [item]) (values ++ [value]) (by simp [all]))
      intro more
      apply meets_pure
      intro tables start
      simpa using start
  exact onward [] items [] rfl

/-- A loop over a list, told by what holds after some of its rounds. -/
theorem meets_forIn {session : γ → Session Database Unit} {items : List γ}
    {motive : List γ → Tables → Prop}
    (step : ∀ done item rest, items = done ++ item :: rest →
      Meets setting (motive done) (session item) (fun _ => motive (done ++ [item])) bad) :
    Meets setting (motive [])
      (ForIn.forIn items PUnit.unit fun item _ => do
        session item
        pure (ForInStep.yield PUnit.unit)) (fun _ => motive items) bad := by
  have onward (done rest : List γ) (all : items = done ++ rest) :
      Meets setting (motive done)
        (ForIn.forIn rest PUnit.unit fun item _ => do
          session item
          pure (ForInStep.yield PUnit.unit)) (fun _ => motive items) bad := by
    induction rest generalizing done with
    | nil =>
      rw [List.forIn_nil]
      apply meets_pure
      intro tables start
      rw [List.append_nil] at all
      exact all ▸ start
    | cons item rest ih =>
      rw [List.forIn_cons]
      have round : Meets setting (motive done)
          (session item >>= fun _ => pure (ForInStep.yield PUnit.unit))
          (fun next tables => next = .yield PUnit.unit ∧ motive (done ++ [item]) tables) bad :=
        meets_bind (step done item rest all) fun _ => meets_pure fun tables start => ⟨rfl, start⟩
      apply meets_bind round
      intro next db holds start
      obtain ⟨rfl, start⟩ := start
      exact ih (done ++ [item]) (by simp [all]) db holds start
  exact onward [] items rfl

end Session

end Gazette
