import Gazette.Storage.Change
import Gazette.Task

/-!
# The database

The database holds the tables and, while a unit of work is open, the tables as they were at
its start.  Statements run one at a time; each either takes effect or leaves no trace.  A
unit of work either commits, or everything since its start is undone.  A statement that ends
its unit of work undoes it at once, and from then on statements take effect on their own.

Besides its contents the database has circumstances: triggers, tables that are missing, and
another connection that may hold a lock.  They are healthy unless something has put them
otherwise.
-/

set_option autoImplicit false

namespace Gazette

/-- The state of the database. -/
structure Database where
  tables : Tables := {}
  beforeWork : Option Tables := none
  triggers : List Trigger := []
  missing : List TableName := []
  locked : Bool := false
  clock : Nat → Instant
  readings : Nat := 0

/-- An operation of the engine, which may fail. -/
abbrev Engine (α : Type) := ExceptT EngineError (StateM Database) α

/-- An operation of the storage, which may fail. -/
abbrev Session (σ α : Type) := ExceptT StorageError (StateM σ) α

/-- A session as a task that answers with the session's result. -/
def Session.task {σ α : Type} (session : Session σ α) : Task σ (Except StorageError α) :=
  Task.ofState fun state => session.run state

/-- What a statement needs a table for: it works on the table itself, or on rows that refer to
the table. -/
inductive Need where
  | itself (table : TableName)
  | referred (table : TableName)
  deriving DecidableEq

namespace Need

/-- The table that is needed. -/
def table : Need → TableName
  | .itself table => table
  | .referred table => table

/-- How the table is called when it is missing. -/
def text : Need → String
  | .itself table => table.text
  | .referred table => "main." ++ table.text

end Need

namespace Database

/-- The report of the engine about another connection's lock. -/
def lockText : String := "database schema is locked: main"

/-- The tables with all effects of the open unit of work undone, and the unit of work closed. -/
def undone (db : Database) : Database :=
  match db.beforeWork with
  | some tables => { db with tables, beforeWork := none }
  | none => db

/-- Runs one statement. -/
def statement {α : Type} (needs : List Need)
    (change : List Trigger → Tables → Except Refusal (α × Tables)) : Engine α :=
  ExceptT.mk fun db =>
    if db.locked then (.error (.failure 262 (some lockText)), db)
    else
      match needs.find? fun need => need.table ∈ db.missing with
      | some need => (.error (.failure 1 (some ("no such table: " ++ need.text))), db)
      | none =>
        match change db.triggers db.tables with
        | .ok (value, tables) => (.ok value, { db with tables })
        | .error refusal =>
          (.error refusal.error, if refusal.endsWork then db.undone else db)

/-- Runs one query. -/
def query {α : Type} (needs : List TableName) (read : Tables → Except EngineError α) :
    Engine α :=
  statement (needs.map .itself) fun _ tables =>
    match read tables with
    | .ok value => .ok (value, tables)
    | .error error => .error ⟨error, false⟩

/-- Runs one statement that gives no value. -/
def execute (needs : List Need) (change : List Trigger → Tables → Except Refusal Tables) :
    Engine Unit :=
  statement needs fun triggers tables => (change triggers tables).map fun after => ((), after)

/-- The next reading of the clock. -/
def now : Session Database Instant :=
  ExceptT.mk fun db => (.ok (db.clock db.readings), { db with readings := db.readings + 1 })

/-- Runs a body as one unit of work.  The second part of the result is what the body reports,
unless the unit of work could not be started. -/
def unitOfWork {α ρ : Type} (body : StateM Database (Except StorageError α × ρ)) :
    StateM Database (Except StorageError α × Option ρ) := fun db =>
  if db.locked then ((.error (.transaction ("begin: " ++ lockText)), none), db)
  else
    match body { db with beforeWork := some db.tables } with
    | ((.ok value, report), after) =>
      match after.beforeWork with
      | some _ => ((.ok value, some report), { after with beforeWork := none })
      | none =>
        ((.error (.transaction "commit: cannot commit - no transaction is active"),
          some report), after)
    | ((.error cause, report), after) =>
      match after.beforeWork with
      | some _ => ((.error cause, some report), after.undone)
      | none =>
        ((.error (.rollbackFailed cause "cannot rollback - no transaction is active"),
          some report), after)

/-- Runs a session as one unit of work. -/
def transaction {α : Type} (body : Session Database α) : Session Database α :=
  ExceptT.mk fun db =>
    let ((result, _), after) :=
      unitOfWork (fun inner => let (result, last) := body.run inner; ((result, ()), last)) db
    (result, after)

end Database

/-- An engine operation as part of a session that works on `entity` under the name `id`. -/
def Engine.about {α : Type} (operation : Engine α) (entity id : String) : Session Database α :=
  ExceptT.adapt (EngineError.about entity id) operation

/-- A session of one engine operation does what the operation does.  Its error says what it worked
on. -/
theorem Engine.run_about {α : Type} (operation : Engine α) (entity id : String) (db : Database) :
    (operation.about entity id).run db =
      ((operation.run db).1.mapError (EngineError.about entity id), (operation.run db).2) :=
  rfl

end Gazette
