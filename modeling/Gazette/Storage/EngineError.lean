import Gazette.Storage.Cell
import Gazette.Storage.EngineCode
import Gazette.Storage.Error

/-!
# Errors of the storage engine

The engine reports a failed statement by a code, and misuse of a statement or a row by its
kind.  An operation turns this into a storage error about the thing that it worked on.
-/

set_option autoImplicit false

namespace Gazette

/-- A failure inside the storage engine.  The code of a failed statement is the extended one,
whose low byte is the primary code. -/
inductive EngineError where
  | failure (code : Int) (text : Option String)
  | noRows
  | integerRange (index value : Int)
  | parameterName (name : String)
  | columnIndex (index : Int)
  | columnName (name : String)
  | columnKind (index : Nat) (name : String) (kind : CellKind)
  | conversion (index : Nat) (kind : CellKind) (text : String)
  | changedRows (count : Int)
  | parameterCount (given needed : Int)
  | returnedRows
  | severalStatements
  | notReadOnly
  deriving DecidableEq

namespace EngineError

/-- Another connection is at work. -/
def busyCode : Int := 5

/-- A table is locked. -/
def lockedCode : Int := 6

/-- There is no room for another row. -/
def fullCode : Int := 13

/-- The database file cannot be opened. -/
def cannotOpenCode : Int := 14

/-- A reference has no target. -/
def foreignKeyCode : Int := 787

/-- A primary key is taken. -/
def primaryKeyCode : Int := 1555

/-- A trigger has raised an error. -/
def triggerCode : Int := 1811

/-- A unique column is taken. -/
def uniqueCode : Int := 2067

/-- The wording of an engine error. -/
def message : EngineError → String
  | .failure _ (some text) => text
  | .failure code none => "Error code " ++ toString code ++ ": " ++ EngineCode.describe code
  | .noRows => "Query returned no rows"
  | .integerRange index value =>
    "Integer " ++ toString value ++ " out of range at index " ++ toString index
  | .parameterName name => "Invalid parameter name: " ++ name
  | .columnIndex index => "Invalid column index: " ++ toString index
  | .columnName name => "Invalid column name: " ++ name
  | .columnKind index name kind =>
    "Invalid column type " ++ kind.name ++ " at index: " ++ toString index ++ ", name: " ++ name
  | .conversion index kind text =>
    "Conversion error from type " ++ kind.name ++ " at index: " ++ toString index ++ ", " ++ text
  | .changedRows count => "Query changed " ++ toString count ++ " rows"
  | .parameterCount given needed =>
    "Wrong number of parameters passed to query. Got " ++ toString given ++ ", needed " ++
      toString needed
  | .returnedRows => "Execute returned results - did you mean to call query?"
  | .severalStatements => "Multiple statements provided"
  | .notReadOnly => "Query is not read-only"

/-- The storage error for a failure while working on `entity` under the name `id`. -/
def about (entity id : String) (error : EngineError) : StorageError :=
  match error with
  | .failure code _ =>
    if code = uniqueCode ∨ code = primaryKeyCode then .keyConflict entity id
    else if code = foreignKeyCode then
      .invalidData ("Foreign key constraint violation for " ++ entity ++ " " ++ id)
    else if code % 256 = cannotOpenCode ∨ code % 256 = busyCode ∨ code % 256 = lockedCode then
      .connectionFailed error.message
    else .queryFailed error.message
  | .noRows => .notFound entity id
  | _ => .queryFailed error.message

end EngineError

/-- A failure of the connection to the engine. -/
inductive ConnectionError where
  | engine (error : EngineError)
  | closed
  | other (text : String)
  deriving DecidableEq

/-- The storage error for a failed connection while working on `entity`. -/
def ConnectionError.about (entity : String) : ConnectionError → StorageError
  | .engine error => error.about entity "unknown"
  | .closed => .connectionFailed "Connection closed unexpectedly"
  | .other text => .queryFailed ("Other(\"" ++ text ++ "\")")

end Gazette
