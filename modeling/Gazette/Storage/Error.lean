import Gazette.Cache.Error

/-!
# Storage errors

What a storage operation reports to its caller.  The error of a unit of work wraps the
error that made it fail; whoever classifies an error looks through such wrappers at the
root cause, so that a failed unit of work is answered like the step that failed.
-/

set_option autoImplicit false

namespace Gazette

/-- A failure of a storage operation.  `entity` names the kind of thing that was worked on. -/
inductive StorageError where
  | notFound (entity id : String)
  | keyConflict (entity id : String)
  | connectionFailed (text : String)
  | queryFailed (text : String)
  | serialization (text : String)
  | invalidData (text : String)
  | cache (error : CacheError)
  | transaction (text : String)
  | aborted (cause : StorageError)
  | rollbackFailed (cause : StorageError) (rollback : String)
  deriving DecidableEq

namespace StorageError

/-- The wording of a storage error. -/
def message : StorageError → String
  | .notFound entity id => entity ++ " not found: " ++ id
  | .keyConflict entity id => entity ++ " conflicts with an existing key: " ++ id
  | .connectionFailed text => "Connection failed: " ++ text
  | .queryFailed text => "Query failed: " ++ text
  | .serialization text => "Serialization error: " ++ text
  | .invalidData text => "Invalid data: " ++ text
  | .cache error => error.message
  | .transaction text => "Transaction failed: " ++ text
  | .aborted cause => "Transaction aborted: " ++ cause.message
  | .rollbackFailed cause rollback =>
    "Transaction aborted: " ++ cause.message ++ " (rollback failed: " ++ rollback ++ ")"

/-- The error under all wrappers of units of work. -/
def rootCause : StorageError → StorageError
  | .aborted cause => cause.rootCause
  | .rollbackFailed cause _ => cause.rootCause
  | error => error

/-- Whether something was missing. -/
def isNotFound (error : StorageError) : Bool :=
  match error.rootCause with
  | .notFound _ _ => true
  | _ => false

/-- Whether a key was taken. -/
def isKeyConflict (error : StorageError) : Bool :=
  match error.rootCause with
  | .keyConflict _ _ => true
  | _ => false

/-- The response status that tells a client about the error. -/
def status (error : StorageError) : Nat :=
  match error.rootCause with
  | .notFound _ _ => 404
  | .keyConflict _ _ => 409
  | .invalidData _ => 400
  | .connectionFailed _ => 503
  | _ => 500

end StorageError

end Gazette
