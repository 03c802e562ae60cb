import Gazette.Account
import Gazette.Article
import Gazette.Storage.EngineError

/-!
# Rows as entities

A query returns rows of named columns.  Each reader below takes its columns by position
and fails on the first one that is missing or of the wrong kind.  Readers take the written
instants first, and read them as instants only once the columns around them are in order.
Beside each reader stands the row that stores the entity.
-/

set_option autoImplicit false

namespace Gazette

/-- A column of a row. -/
structure Column where
  name : String
  cell : Cell
  deriving DecidableEq

/-- A row as a query returns it. -/
abbrev Row := List Column

namespace Row

/-- What reading a part of a row gives. -/
abbrev Reads (α : Type) := Row → Except EngineError α

/-- The column at a position. -/
def column (index : Nat) : Reads Column := fun row =>
  match row[index]? with
  | some column => .ok column
  | none => .error (.columnIndex index)

/-- The refusal of a column of the wrong kind. -/
def wrongKind (index : Nat) (column : Column) : EngineError :=
  .columnKind index column.name column.cell.kind

/-- The text at a position. -/
def text (index : Nat) : Reads String := fun row => do
  let column ← column index row
  match column.cell with
  | .text value => return value
  | _ => throw (wrongKind index column)

/-- The text at a position, which may be missing. -/
def text? (index : Nat) : Reads (Option String) := fun row => do
  let column ← column index row
  match column.cell with
  | .null => return none
  | .text value => return some value
  | _ => throw (wrongKind index column)

/-- The integer at a position. -/
def integer (index : Nat) : Reads Int64 := fun row => do
  let column ← column index row
  match column.cell with
  | .integer value => return value
  | _ => throw (wrongKind index column)

/-- The truth value at a position: any integer but zero is true. -/
def boolean (index : Nat) : Reads Bool := fun row => do
  let value ← integer index row
  return value != 0

/-- A written instant. -/
def instant (written : String) : Except EngineError Instant :=
  match Instant.readStrict written with
  | .ok value => .ok value
  | .error fault => .error (.conversion 0 .text fault.message)

/-- An account from the columns id, username, email, password, bio, image, disabled,
created_at, updated_at. -/
def account : Reads Account := fun row => do
  let created ← text 7 row
  let updated ← text 8 row
  let id ← integer 0 row
  let username ← text 1 row
  let email ← text 2 row
  let password ← text 3 row
  let bio ← text 4 row
  let image ← text 5 row
  let disabled ← boolean 6 row
  let createdAt ← instant created
  let updatedAt ← instant updated
  return { id, username, email, password, bio, image, disabled, createdAt, updatedAt }

/-- An author from the columns id, username, bio, image, the first of them at `start`. -/
def author (start : Nat) : Reads Author := fun row => do
  let id ← integer start row
  let username ← text (start + 1) row
  let bio ← text (start + 2) row
  let image ← text (start + 3) row
  return { id, username, bio, image }

/-- An article without its tags, from the columns id, slug, title, body, created_at,
updated_at, deleted_at_unix and those of its author. -/
def article : Reads Article := fun row => do
  let created ← text 4 row
  let updated ← text 5 row
  let id ← integer 0 row
  let slug ← text 1 row
  let title ← text 2 row
  let body ← text 3 row
  let author ← author 7 row
  let createdAt ← instant created
  let updatedAt ← instant updated
  let deletedAtUnix ← integer 6 row
  return { id, slug, title, body, author, tags := [], createdAt, updatedAt, deletedAtUnix }

/-- A tag from the columns id, name. -/
def tag : Reads Tag := fun row => do
  let id ← integer 0 row
  let name ← text 1 row
  return { id, name }

/-- The id of an article with one of its tags, from the columns article_id, id, name. -/
def articleTag : Reads (Int64 × Tag) := fun row => do
  let articleId ← integer 0 row
  let id ← integer 1 row
  let name ← text 2 row
  return (articleId, { id, name })

/-- A comment from the columns id, body, slug, created_at, updated_at, deleted_at and those of
its author. -/
def comment : Reads Comment := fun row => do
  let created ← text 3 row
  let updated ← text 4 row
  let deleted ← text? 5 row
  let id ← integer 0 row
  let body ← text 1 row
  let slug ← text 2 row
  let author ← author 6 row
  let createdAt ← instant created
  let updatedAt ← instant updated
  let deletedAt ← deleted.mapM instant
  return { id, body, slug, author, createdAt, updatedAt, deletedAt }

end Row

end Gazette
