/-!
# Stored values

A column of a table holds a value of one of five kinds.  The kind is a property of the
value, not of the column, so a row may hold a kind that its reader does not expect.
-/

set_option autoImplicit false

namespace Gazette

/-- The kinds of stored values. -/
inductive CellKind where
  | null
  | integer
  | real
  | text
  | blob
  deriving DecidableEq

/-- The name of a kind. -/
def CellKind.name : CellKind → String
  | .null => "Null"
  | .integer => "Integer"
  | .real => "Real"
  | .text => "Text"
  | .blob => "Blob"

/-- A stored value.  A real number is kept as the bits of its double. -/
inductive Cell where
  | null
  | integer (value : Int64)
  | real (bits : UInt64)
  | text (value : String)
  | blob (bytes : List UInt8)
  deriving DecidableEq

/-- The kind of a stored value. -/
def Cell.kind : Cell → CellKind
  | .null => .null
  | .integer _ => .integer
  | .real _ => .real
  | .text _ => .text
  | .blob _ => .blob

end Gazette
