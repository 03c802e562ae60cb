/-!
# Blank characters

The characters with the white space property, and the removal of those at the ends of
a text.
-/

set_option autoImplicit false

namespace Gazette.Blank

/-- The code points with the white space property, as closed ranges. -/
def ranges : List (Nat × Nat) :=
  [(0x9, 0xD), (0x20, 0x20), (0x85, 0x85), (0xA0, 0xA0), (0x1680, 0x1680), (0x2000, 0x200A),
   (0x2028, 0x2029), (0x202F, 0x202F), (0x205F, 0x205F), (0x3000, 0x3000)]

/-- Whether a character is blank. -/
def holds (c : Char) : Bool :=
  ranges.any fun range => range.1 ≤ c.toNat && c.toNat ≤ range.2

/-- A text without the blanks at its start. -/
def dropStart (text : List Char) : List Char :=
  text.dropWhile holds

/-- A text without the blanks at either end. -/
def trim (text : List Char) : List Char :=
  (dropStart (dropStart text).reverse).reverse

end Gazette.Blank
