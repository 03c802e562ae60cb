import Gazette.Number.Binary

/-!
# Doubles to a count of digits

The decimal of a given count of digits that is nearest to a double.  The digits come from
exact arithmetic, a half is rounded up, and zeros at the end are left out.
-/

set_option autoImplicit false

namespace Gazette

/-- The same decimal without zeros at the end of its digits. -/
def Scientific.trimmed (d : Scientific) : Scientific :=
  let zeros := ((Nat.toDigits 10 d.digits).reverse.takeWhile (· = '0')).length
  ⟨d.digits / Nat.pow 10 zeros, d.exponent + zeros⟩

/-- The decimal with at most `count` digits that is nearest to the double. -/
def Binary.rounded (count : Nat) (b : Binary) : Scientific :=
  let exponent := b.magnitude - count
  let step := b.gridValue exponent 1
  Scientific.trimmed ⟨(2 * b.value exponent + step) / (2 * step), exponent⟩

end Gazette
