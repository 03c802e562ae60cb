import Gazette.Number.Binary

/-!
# The shortest decimal of a double

A double is written with the fewest decimal digits that read back as the same double, and
among those with the digits nearest to its exact value.  The digits are found by exact
arithmetic: for each count of digits the two decimal neighbours of the value are tested
against the interval of reals that round to it.
-/

set_option autoImplicit false

namespace Gazette.Binary

/-- Whether a decimal reads back as the double.  The ends of the interval do so exactly if the
mantissa is even. -/
def readsBack (b : Binary) (d : Scientific) : Bool :=
  let low := b.quarterValue d.exponent (4 * b.mantissa - if b.narrow then 1 else 2)
  let high := b.quarterValue d.exponent (4 * b.mantissa + 2)
  let value := b.gridValue d.exponent d.digits
  if b.mantissa % 2 = 0 then low ≤ value && value ≤ high else low < value && value < high

/-- The decimal of the grid `10 ^ exponent` that reads back, the nearer of the two neighbours
if both do. -/
def onGrid? (b : Binary) (exponent : Int) : Option Scientific :=
  let value := b.value exponent
  let step := b.gridValue exponent 1
  let low := value / step
  match b.readsBack ⟨low, exponent⟩ && 0 < low, b.readsBack ⟨low + 1, exponent⟩ with
  | true, true =>
    if 2 * (value % step) ≤ step then some ⟨low, exponent⟩ else some ⟨low + 1, exponent⟩
  | true, false => some ⟨low, exponent⟩
  | false, true => some ⟨low + 1, exponent⟩
  | false, false => none

/-- The shortest decimal that reads back as the double. -/
def shortest (b : Binary) : Scientific :=
  let top := b.magnitude
  let grids := (List.range 18).map fun (n : Nat) => top - (n : Int)
  (grids.findSome? b.onGrid?).getD ⟨b.mantissa, b.exponent⟩

end Gazette.Binary
