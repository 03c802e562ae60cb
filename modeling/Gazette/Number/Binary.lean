/-!
# Doubles on decimal grids

The magnitude of a double is a whole multiple of a power of two, and a decimal is a whole
multiple of a power of ten.  Both are brought to one scale, on which they are natural numbers
and can be compared exactly.
-/

set_option autoImplicit false

namespace Gazette

/-- A positive double `mantissa * 2 ^ exponent`.  The flag tells that the gap to the double
below is half the gap to the double above. -/
structure Binary where
  mantissa : Nat
  exponent : Int
  narrow : Bool

/-- A decimal `digits * 10 ^ exponent`. -/
structure Scientific where
  digits : Nat
  exponent : Int
  deriving DecidableEq

namespace Binary

/-- The leading bit of a mantissa, which the bits of a double leave out. -/
def hiddenBit : Nat := 4503599627370496

/-- The bit that holds the sign of a double. -/
def signBit : Nat := 9223372036854775808

/-- Whether the double with the given bits has a minus sign. -/
def isNegative (bits : UInt64) : Bool :=
  bits.toNat / signBit = 1

/-- Whether the double with the given bits is one of the two zeros. -/
def isZero (bits : UInt64) : Bool :=
  bits.toNat % signBit = 0

/-- The magnitude of a finite double other than zero. -/
def ofBits (bits : UInt64) : Binary :=
  let fraction : Nat := bits.toNat % hiddenBit
  let biased : Nat := bits.toNat / hiddenBit % 2048
  if biased = 0 then ⟨fraction, -1074, false⟩
  else ⟨hiddenBit + fraction, (biased : Int) - 1075, fraction = 0 && biased ≠ 1⟩

/-- `count * 10 ^ exponent` on the scale where a quarter unit of the double's last place and a
unit of the decimal grid are both whole. -/
def gridValue (b : Binary) (exponent : Int) (count : Nat) : Nat :=
  count * Nat.pow 10 exponent.toNat * Nat.pow 2 (2 - b.exponent).toNat

/-- `quarters` quarter units of the double's last place on the same scale. -/
def quarterValue (b : Binary) (exponent : Int) (quarters : Nat) : Nat :=
  quarters * Nat.pow 2 (b.exponent - 2).toNat * Nat.pow 10 (-exponent).toNat

/-- The double itself on the same scale. -/
def value (b : Binary) (exponent : Int) : Nat :=
  b.quarterValue exponent (4 * b.mantissa)

/-- The least exponent of ten above the double, searched upwards. -/
def magnitude (b : Binary) : Int :=
  let candidates := (List.range 640).map fun (n : Nat) => (n : Int) - 326
  (candidates.find? fun k => b.value k < b.gridValue k 1).getD 0

end Binary

end Gazette
