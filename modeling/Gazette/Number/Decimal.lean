/-!
# Decimal integers

Integers of 32 and 64 bits, and their decimal spelling: digits, which may follow a sign.
-/

set_option autoImplicit false

namespace Gazette

/-- The smallest integer of 64 bits. -/
def smallestInt64 : Int := -9223372036854775808

/-- The largest integer of 64 bits. -/
def largestInt64 : Int := 9223372036854775807

/-- The largest natural number of 64 bits. -/
def largestUInt64 : Nat := 18446744073709551615

/-- The largest natural number of 32 bits. -/
def largestUInt32 : Nat := 4294967295

namespace Decimal

/-- The number that some digits spell. -/
def value (digits : List Char) : Nat :=
  digits.foldl (fun value c => 10 * value + (c.toNat - '0'.toNat)) 0

/-- The number that a text of digits spells. -/
def digits? (text : List Char) : Option Nat :=
  if text ≠ [] ∧ text.all Char.isDigit then some (value text) else none

/-- The number of 64 bits that a text spells: digits, which may follow a plus. -/
def uint64? (text : List Char) : Option UInt64 :=
  let digits := match text with
    | '+' :: rest => rest
    | _ => text
  match digits? digits with
  | some n => if n ≤ largestUInt64 then some (UInt64.ofNat n) else none
  | none => none

/-- The integer that a text spells: digits, which may follow a sign. -/
def integer? (text : List Char) : Option Int :=
  match text with
  | '-' :: rest => (digits? rest).map fun n => -(n : Int)
  | '+' :: rest => (digits? rest).map Int.ofNat
  | _ => (digits? text).map Int.ofNat

/-- The integer of 64 bits that a text spells. -/
def int64? (text : List Char) : Option Int64 :=
  match integer? text with
  | some n => if smallestInt64 ≤ n ∧ n ≤ largestInt64 then some (Int64.ofInt n) else none
  | none => none

end Decimal

end Gazette
