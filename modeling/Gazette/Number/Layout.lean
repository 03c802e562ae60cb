import Gazette.Number.Binary

/-!
# The layout of decimals

The digits of a decimal are written around a point as long as the leading digit stands near
it, and otherwise with one digit before the point and an exponent, whose sign is always
written.
-/

set_option autoImplicit false

namespace Gazette

/-- How decimals are written.  The bounds are powers of ten of the leading digit. -/
structure NumberLayout where
  lowestPositional : Int
  highestPositional : Int
  exponentDigits : Nat
  pointWithExponent : Bool

namespace NumberLayout

/-- Some digits after a point, at least one. -/
def fraction (digits : List Char) : List Char :=
  '.' :: if digits = [] then ['0'] else digits

/-- A decimal with an exponent, given its digits and the power of ten of the first one. -/
def withExponent (layout : NumberLayout) (digits : List Char) (lead : Int) : List Char :=
  let power := Nat.toDigits 10 lead.natAbs
  let zeros := List.replicate (layout.exponentDigits - power.length) '0'
  let point := digits.length ≠ 1 || layout.pointWithExponent
  digits.take 1 ++ (if point then fraction (digits.drop 1) else []) ++
    'e' :: (if lead < 0 then '-' else '+') :: (zeros ++ power)

/-- A decimal around its point, given its digits and the power of ten of the first one. -/
def positional (digits : List Char) (lead : Int) : List Char :=
  if lead < 0 then
    '0' :: fraction (List.replicate (-lead - 1).toNat '0' ++ digits)
  else
    let whole := digits ++ List.replicate (lead.toNat + 1 - digits.length) '0'
    whole.take (lead.toNat + 1) ++ fraction (digits.drop (lead.toNat + 1))

/-- The text of a positive decimal. -/
def decimal (layout : NumberLayout) (d : Scientific) : List Char :=
  let digits := Nat.toDigits 10 d.digits
  let lead := d.exponent + digits.length - 1
  if lead < layout.lowestPositional ∨ layout.highestPositional < lead then
    layout.withExponent digits lead
  else positional digits lead

end NumberLayout

end Gazette
