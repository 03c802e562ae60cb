import Gazette.Number.Decimal

/-!
# Numbers in text

A numeral is a sign, digits around a point, and an exponent.  All parts but one digit can be
left out, and blanks may stand at both ends.
-/

set_option autoImplicit false

namespace Gazette

/-- The number `± significand * 10 ^ exponent`.  A numeral without a point and an exponent is
whole. -/
structure Numeral where
  negative : Bool
  significand : Nat
  exponent : Int
  whole : Bool
  deriving DecidableEq

namespace Numeral

/-- Whether a character is a space, a tab or the end of a line or a page. -/
def isBlank (c : Char) : Bool :=
  c = ' ' || ('\t' ≤ c && c ≤ '\r')

/-- A text without the blanks at either end. -/
def trim (text : List Char) : List Char :=
  ((text.dropWhile isBlank).reverse.dropWhile isBlank).reverse

/-- The exponent at the end of a numeral, if that is what the text is. -/
def exponent? : List Char → Option Int
  | [] => some 0
  | c :: rest => if c = 'e' ∨ c = 'E' then Decimal.integer? rest else none

/-- A numeral after its sign, given the digits before its point and the text after them. -/
def afterDigits? (negative : Bool) (digits rest : List Char) : Option Numeral :=
  let afterPoint := match rest with
    | '.' :: rest => rest
    | _ => []
  let places := afterPoint.takeWhile Char.isDigit
  let ending := match rest with
    | '.' :: _ => afterPoint.dropWhile Char.isDigit
    | _ => rest
  match Decimal.digits? (digits ++ places), exponent? ending with
  | some significand, some power =>
    some ⟨negative, significand, power - places.length, rest = []⟩
  | _, _ => none

/-- The numeral that a text is. -/
def read? (text : List Char) : Option Numeral :=
  let (negative, body) := match trim text with
    | '-' :: rest => (true, rest)
    | '+' :: rest => (false, rest)
    | body => (false, body)
  afterDigits? negative (body.takeWhile Char.isDigit) (body.dropWhile Char.isDigit)

/-- The integer that a whole numeral stands for, if it fits 64 bits. -/
def int64? (numeral : Numeral) : Option Int64 :=
  let value : Int := if numeral.negative then -numeral.significand else numeral.significand
  if numeral.whole ∧ smallestInt64 ≤ value ∧ value ≤ largestInt64 then some (Int64.ofInt value)
  else none

/-- No double has a larger exponent of ten, so exponents beyond it count the same. -/
def largestExponent : Int := 10000

/-- The double nearest to a numeral. -/
def double (numeral : Numeral) : Float :=
  let power := max (-largestExponent) (min largestExponent numeral.exponent)
  let magnitude := Float.ofScientific numeral.significand (power < 0) power.natAbs
  if numeral.negative then -magnitude else magnitude

end Numeral

end Gazette
