import Gazette.Json.Lexeme
import Gazette.Number.Decimal

/-!
# Numbers in a payload

A number without a point and an exponent is an integer as long as it fits 64 bits; every
other number is a double.  The digits of a double are gathered into a 64-bit significand,
digits that no longer fit only count for the exponent, and the significand is scaled by a
power of ten in double arithmetic.
-/

set_option autoImplicit false

namespace Gazette.Json

/-- A number as read: an integer of 64 bits, or the bits of a double. -/
inductive Literal where
  | integer (value : Int)
  | float (bits : UInt64)
  deriving DecidableEq

/-- What a number counts as where it is not wanted. -/
def Literal.found : Literal → Found
  | .integer value => .integer value
  | .float bits => .float bits

/-- The largest power of ten that an exponent can name. -/
def largestPower : Nat := 2147483647

/-- The value of a digit. -/
def digitValue (b : UInt8) : Nat := b.toNat - 0x30

/-- Appends digits to a significand while it fits.  The second number counts the digits that
were left out. -/
def gather (significand : Nat) : Payload → Nat × Nat
  | [] => (significand, 0)
  | d :: digits =>
    if significand * 10 + digitValue d ≤ largestUInt64 then
      gather (significand * 10 + digitValue d) digits
    else (significand, digits.length + 1)

/-- The digits at the start of the input, and what follows them. -/
def spanDigits (input : Payload) : Payload × Payload :=
  (input.takeWhile Ascii.isDigit, input.dropWhile Ascii.isDigit)

/-- A power of ten as a double. -/
def powerOfTen (n : Nat) : Float :=
  Float.ofScientific 1 false n

/-- A double scaled by a power of ten, in as many divisions as small powers need.  There is no
result if it would be infinite. -/
def scale : Nat → Float → Int → Option Float
  | 0, _, _ => some 0
  | rounds + 1, value, exponent =>
    if exponent.natAbs ≤ 308 then
      if 0 ≤ exponent then
        let scaled := value * powerOfTen exponent.toNat
        if scaled.isInf then none else some scaled
      else some (value / powerOfTen exponent.natAbs)
    else if value == 0 then some value
    else if 0 ≤ exponent then none
    else scale rounds (value / powerOfTen 308) (exponent + 308)

/-- The double with the given sign, significand and exponent of ten. -/
def double (positive : Bool) (significand : Nat) (exponent : Int) : Except Fault Literal :=
  match scale 4 significand.toUInt64.toFloat exponent with
  | some value => .ok (.float (if positive then value else -value).toBits)
  | none => .error .numberOutOfRange

/-- The input without the sign that may stand before an exponent. -/
def dropSign (input : Payload) : Payload :=
  (after? Ascii.plus input <|> after? Ascii.minus input).getD input

/-- The exponent after its `e`. -/
def exponentPart (positive : Bool) (significand : Nat) (start : Int) (input : Payload) :
    Except Fault (Literal × Payload) := do
  let up := (after? Ascii.minus input).isNone
  let (digits, rest) := spanDigits (dropSign input)
  match digits, rest with
  | [], [] => .error .endInValue
  | [], _ => .error .invalidNumber
  | _, _ =>
    let power := digits.foldl (fun n d => n * 10 + digitValue d) 0
    if power ≤ largestPower then
      let literal ← double positive significand (if up then start + power else start - power)
      return (literal, rest)
    else if significand ≠ 0 && up then .error .numberOutOfRange
    else return (.float (if positive then (0.0 : Float) else -0.0).toBits, rest)

/-- What may follow the digits of a double: an exponent or nothing. -/
def afterDigits (positive : Bool) (significand : Nat) (exponent : Int) (input : Payload) :
    Except Fault (Literal × Payload) := do
  match input with
  | b :: rest =>
    if Ascii.isExponent b then exponentPart positive significand exponent rest
    else return (← double positive significand exponent, input)
  | [] => return (← double positive significand exponent, input)

/-- The digits after the point. -/
def fractionPart (positive : Bool) (significand : Nat) (start : Int) (input : Payload) :
    Except Fault (Literal × Payload) :=
  let (digits, rest) := spanDigits input
  match digits, rest with
  | [], [] => .error .endInValue
  | [], _ => .error .invalidNumber
  | _, _ =>
    let (longer, dropped) := gather significand digits
    afterDigits positive longer (start - (digits.length - dropped : Nat)) rest

/-- The end of a number whose whole part has been gathered. -/
def afterWhole (positive : Bool) (significand dropped : Nat) (input : Payload) :
    Except Fault (Literal × Payload) :=
  match after? Ascii.point input with
  | some rest => fractionPart positive significand dropped rest
  | none =>
    if dropped ≠ 0 ∨ (input.head?.map Ascii.isExponent).getD false then
      afterDigits positive significand dropped input
    else if positive then .ok (.integer significand, input)
    else if significand ≠ 0 ∧ -(significand : Int) ≥ smallestInt64 then
      .ok (.integer (-significand), input)
    else .ok (.float (-significand.toUInt64.toFloat).toBits, input)

/-- A number after its sign. -/
def number (positive : Bool) (input : Payload) : Except Fault (Literal × Payload) :=
  match input with
  | [] => .error .endInValue
  | b :: rest =>
    if b = Ascii.zero then
      if (rest.head?.map Ascii.isDigit).getD false then .error .invalidNumber
      else afterWhole positive 0 0 rest
    else if Ascii.isDigit b then
      let (digits, after) := spanDigits input
      let (significand, dropped) := gather 0 digits
      afterWhole positive significand dropped after
    else .error .invalidNumber

/-- A number at the start of the input, which begins with a minus sign or a digit. -/
def signedNumber (input : Payload) : Except Fault (Literal × Payload) :=
  match after? Ascii.minus input with
  | some rest => number false rest
  | none => number true input

end Gazette.Json
