import Gazette.Time.Instant
import Gazette.Text.Blank

/-!
# Reading instants

Two readers of written instants.  The strict one takes the fixed form of RFC 3339 and
serves stored rows.  The relaxed one serves payloads: numbers may have fewer digits,
blanks may stand around the marks, the year may have a sign and more digits, and the zone
may be spelled `UTC`.  Both tell why a text is refused.
-/

set_option autoImplicit false

namespace Gazette

/-- Why a text is not an instant. -/
inductive InstantFault where
  | tooShort
  | invalid
  | outOfRange
  | trailing
  | impossible
  deriving DecidableEq

/-- The wording of a refusal. -/
def InstantFault.message : InstantFault → String
  | .tooShort => "premature end of input"
  | .invalid => "input contains invalid characters"
  | .outOfRange => "input is out of range"
  | .trailing => "trailing input"
  | .impossible => "no possible date and time matching input"

namespace InstantReading

/-- The value of a decimal digit. -/
def digit? (c : Char) : Option Nat :=
  if c.isDigit then some (c.toNat - '0'.toNat) else none

/-- Exactly `count` digits, appended to the number read so far. -/
def exactly : Nat → Nat → List Char → Except InstantFault (Nat × List Char)
  | 0, value, text => .ok (value, text)
  | _ + 1, _, [] => .error .tooShort
  | count + 1, value, c :: rest =>
    match digit? c with
    | some d => exactly count (value * 10 + d) rest
    | none => .error .invalid

/-- As many digits as follow, but no more than `count`. -/
def upTo : Nat → Nat → List Char → Nat × List Char
  | 0, value, text => (value, text)
  | _ + 1, value, [] => (value, [])
  | count + 1, value, c :: rest =>
    match digit? c with
    | some d => upTo count (value * 10 + d) rest
    | none => (value, c :: rest)

/-- Between one digit and `count` of them. -/
def number (count : Nat) (text : List Char) : Except InstantFault (Nat × List Char) :=
  match text with
  | [] => .error .tooShort
  | c :: _ => if c.isDigit then .ok (upTo count 0 text) else .error .invalid

/-- One given character. -/
def mark (expected : Char) : List Char → Except InstantFault (List Char)
  | [] => .error .tooShort
  | c :: rest => if c = expected then .ok rest else .error .invalid

/-- The mark between date and time. -/
def separator : List Char → Except InstantFault (List Char)
  | [] => .error .tooShort
  | c :: rest => if c = 'T' ∨ c = 't' ∨ c = ' ' then .ok rest else .error .invalid

/-- The nanoseconds of an optional fraction.  Digits after the ninth are dropped. -/
def fraction : List Char → Except InstantFault (Nat × List Char)
  | '.' :: rest => do
    let (value, after) ← number 9 rest
    let digits := rest.length - after.length
    return (value * Nat.pow 10 (9 - digits), after.dropWhile Char.isDigit)
  | text => .ok (0, text)

/-- A value that must lie between two bounds. -/
def between (low high value : Nat) : Except InstantFault Unit :=
  if low ≤ value ∧ value ≤ high then .ok () else .error .outOfRange

/-- The two digits of the hours or minutes of an offset.  A single character counts as cut
off only if it takes a single byte. -/
def offsetDigits : List Char → Except InstantFault (Char × Char × List Char)
  | [] => .error .tooShort
  | [c] => if c.toNat < 128 then .error .tooShort else .error .invalid
  | a :: b :: rest => .ok (a, b, rest)

/-- An offset in minutes: `Z`, or a sign with hours and minutes.  The argument tells what may
stand between the hours and the minutes. -/
def offset (gap : List Char → Except InstantFault (List Char)) :
    List Char → Except InstantFault (Int × List Char)
  | [] => .error .tooShort
  | sign :: rest =>
    if sign = 'Z' ∨ sign = 'z' then .ok (0, rest)
    else if sign = '+' ∨ sign = '-' ∨ sign = '\u2212' then do
      let (a, b, rest) ← offsetDigits rest
      let hours ← match digit? a, digit? b with
        | some h, some l => pure (h * 10 + l)
        | _, _ => throw .invalid
      let rest ← gap rest
      let (c, d, rest) ← offsetDigits rest
      let minutes ← match digit? c, digit? d with
        | some h, some l => if h < 6 then pure (h * 10 + l) else throw .outOfRange
        | _, _ => throw .invalid
      let total : Int := hours * 60 + minutes
      return (if sign = '+' then total else -total, rest)
    else .error .invalid

/-- The instant of a local date and time with an offset of less than a day. -/
def settle (date : Date) (time : TimeOfDay) (offset : Int) : Except InstantFault Instant :=
  if -1440 < offset ∧ offset < 1440 then
    match Instant.ofLocal? date time offset with
    | some instant => .ok instant
    | none => .error .impossible
  else .error .outOfRange

/-- A year that may have a sign, in which case it may have more than four digits. -/
def signedYear : List Char → Except InstantFault (Int × List Char)
  | '-' :: rest => do
    let (value, after) ← number rest.length rest
    if value ≤ 2147483648 then return (-(value : Int), after) else throw .outOfRange
  | '+' :: rest => do
    let (value, after) ← number rest.length rest
    if value < 2147483648 then return ((value : Int), after) else throw .outOfRange
  | text => do
    let (value, after) ← number 4 text
    return ((value : Int), after)

/-- The offset of the relaxed form, where blanks and colons may stand between hours and
minutes and the zone may be named. -/
def relaxedOffset (text : List Char) : Except InstantFault (Int × List Char) :=
  if (text.take 3).map Char.toUpper = ['U', 'T', 'C'] then .ok (0, text.drop 3)
  else offset (fun s => .ok (s.dropWhile fun c => c = ':' || Blank.holds c)) text

end InstantReading

open InstantReading in
/-- Reads the fixed form of RFC 3339. -/
def Instant.readStrict (text : String) : Except InstantFault Instant := do
  if text.utf8ByteSize < 19 then throw .tooShort
  let (year, rest) ← exactly 4 0 text.toList
  let rest ← mark '-' rest
  let (month, rest) ← exactly 2 0 rest
  let rest ← mark '-' rest
  let (day, rest) ← exactly 2 0 rest
  let some date := Date.of? year month day | throw .outOfRange
  let rest ← separator rest
  let (hour, rest) ← exactly 2 0 rest
  let rest ← mark ':' rest
  let (minute, rest) ← exactly 2 0 rest
  let rest ← mark ':' rest
  let (second, rest) ← exactly 2 0 rest
  let (nano, rest) ← fraction rest
  let some time := TimeOfDay.of? hour minute second nano | throw .outOfRange
  let (shift, rest) ← offset (mark ':') rest
  if rest ≠ [] then throw .trailing
  settle date time shift

open InstantReading in
/-- Reads the relaxed form. -/
def Instant.readRelaxed (text : String) : Except InstantFault Instant := do
  let (year, rest) ← signedYear (Blank.dropStart text.toList)
  let rest ← mark '-' (Blank.dropStart rest)
  let (month, rest) ← number 2 (Blank.dropStart rest)
  between 1 12 month
  let rest ← mark '-' (Blank.dropStart rest)
  let (day, rest) ← number 2 (Blank.dropStart rest)
  between 1 31 day
  let rest ← separator rest
  let (hour, rest) ← number 2 (Blank.dropStart rest)
  between 0 23 hour
  let rest ← mark ':' (Blank.dropStart rest)
  let (minute, rest) ← number 2 (Blank.dropStart rest)
  between 0 59 minute
  let rest ← mark ':' (Blank.dropStart rest)
  let (second, rest) ← number 2 (Blank.dropStart rest)
  between 0 60 second
  let (nano, rest) ← fraction rest
  let (shift, rest) ← relaxedOffset (Blank.dropStart rest)
  if Blank.dropStart rest ≠ [] then throw .trailing
  let some date := Date.of? year month day | throw .outOfRange
  let some time := TimeOfDay.of? hour minute second nano | throw .outOfRange
  settle date time shift

end Gazette
