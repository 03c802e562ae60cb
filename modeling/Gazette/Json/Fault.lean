import Gazette.Number.Layout
import Gazette.Number.Shortest
import Gazette.Text.Quoted
import Gazette.Time.Reading

/-!
# Why a payload is refused

A payload is read with the type of the value in mind, and the first thing that does not
fit ends the reading.  This file names what can go wrong and words it.
-/

set_option autoImplicit false

namespace Gazette.Json

/-- What stands in the payload where something else was expected.  A number that is no
integer is kept as the bits of its double. -/
inductive Found where
  | integer (value : Int)
  | float (bits : UInt64)
  | boolean (value : Bool)
  | text (value : String)
  | null
  | sequence
  | object
  deriving DecidableEq

/-- What the type of the value calls for. -/
inductive Expected where
  | int64
  | uint32
  | text
  | boolean
  | sequence
  | record (name : String)
  | instant
  deriving DecidableEq

/-- Why a payload is refused. -/
inductive Fault where
  | endInValue
  | endInList
  | endInObject
  | endInText
  | expectedValue
  | expectedWord
  | expectedListEnd
  | expectedObjectEnd
  | expectedColon
  | invalidNumber
  | numberOutOfRange
  | trailingComma
  | trailingCharacters
  | keyNotText
  | invalidEscape
  | controlCharacter
  | loneSurrogate
  | unfinishedSurrogate
  | invalidCodePoint
  | wrongType (found : Found) (expected : Expected)
  | wrongValue (value : Int) (expected : Expected)
  | wrongLength (length : Nat) (name : String) (fields : Nat)
  | missingField (name : String)
  | duplicateField (name : String)
  | instant (fault : InstantFault)
  deriving DecidableEq

/-- Doubles are written positionally while the leading digit stands between the fifth place
after the point and the sixteenth before it. -/
def doubleLayout : NumberLayout := ⟨-5, 15, 1, false⟩

/-- The text of the finite double with the given bits. -/
def doubleText (bits : UInt64) : String :=
  let digits :=
    if Binary.isZero bits then ['0', '.', '0']
    else doubleLayout.decimal (Binary.ofBits bits).shortest
  String.ofList (if Binary.isNegative bits then '-' :: digits else digits)

/-- The wording of what was found. -/
def Found.message : Found → String
  | .integer value => "integer `" ++ toString value ++ "`"
  | .float bits => "floating point `" ++ doubleText bits ++ "`"
  | .boolean value => "boolean `" ++ (if value then "true" else "false") ++ "`"
  | .text value => "string " ++ quoted value
  | .null => "null"
  | .sequence => "sequence"
  | .object => "map"

/-- The wording of what was expected. -/
def Expected.message : Expected → String
  | .int64 => "i64"
  | .uint32 => "u32"
  | .text => "a string"
  | .boolean => "a boolean"
  | .sequence => "a sequence"
  | .record name => "struct " ++ name
  | .instant => "an RFC 3339 formatted date and time string"

/-- The wording of a refusal. -/
def Fault.message : Fault → String
  | .endInValue => "EOF while parsing a value"
  | .endInList => "EOF while parsing a list"
  | .endInObject => "EOF while parsing an object"
  | .endInText => "EOF while parsing a string"
  | .expectedValue => "expected value"
  | .expectedWord => "expected ident"
  | .expectedListEnd => "expected `,` or `]`"
  | .expectedObjectEnd => "expected `,` or `\x7d`"
  | .expectedColon => "expected `:`"
  | .invalidNumber => "invalid number"
  | .numberOutOfRange => "number out of range"
  | .trailingComma => "trailing comma"
  | .trailingCharacters => "trailing characters"
  | .keyNotText => "key must be a string"
  | .invalidEscape => "invalid escape"
  | .controlCharacter => "control character (\\u0000-\\u001F) found while parsing a string"
  | .loneSurrogate => "lone leading surrogate in hex escape"
  | .unfinishedSurrogate => "unexpected end of hex escape"
  | .invalidCodePoint => "invalid unicode code point"
  | .wrongType found expected =>
    "invalid type: " ++ found.message ++ ", expected " ++ expected.message
  | .wrongValue value expected =>
    "invalid value: " ++ (Found.integer value).message ++ ", expected " ++ expected.message
  | .wrongLength length name fields =>
    "invalid length " ++ toString length ++ ", expected struct " ++ name ++ " with " ++
      toString fields ++ (if fields = 1 then " element" else " elements")
  | .missingField name => "missing field `" ++ name ++ "`"
  | .duplicateField name => "duplicate field `" ++ name ++ "`"
  | .instant fault => fault.message

end Gazette.Json
