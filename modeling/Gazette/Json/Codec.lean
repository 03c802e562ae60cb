import Gazette.Json.Number

/-!
# Codecs

A codec writes the values of a type as payload bytes and reads them back.  Reading takes
the bytes that are left and returns the value with the rest, so codecs combine: a list
reads one element after the other, an optional value looks for `null` first.  A codec also
says what a record holds in a field that the payload leaves out, if it may be left out.
-/

set_option autoImplicit false

namespace Gazette

/-- How values of a type are written and read. -/
structure Codec (α : Type) where
  write : α → Payload
  read : Payload → Except Json.Fault (α × Payload)
  absent : Option α := none

namespace Json

/-- The refusal of an input that does not start with what the type calls for.  The value that
stands there is read first where it has to be shown, and its own refusal comes before. -/
def mismatch (expected : Expected) (input : Payload) : Fault :=
  match input with
  | [] => .endInValue
  | b :: rest =>
    let after (found : Found) (result : Except Fault Payload) : Fault :=
      match result with
      | .error fault => fault
      | .ok _ => .wrongType found expected
    if b = Ascii.lowerN then after .null (word nullRest rest)
    else if b = Ascii.lowerT then after (.boolean true) (word trueRest rest)
    else if b = Ascii.lowerF then after (.boolean false) (word falseRest rest)
    else if b = Ascii.minus ∨ Ascii.isDigit b then
      match signedNumber input with
      | .error fault => fault
      | .ok (literal, _) => .wrongType literal.found expected
    else if b = Ascii.quote then
      match textBody rest with
      | .error fault => fault
      | .ok (text, _) => .wrongType (.text text) expected
    else if b = Ascii.openList then .wrongType .sequence expected
    else if b = Ascii.openObject then .wrongType .object expected
    else .expectedValue

/-- An integer between two bounds. -/
def readInteger (low high : Int) (expected : Expected) (input : Payload) :
    Except Fault (Int × Payload) :=
  let input := skipBlank input
  match input with
  | [] => .error .endInValue
  | b :: _ =>
    if b = Ascii.minus ∨ Ascii.isDigit b then
      match signedNumber input with
      | .error fault => .error fault
      | .ok (.integer value, rest) =>
        if low ≤ value ∧ value ≤ high then .ok (value, rest)
        else .error (.wrongValue value expected)
      | .ok (.float bits, _) => .error (.wrongType (.float bits) expected)
    else .error (mismatch expected input)

/-- A text, wanted as `expected`. -/
def readText (expected : Expected) (input : Payload) : Except Fault (String × Payload) :=
  let input := skipBlank input
  match after? Ascii.quote input with
  | some rest => textBody rest
  | none => .error (mismatch expected input)

/-- A truth value. -/
def readBoolean (input : Payload) : Except Fault (Bool × Payload) :=
  let input := skipBlank input
  match after? Ascii.lowerT input, after? Ascii.lowerF input with
  | some rest, _ => (word trueRest rest).map fun rest => (true, rest)
  | none, some rest => (word falseRest rest).map fun rest => (false, rest)
  | none, none => .error (mismatch .boolean input)

/-- Where the next element of a list starts, or nothing at the end of the list. -/
def nextElement (first : Bool) (input : Payload) : Except Fault (Option Payload) :=
  match skipBlank input with
  | [] => .error .endInList
  | b :: rest =>
    if b = Ascii.closeList then .ok none
    else if first then .ok (some (b :: rest))
    else if b = Ascii.comma then
      match skipBlank rest with
      | [] => .error .endInValue
      | c :: rest => if c = Ascii.closeList then .error .trailingComma else .ok (some (c :: rest))
    else .error .expectedListEnd

/-- What follows a list whose elements have been read. -/
def endList (input : Payload) : Except Fault Payload :=
  match skipBlank input with
  | [] => .error .endInList
  | b :: rest =>
    if b = Ascii.closeList then .ok rest
    else if b = Ascii.comma ∧ (skipBlank rest).head? = some Ascii.closeList then
      .error .trailingComma
    else .error .trailingCharacters

/-- The elements of a list up to its end.  The first argument bounds their number; every
element takes a byte at least. -/
def readElements {α : Type} (read : Payload → Except Fault (α × Payload)) :
    Nat → Bool → Payload → Except Fault (List α × Payload)
  | 0, _, _ => .error .endInList
  | bound + 1, first, input => do
    match ← nextElement first input with
    | none => return ([], ← endList input)
    | some input =>
      let (value, input) ← read input
      let (values, rest) ← readElements read bound false input
      return (value :: values, rest)

/-- A list of any length. -/
def readList {α : Type} (read : Payload → Except Fault (α × Payload)) (input : Payload) :
    Except Fault (List α × Payload) :=
  let input := skipBlank input
  match after? Ascii.openList input with
  | some rest => readElements read (rest.length + 1) true rest
  | none => .error (mismatch .sequence input)

/-- The parts of a written value, with commas between them. -/
def commaSeparated : List Payload → Payload
  | [] => []
  | [part] => part
  | part :: parts => part ++ Ascii.comma :: commaSeparated parts

end Json

namespace Codec

open Json

variable {α β : Type}

/-- The bytes of a value. -/
def encode (codec : Codec α) (value : α) : Payload :=
  codec.write value

/-- The value that a whole payload holds. -/
def decode (codec : Codec α) (payload : Payload) : Except Fault α := do
  let (value, rest) ← codec.read payload
  if skipBlank rest = [] then return value else throw .trailingCharacters

/-- The same bytes for another type. -/
def imap (codec : Codec α) (make : α → β) (take : β → α) : Codec β where
  write value := codec.write (take value)
  read input := (codec.read input).map fun (value, rest) => (make value, rest)
  absent := codec.absent.map make

/-- Integers of 64 bits. -/
def int64 : Codec Int64 where
  write value := Utf8.bytes (toString value.toInt)
  read input :=
    (readInteger smallestInt64 largestInt64 .int64 input).map fun (value, rest) =>
      (Int64.ofInt value, rest)

/-- Natural numbers of 32 bits. -/
def uint32 : Codec UInt32 where
  write value := Utf8.bytes (toString value.toNat)
  read input :=
    (readInteger 0 largestUInt32 .uint32 input).map fun (value, rest) =>
      (UInt32.ofNat value.toNat, rest)

/-- Texts. -/
def text : Codec String where
  write := writeText
  read := readText .text

/-- Truth values. -/
def boolean : Codec Bool where
  write value := Utf8.bytes (if value then "true" else "false")
  read := readBoolean

/-- Instants, written as texts and read in the relaxed form. -/
def instant : Codec Instant where
  write value := writeText value.text
  read input := do
    let (text, rest) ← readText .instant input
    match Instant.readRelaxed text with
    | .ok value => return (value, rest)
    | .error fault => throw (.instant fault)

/-- Values that may be missing: written as `null`, and allowed to be left out of a record. -/
def optional (codec : Codec α) : Codec (Option α) where
  write
    | none => Utf8.bytes "null"
    | some value => codec.write value
  read input :=
    match after? Ascii.lowerN (skipBlank input) with
    | some rest => (word nullRest rest).map fun rest => (none, rest)
    | none => (codec.read input).map fun (value, rest) => (some value, rest)
  absent := some none

/-- Lists. -/
def list (codec : Codec α) : Codec (List α) where
  write values :=
    Ascii.openList :: (commaSeparated (values.map codec.write) ++ [Ascii.closeList])
  read := readList codec.read

end Codec

end Gazette
