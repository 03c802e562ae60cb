import Gazette.Json.Codec
import Gazette.Json.Skip

/-!
# Records

A record is written as an object with its fields in the order of declaration.  It is read
from an object whose members may stand in any order, where unknown members are passed over
and a known one may stand only once, or from a list of all its fields in order.  A field
that the object leaves out takes the value that its codec has for this case; without one
the record is refused.
-/

set_option autoImplicit false

namespace Gazette

/-- The fields of a record: the name and the codec of each, in order. -/
inductive Fields : List Type → Type 1
  | nil : Fields []
  | cons {α : Type} {types : List Type} (name : String) (codec : Codec α) (rest : Fields types) :
      Fields (α :: types)

/-- A value for each field. -/
abbrev Values : List Type → Type
  | [] => Unit
  | α :: types => α × Values types

/-- What has been read for each field. -/
abbrev Slots : List Type → Type
  | [] => Unit
  | α :: types => Option α × Slots types

namespace Fields

open Json

/-- The number of fields. -/
def count {types : List Type} : Fields types → Nat
  | .nil => 0
  | .cons _ _ rest => rest.count + 1

/-- The members of the written object. -/
def members {types : List Type} : Fields types → Values types → List Payload
  | .nil, _ => []
  | .cons name codec rest, (value, values) =>
    (writeText name ++ Ascii.colon :: codec.write value) :: rest.members values

/-- The state in which nothing has been read. -/
def blank {types : List Type} : Fields types → Slots types
  | .nil => ()
  | .cons _ _ rest => (none, rest.blank)

/-- Reads the value of the member with the given key, with the colon before it, and puts it
into its field.  An unknown key passes over the value. -/
def accept {types : List Type} :
    Fields types → Slots types → String → Payload → Except Fault (Slots types × Payload)
  | .nil, slots, _, input => do
    let input ← colon input
    let rest ← skipValue input
    return (slots, rest)
  | .cons name codec rest, (slot, slots), key, input =>
    if key = name then
      match slot with
      | some _ => throw (.duplicateField name)
      | none => do
        let input ← colon input
        let (value, input) ← codec.read input
        return ((some value, slots), input)
    else do
      let (slots, input) ← rest.accept slots key input
      return ((slot, slots), input)

/-- The values of the record once all members have been read. -/
def settle {types : List Type} : Fields types → Slots types → Except Fault (Values types)
  | .nil, _ => return ()
  | .cons name codec rest, (slot, slots) => do
    match slot <|> codec.absent with
    | some value => return (value, ← rest.settle slots)
    | none => throw (.missingField name)

/-- Where the next key of an object starts, behind its quote, or nothing at the end of the
object. -/
def nextKey (first : Bool) (input : Payload) : Except Fault (Option Payload) :=
  match skipBlank input with
  | [] => .error .endInObject
  | b :: rest =>
    if b = Ascii.closeObject then .ok none
    else if first then
      if b = Ascii.quote then .ok (some rest) else .error .keyNotText
    else if b = Ascii.comma then
      match skipBlank rest with
      | [] => .error .endInValue
      | c :: rest =>
        if c = Ascii.quote then .ok (some rest)
        else if c = Ascii.closeObject then .error .trailingComma
        else .error .keyNotText
    else .error .expectedObjectEnd

/-- The members of an object up to its end.  The first argument bounds their number; every
member takes a byte at least. -/
def readMembers {types : List Type} (fields : Fields types) :
    Nat → Bool → Slots types → Payload → Except Fault (Slots types × Payload)
  | 0, _, _, _ => .error .endInObject
  | bound + 1, first, slots, input => do
    match ← nextKey first input with
    | none => return (slots, (skipBlank input).drop 1)
    | some input =>
      let (key, input) ← textBody input
      let (slots, input) ← fields.accept slots key input
      fields.readMembers bound false slots input

/-- The fields of a record written as a list.  The numbers are the position of the next field
and the number of all fields. -/
def readPositions {types : List Type} (name : String) (size : Nat) :
    Fields types → Nat → Payload → Except Fault (Values types × Payload)
  | .nil, _, input => return ((), input)
  | .cons _ codec rest, position, input => do
    match ← nextElement (position = 0) input with
    | none => throw (.wrongLength position name size)
    | some input =>
      let (value, input) ← codec.read input
      let (values, input) ← rest.readPositions name size (position + 1) input
      return ((value, values), input)

end Fields

open Json in
/-- The record of the given name with the given fields. -/
def Codec.record {types : List Type} (name : String) (fields : Fields types) :
    Codec (Values types) where
  write values :=
    Ascii.openObject :: (commaSeparated (fields.members values) ++ [Ascii.closeObject])
  read input :=
    let input := skipBlank input
    match after? Ascii.openObject input, after? Ascii.openList input with
    | some rest, _ => do
      let (slots, rest) ← fields.readMembers (rest.length + 1) true fields.blank rest
      return (← fields.settle slots, rest)
    | none, some rest => do
      let (values, rest) ← fields.readPositions name fields.count 0 rest
      return (values, ← endList rest)
    | none, none => .error (mismatch (.record name) input)

end Gazette
