/-!
# Text as bytes

Payloads are bytes, and most of them are text in UTF-8.  This file writes a text as
bytes and reads bytes as text; the two agree by `Utf8.text?_bytes`.
-/

set_option autoImplicit false

namespace Gazette

/-- A sequence of bytes, as stored in a cache. -/
abbrev Payload := List UInt8

namespace Utf8

/-- The bytes of a text. -/
def bytes (text : String) : Payload :=
  text.toByteArray.data.toList

/-- The text that the bytes spell, if they are well formed. -/
def text? (payload : Payload) : Option String :=
  String.fromUTF8? ⟨payload.toArray⟩

/-- Reading the bytes of a text gives the text back. -/
theorem text?_bytes (text : String) : text? (bytes text) = some text := by
  have whole : (⟨(bytes text).toArray⟩ : ByteArray) = text.toByteArray := by
    simp [bytes]
  unfold text? String.fromUTF8?
  rw [whole, dif_pos text.isValidUTF8]
  rfl

/-- A character that is being read: how many bytes it still needs, the bounds of the next one,
and the value of the bits so far. -/
structure Partial where
  needed : Nat
  low : Nat
  high : Nat
  value : Nat

/-- The character that stands for bytes that are not well formed. -/
def replacement : Char := '\ufffd'

/-- Reads the first byte of a character.  The bounds of the second byte shut out the values
that have a shorter form, surrogates, and values that are too large. -/
def begin (b : Nat) : List Char × Option Partial :=
  if b < 0x80 then ([Char.ofNat b], none)
  else if b < 0xC2 then ([replacement], none)
  else if b < 0xE0 then ([], some ⟨1, 0x80, 0xBF, b - 0xC0⟩)
  else if b < 0xF0 then
    ([], some ⟨2, if b = 0xE0 then 0xA0 else 0x80, if b = 0xED then 0x9F else 0xBF, b - 0xE0⟩)
  else if b < 0xF5 then
    ([], some ⟨3, if b = 0xF0 then 0x90 else 0x80, if b = 0xF4 then 0x8F else 0xBF, b - 0xF0⟩)
  else ([replacement], none)

/-- Reads a byte.  One that does not continue the open character begins another one. -/
def proceed (b : Nat) : Option Partial → List Char × Option Partial
  | none => begin b
  | some begun =>
    if b < begun.low ∨ begun.high < b then
      let (chars, next) := begin b
      (replacement :: chars, next)
    else
      let value := 64 * begun.value + (b - 0x80)
      if begun.needed = 1 then ([Char.ofNat value], none)
      else ([], some ⟨begun.needed - 1, 0x80, 0xBF, value⟩)

/-- The characters of some bytes after an open character. -/
def mendedChars (state : Option Partial) : Payload → List Char
  | [] => if state.isSome then [replacement] else []
  | b :: rest =>
    let (chars, next) := proceed b.toNat state
    chars ++ mendedChars next rest

/-- The text of some bytes.  Each longest start of a character that is not well formed is
replaced by one character. -/
def mended (payload : Payload) : String :=
  String.ofList (mendedChars none payload)

/-- One hexadecimal digit, in lower case. -/
def hexDigit (n : UInt8) : Char :=
  Nat.digitChar n.toNat

/-- Two hexadecimal digits for each byte. -/
def hex (payload : Payload) : String :=
  String.ofList (payload.flatMap fun b => [hexDigit (b / 16), hexDigit (b % 16)])

/-- The value of a hexadecimal digit of either case. -/
def hexValue? (c : Char) : Option UInt8 :=
  if '0' ≤ c ∧ c ≤ '9' then some (c.toNat - '0'.toNat).toUInt8
  else if 'a' ≤ c ∧ c ≤ 'f' then some (c.toNat - 'a'.toNat + 10).toUInt8
  else if 'A' ≤ c ∧ c ≤ 'F' then some (c.toNat - 'A'.toNat + 10).toUInt8
  else none

/-- The bytes written as pairs of hexadecimal digits. -/
def ofHex? : List Char → Option Payload
  | [] => some []
  | high :: low :: rest => do
    let h ← hexValue? high
    let l ← hexValue? low
    let tail ← ofHex? rest
    return (h * 16 + l) :: tail
  | [_] => none

end Utf8

end Gazette
