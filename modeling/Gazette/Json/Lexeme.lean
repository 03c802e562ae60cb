import Gazette.Json.Fault
import Gazette.Text.Utf8

/-!
# The smallest parts of a payload

Blanks, the three words, and texts between quotes.  A function that reads takes the bytes
that are left and returns what it read with the bytes after it; the lemmas say that the
rest is shorter, which is what the loops above rely on.
-/

set_option autoImplicit false

namespace Gazette.Json

namespace Ascii

/-! The bytes that carry a meaning of their own. -/

/-- A quotation mark, which encloses a text. -/
abbrev quote : UInt8 := 0x22

/-- A comma, which separates values. -/
abbrev comma : UInt8 := 0x2C

/-- A minus sign. -/
abbrev minus : UInt8 := 0x2D

/-- A plus sign. -/
abbrev plus : UInt8 := 0x2B

/-- The point of a number. -/
abbrev point : UInt8 := 0x2E

/-- The digit zero. -/
abbrev zero : UInt8 := 0x30

/-- A colon, which separates a key from its value. -/
abbrev colon : UInt8 := 0x3A

/-- The start of a list. -/
abbrev openList : UInt8 := 0x5B

/-- A backslash, which starts an escape. -/
abbrev backslash : UInt8 := 0x5C

/-- The end of a list. -/
abbrev closeList : UInt8 := 0x5D

/-- The first letter of `false`. -/
abbrev lowerF : UInt8 := 0x66

/-- The first letter of `null`. -/
abbrev lowerN : UInt8 := 0x6E

/-- The first letter of `true`. -/
abbrev lowerT : UInt8 := 0x74

/-- The letter that starts the escape of a code point. -/
abbrev lowerU : UInt8 := 0x75

/-- The start of an object. -/
abbrev openObject : UInt8 := 0x7B

/-- The end of an object. -/
abbrev closeObject : UInt8 := 0x7D

/-- A space, tabulator, line feed or carriage return. -/
def isBlank (b : UInt8) : Bool :=
  b == 0x20 || b == 0x09 || b == 0x0A || b == 0x0D

/-- A decimal digit. -/
def isDigit (b : UInt8) : Bool :=
  0x30 ≤ b && b ≤ 0x39

/-- An `e` of either case, which starts an exponent. -/
def isExponent (b : UInt8) : Bool :=
  b == 0x65 || b == 0x45

end Ascii

/-- The input without the blanks at its start. -/
def skipBlank (input : Payload) : Payload :=
  input.dropWhile Ascii.isBlank

/-- What follows the given letters, the rest of `null`, `true` or `false`. -/
def word : Payload → Payload → Except Fault Payload
  | [], input => .ok input
  | _ :: _, [] => .error .endInValue
  | e :: letters, b :: rest => if b = e then word letters rest else .error .expectedWord

/-- The letters of `null` after the first. -/
def nullRest : Payload := [0x75, 0x6C, 0x6C]

/-- The letters of `true` after the first. -/
def trueRest : Payload := [0x72, 0x75, 0x65]

/-- The letters of `false` after the first. -/
def falseRest : Payload := [0x61, 0x6C, 0x73, 0x65]

/-- The value of a hexadecimal digit. -/
def hexDigit? (b : UInt8) : Option Nat :=
  if 0x30 ≤ b && b ≤ 0x39 then some (b.toNat - 0x30)
  else if 0x41 ≤ b && b ≤ 0x46 then some (b.toNat - 0x41 + 10)
  else if 0x61 ≤ b && b ≤ 0x66 then some (b.toNat - 0x61 + 10)
  else none

/-- Four hexadecimal digits. -/
def hexQuad : Payload → Except Fault (Nat × Payload)
  | a :: b :: c :: d :: rest =>
    match hexDigit? a, hexDigit? b, hexDigit? c, hexDigit? d with
    | some a, some b, some c, some d => .ok (((a * 16 + b) * 16 + c) * 16 + d, rest)
    | _, _, _, _ => .error .invalidEscape
  | _ => .error .endInText

/-- Four hexadecimal digits leave less input. -/
theorem hexQuad_length {input rest : Payload} {n : Nat} (h : hexQuad input = .ok (n, rest)) :
    rest.length < input.length := by
  unfold hexQuad at h
  split at h
  · split at h
    · cases h
      simp only [List.length_cons]
      omega
    · cases h
  · cases h

/-- The byte that a one-letter escape stands for. -/
def simpleEscape? (b : UInt8) : Option UInt8 :=
  if b = 0x22 ∨ b = 0x5C ∨ b = 0x2F then some b
  else if b = 0x62 then some 0x08
  else if b = 0x66 then some 0x0C
  else if b = 0x6E then some 0x0A
  else if b = 0x72 then some 0x0D
  else if b = 0x74 then some 0x09
  else none

/-- The bytes of the character with the given code point. -/
def codePoint (n : Nat) : Payload :=
  String.utf8EncodeChar (Char.ofNat n)

/-- What follows a given byte, if the input starts with it. -/
def after? (b : UInt8) : Payload → Option Payload
  | [] => none
  | c :: rest => if c = b then some rest else none

/-- A byte that has been read leaves less input. -/
theorem after?_length {b : UInt8} {input rest : Payload} (h : after? b input = some rest) :
    rest.length < input.length := by
  cases input with
  | nil => simp [after?] at h
  | cons c tail =>
    simp only [after?] at h
    split at h
    · cases h
      simp
    · cases h

/-- The two bytes that start the second half of a surrogate pair. -/
def pairStart (input : Payload) : Except Fault Payload :=
  if input = [] ∨ input = [Ascii.backslash] then .error .endInText
  else
    match after? Ascii.backslash input with
    | none => .error .unfinishedSurrogate
    | some rest =>
      match after? Ascii.lowerU rest with
      | none => .error .unfinishedSurrogate
      | some rest => .ok rest

/-- The start of a second escape leaves less input. -/
theorem pairStart_length {input rest : Payload} (h : pairStart input = .ok rest) :
    rest.length < input.length := by
  unfold pairStart at h
  split at h
  · cases h
  · split at h
    · cases h
    · rename_i first
      split at h
      · cases h
      · rename_i second
        cases h
        exact Nat.lt_trans (after?_length second) (after?_length first)

/-- The code point that two surrogates stand for. -/
def joinSurrogates (high low : Nat) : Nat :=
  (high - 0xD800) * 0x400 + (low - 0xDC00) + 0x10000

/-- The character of a surrogate pair whose first half is `high`. -/
def lowSurrogate (high : Nat) (input : Payload) : Except Fault (Payload × Payload) :=
  match pairStart input with
  | .error fault => .error fault
  | .ok rest =>
    match hexQuad rest with
    | .error fault => .error fault
    | .ok (low, rest) =>
      if 0xDC00 ≤ low ∧ low ≤ 0xDFFF then .ok (codePoint (joinSurrogates high low), rest)
      else .error .loneSurrogate

/-- A low surrogate leaves less input. -/
theorem lowSurrogate_length {input bytes rest : Payload} {high : Nat}
    (h : lowSurrogate high input = .ok (bytes, rest)) : rest.length < input.length := by
  unfold lowSurrogate at h
  split at h
  · cases h
  · rename_i start
    split at h
    · cases h
    · rename_i quad
      split at h
      · simp only [Except.ok.injEq, Prod.mk.injEq] at h
        obtain ⟨-, rfl⟩ := h
        exact Nat.lt_trans (hexQuad_length quad) (pairStart_length start)
      · cases h

/-- An escape of the form `uXXXX` after its `u`. -/
def unicodeEscape (input : Payload) : Except Fault (Payload × Payload) :=
  match hexQuad input with
  | .error fault => .error fault
  | .ok (n, rest) =>
    if 0xDC00 ≤ n ∧ n ≤ 0xDFFF then .error .loneSurrogate
    else if 0xD800 ≤ n ∧ n ≤ 0xDBFF then lowSurrogate n rest
    else .ok (codePoint n, rest)

/-- The escape of a code point leaves less input. -/
theorem unicodeEscape_length {input bytes rest : Payload}
    (h : unicodeEscape input = .ok (bytes, rest)) : rest.length < input.length := by
  unfold unicodeEscape at h
  split at h
  · cases h
  · rename_i n tail quad
    have shorter := hexQuad_length quad
    by_cases low : 0xDC00 ≤ n ∧ n ≤ 0xDFFF
    · rw [if_pos low] at h
      cases h
    · rw [if_neg low] at h
      by_cases high : 0xD800 ≤ n ∧ n ≤ 0xDBFF
      · rw [if_pos high] at h
        exact Nat.lt_trans (lowSurrogate_length h) shorter
      · rw [if_neg high] at h
        cases h
        exact shorter

/-- An escape after its backslash: the bytes that it stands for. -/
def escape : Payload → Except Fault (Payload × Payload)
  | [] => .error .endInText
  | b :: rest =>
    if b = Ascii.lowerU then unicodeEscape rest
    else
      match simpleEscape? b with
      | some c => .ok ([c], rest)
      | none => .error .invalidEscape

/-- An escape leaves less input. -/
theorem escape_length {input bytes rest : Payload} (h : escape input = .ok (bytes, rest)) :
    rest.length < input.length := by
  cases input with
  | nil => simp [escape] at h
  | cons b tail =>
    simp only [escape] at h
    split at h
    · exact Nat.lt_succ_of_lt (unicodeEscape_length h)
    · split at h
      · cases h
        simp
      · cases h

/-- The bytes of a text up to its closing quote, with the escapes resolved. -/
def textBytes (input : Payload) : Except Fault (Payload × Payload) :=
  match input with
  | [] => .error .endInText
  | b :: rest =>
    if b = Ascii.quote then .ok ([], rest)
    else if b = Ascii.backslash then
      match h : escape rest with
      | .error fault => .error fault
      | .ok (bytes, after) =>
        have : after.length < rest.length := escape_length h
        match textBytes after with
        | .error fault => .error fault
        | .ok (more, last) => .ok (bytes ++ more, last)
    else if b < 0x20 then .error .controlCharacter
    else
      match textBytes rest with
      | .error fault => .error fault
      | .ok (more, last) => .ok (b :: more, last)
termination_by input.length

/-- A text after its opening quote.  Its bytes have to be well formed. -/
def textBody (input : Payload) : Except Fault (String × Payload) :=
  match textBytes input with
  | .error fault => .error fault
  | .ok (bytes, rest) =>
    match Utf8.text? bytes with
    | some text => .ok (text, rest)
    | none => .error .invalidCodePoint

/-- The bytes that write one character inside quotes. -/
def writeChar (c : Char) : Payload :=
  match c with
  | '"' => [0x5C, 0x22]
  | '\\' => [0x5C, 0x5C]
  | '\x08' => [0x5C, 0x62]
  | '\t' => [0x5C, 0x74]
  | '\n' => [0x5C, 0x6E]
  | '\x0c' => [0x5C, 0x66]
  | '\r' => [0x5C, 0x72]
  | c =>
    if c.toNat < 0x20 then
      [0x5C, 0x75, 0x30, 0x30] ++
        (Nat.toDigits 16 (c.toNat + 0x100)).tail.flatMap String.utf8EncodeChar
    else String.utf8EncodeChar c

/-- A text between quotes. -/
def writeText (text : String) : Payload :=
  Ascii.quote :: (text.toList.flatMap writeChar ++ [Ascii.quote])

end Gazette.Json
