import Mathlib.Data.List.Basic
import Gazette.Json.Lexeme

/-!
# Written texts are read back

A text is written character by character: as an escape if it is a quote, a backslash or a
control character, and as its own bytes otherwise.  Whatever follows the closing quote, the
reader takes the same characters out again.
-/

set_option autoImplicit false

namespace Gazette

/-- The bytes of a text are those of its characters. -/
theorem Utf8.bytes_eq_flatMap (text : String) :
    bytes text = text.toList.flatMap String.utf8EncodeChar := by
  unfold bytes
  rw [← String.utf8Encode_toList, List.utf8Encode, List.toList_data_toByteArray]

namespace Json

variable {c : Char} {bytes rest after more last : Payload}

/-- A character in ASCII is encoded as one byte, which is its code. -/
theorem utf8EncodeChar_ascii (h : c.toNat < 128) :
    String.utf8EncodeChar c = [UInt8.ofNat c.toNat] := by
  have small : c.val.toNat ≤ 0x7f := Nat.le_of_lt_succ h
  simp only [String.utf8EncodeChar, if_pos small]
  rfl

/-- No byte of a longer character means anything by itself. -/
theorem le_of_mem_utf8EncodeChar {b : UInt8} (h : 128 ≤ c.toNat)
    (there : b ∈ String.utf8EncodeChar c) : 128 ≤ b.toNat := by
  have large : ¬ c.val.toNat ≤ 0x7f := Nat.not_le_of_lt h
  simp only [String.utf8EncodeChar, if_neg large] at there
  split at there
  · simp at there
    rcases there with rfl | rfl <;> simp <;> omega
  · split at there
    · simp at there
      rcases there with rfl | rfl | rfl <;> simp <;> omega
    · simp at there
      rcases there with rfl | rfl | rfl | rfl <;> simp <;> omega

/-- A byte that stands for itself inside quotes. -/
def IsPlain (b : UInt8) : Prop :=
  b ≠ Ascii.quote ∧ b ≠ Ascii.backslash ∧ ¬ b < 0x20

/-- A quote ends a text. -/
theorem textBytes_quote (rest : Payload) : textBytes (Ascii.quote :: rest) = .ok ([], rest) := by
  rw [textBytes, if_pos rfl]

/-- Plain bytes are read as they are. -/
theorem textBytes_plain (plain : ∀ b ∈ bytes, IsPlain b) (h : textBytes rest = .ok (more, last)) :
    textBytes (bytes ++ rest) = .ok (bytes ++ more, last) := by
  induction bytes with
  | nil => exact h
  | cons b bytes ih =>
    obtain ⟨no_quote, no_backslash, no_control⟩ := plain b List.mem_cons_self
    have others := ih fun d there => plain d (List.mem_cons_of_mem b there)
    rw [List.cons_append, textBytes, if_neg no_quote, if_neg no_backslash, if_neg no_control, others]
    rfl

/-- An escape is read as the bytes that it stands for. -/
theorem textBytes_escape (first : escape rest = .ok (bytes, after))
    (h : textBytes after = .ok (more, last)) :
    textBytes (Ascii.backslash :: rest) = .ok (bytes ++ more, last) := by
  rw [textBytes, if_neg (by decide), if_pos rfl]
  split
  · rename_i fault failed
    rw [first] at failed
    cases failed
  · rename_i found tail done
    rw [first] at done
    cases done
    rw [h]

/-- A digit to base sixteen is read back from the character it is written as. -/
theorem hexDigit?_digitChar : ∀ d < 16, hexDigit? (UInt8.ofNat (Nat.digitChar d).toNat) = some d := by
  decide

/-- A digit to base sixteen is written in ASCII. -/
theorem digitChar_ascii : ∀ d < 16, (Nat.digitChar d).toNat < 128 := by
  decide

/-- The two digits of a control character. -/
theorem hexQuad_control {n : Nat} (h : n < 0x20) (rest : Payload) :
    hexQuad (0x30 :: 0x30 :: ((Nat.toDigits 16 (n + 0x100)).tail.flatMap String.utf8EncodeChar ++
      rest)) = .ok (n, rest) := by
  have high : n / 16 < 16 := by omega
  have low : n % 16 < 16 := by omega
  have split_two : Nat.toDigits 16 (n + 0x100) =
      [Nat.digitChar 1, Nat.digitChar (n / 16), Nat.digitChar (n % 16)] := by
    have front : (n + 0x100) / 16 / 16 = 1 := by omega
    have middle : (n + 0x100) / 16 % 16 = n / 16 := by omega
    have back : (n + 0x100) % 16 = n % 16 := by omega
    rw [Nat.toDigits_of_base_le (by decide) (by omega),
      Nat.toDigits_of_base_le (by decide) (by omega), front, middle, back,
      Nat.toDigits_of_lt_base (by decide)]
    rfl
  have zero : hexDigit? 0x30 = some 0 := by decide
  rw [split_two]
  simp only [List.tail_cons, List.flatMap_cons, List.flatMap_nil, List.append_nil,
    utf8EncodeChar_ascii (digitChar_ascii _ high), utf8EncodeChar_ascii (digitChar_ascii _ low),
    List.cons_append, List.nil_append, hexQuad, zero, hexDigit?_digitChar _ high,
    hexDigit?_digitChar _ low]
  have value : ((0 * 16 + 0) * 16 + n / 16) * 16 + n % 16 = n := by omega
  rw [value]

/-- A control character without a short escape is written by its code point. -/
theorem escape_control (h : c.toNat < 0x20) (rest : Payload) :
    escape (0x75 :: 0x30 :: 0x30 ::
      ((Nat.toDigits 16 (c.toNat + 0x100)).tail.flatMap String.utf8EncodeChar ++ rest)) =
        .ok (String.utf8EncodeChar c, rest) := by
  rw [escape, if_pos rfl, unicodeEscape, hexQuad_control h]
  simp only [codePoint, Char.ofNat_toNat]
  rw [if_neg (by omega), if_neg (by omega)]

/-- Whatever is written for a character is read as its bytes. -/
theorem textBytes_writeChar (c : Char) (h : textBytes rest = .ok (more, last)) :
    textBytes (writeChar c ++ rest) = .ok (String.utf8EncodeChar c ++ more, last) := by
  unfold writeChar
  split
  · exact textBytes_escape rfl h
  · exact textBytes_escape rfl h
  · exact textBytes_escape rfl h
  · exact textBytes_escape rfl h
  · exact textBytes_escape rfl h
  · exact textBytes_escape rfl h
  · exact textBytes_escape rfl h
  · rename_i no_quote no_backslash _ _ _ _ _
    by_cases control : c.toNat < 0x20
    · rw [if_pos control]
      exact textBytes_escape (escape_control control rest) h
    · rw [if_neg control]
      apply textBytes_plain _ h
      intro b there
      by_cases ascii : c.toNat < 128
      · rw [utf8EncodeChar_ascii ascii, List.mem_singleton] at there
        subst there
        have code : (UInt8.ofNat c.toNat).toNat = c.toNat := by simp; omega
        refine ⟨?_, ?_, ?_⟩
        · intro same
          have value : c.toNat = 34 := by rw [← code, same]; rfl
          exact no_quote (Char.toNat_inj.mp value)
        · intro same
          have value : c.toNat = 92 := by rw [← code, same]; rfl
          exact no_backslash (Char.toNat_inj.mp value)
        · rw [UInt8.lt_iff_toNat_lt, code]
          exact control
      · have large := le_of_mem_utf8EncodeChar (Nat.le_of_not_lt ascii) there
        refine ⟨?_, ?_, ?_⟩
        · rintro rfl
          exact absurd large (by decide)
        · rintro rfl
          exact absurd large (by decide)
        · rw [UInt8.lt_iff_toNat_lt]
          exact Nat.not_lt_of_le (Nat.le_trans (by decide) large)

/-- What is written for some characters is read as their bytes. -/
theorem textBytes_writeChars (chars : List Char) (rest : Payload) :
    textBytes (chars.flatMap writeChar ++ Ascii.quote :: rest) =
      .ok (chars.flatMap String.utf8EncodeChar, rest) := by
  induction chars with
  | nil => exact textBytes_quote rest
  | cons c chars ih =>
    rw [List.flatMap_cons, List.flatMap_cons, List.append_assoc]
    exact textBytes_writeChar c ih

/-- A written text is read back behind its opening quote. -/
theorem textBody_writeText (text : String) (rest : Payload) :
    textBody (text.toList.flatMap writeChar ++ Ascii.quote :: rest) = .ok (text, rest) := by
  rw [textBody, textBytes_writeChars]
  have whole : Utf8.text? (text.toList.flatMap String.utf8EncodeChar) = some text := by
    rw [← Utf8.bytes_eq_flatMap, Utf8.text?_bytes]
  simp only [whole]

/-- A text is written as its characters one after the other, between two quotes. -/
theorem writeText_append (text : String) (rest : Payload) :
    writeText text ++ rest =
      Ascii.quote :: (text.toList.flatMap writeChar ++ Ascii.quote :: rest) := by
  simp [writeText]

end Json

end Gazette
