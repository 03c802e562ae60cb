import Mathlib.Data.List.Basic
import Gazette.Json.Codec
import Gazette.Proofs.Json.Text

/-!
# Written integers are read back

An integer is written with its decimal digits, without leading zeros.  Read together with
anything that may follow a value, these digits are exactly the whole part of a number that has
neither a fraction nor an exponent.
-/

set_option autoImplicit false

namespace Gazette.Json

/-- What may follow a value inside a payload: nothing, or a byte that ends the value. -/
def Ends (rest : Payload) : Prop :=
  ∀ b tail, rest = b :: tail → b = Ascii.comma ∨ b = Ascii.closeList ∨ b = Ascii.closeObject

/-- A value may stand at the end of a payload. -/
theorem ends_nil : Ends [] := by
  intro b tail same
  cases same

/-- A value may stand in front of a comma or a closing bracket. -/
theorem ends_cons {b : UInt8} (tail : Payload)
    (h : b = Ascii.comma ∨ b = Ascii.closeList ∨ b = Ascii.closeObject) : Ends (b :: tail) := by
  intro c rest same
  cases same
  exact h

/-- The byte of an ASCII character. -/
def asciiByte (c : Char) : UInt8 :=
  UInt8.ofNat c.toNat

/-- The bytes of the decimal digits of a number. -/
def digitBytes (n : Nat) : Payload :=
  (Nat.toDigits 10 n).map asciiByte

variable {rest : Payload} {c : Char}

/-- The codes of the digits lie next to each other. -/
theorem isDigit_bounds (h : c.isDigit) : 48 ≤ c.toNat ∧ c.toNat ≤ 57 := by
  simpa [Char.isDigit, UInt32.le_iff_toNat_le] using h

/-- The byte of a digit has the code of the digit. -/
theorem toNat_asciiByte (h : c.isDigit) : (asciiByte c).toNat = c.toNat := by
  have bounds := isDigit_bounds h
  simp [asciiByte]
  omega

/-- The byte of a digit is read as a digit. -/
theorem isDigit_asciiByte (h : c.isDigit) : Ascii.isDigit (asciiByte c) := by
  have bounds := isDigit_bounds h
  have code := toNat_asciiByte h
  simp [Ascii.isDigit, UInt8.le_iff_toNat_le, code]
  omega

/-- A number is written with bytes of digits only. -/
theorem isDigit_of_mem_digitBytes {n : Nat} {b : UInt8} (h : b ∈ digitBytes n) :
    Ascii.isDigit b := by
  obtain ⟨c, there, rfl⟩ := List.mem_map.mp h
  exact isDigit_asciiByte (Nat.isDigit_of_mem_toDigits (by decide) (by decide) there)

/-- A number is written as the bytes of its digits. -/
theorem bytes_toString_nat (n : Nat) : Utf8.bytes (toString n) = digitBytes n := by
  have ascii : ∀ chars : List Char, (∀ c ∈ chars, c.isDigit) →
      chars.flatMap String.utf8EncodeChar = chars.map asciiByte := by
    intro chars all
    induction chars with
    | nil => rfl
    | cons c chars ih =>
      have bounds := isDigit_bounds (all c List.mem_cons_self)
      rw [List.flatMap_cons, List.map_cons, utf8EncodeChar_ascii (by omega),
        ih fun d there => all d (List.mem_cons_of_mem c there)]
      rfl
  rw [Utf8.bytes_eq_flatMap, Nat.toString_eq_ofList_toDigits, String.toList_ofList]
  exact ascii _ fun c there => Nat.isDigit_of_mem_toDigits (by decide) (by decide) there

/-- The bytes of an integer: a sign before the digits if it is negative. -/
theorem bytes_toString_int (value : Int) :
    Utf8.bytes (toString value) =
      (if value < 0 then [Ascii.minus] else []) ++ digitBytes value.natAbs := by
  cases value with
  | ofNat n =>
    rw [if_neg (by simp)]
    exact bytes_toString_nat n
  | negSucc n =>
    rw [if_pos (Int.negSucc_lt_zero n)]
    have split_sign : toString (Int.negSucc n) = "-" ++ toString (n + 1) := rfl
    rw [split_sign, ← bytes_toString_nat, Utf8.bytes_eq_flatMap, Utf8.bytes_eq_flatMap]
    simp
    rfl

/-- What ends a value is no part of a number. -/
theorem Ends.head_eq_false (h : Ends rest) (holds : UInt8 → Bool)
    (marks : ∀ b, b = Ascii.comma ∨ b = Ascii.closeList ∨ b = Ascii.closeObject → holds b = false) :
    (rest.head?.map holds).getD false = false := by
  cases rest with
  | nil => rfl
  | cons b tail => exact marks b (h b tail rfl)

/-- No fraction begins where a value may end. -/
theorem Ends.after?_point (h : Ends rest) : after? Ascii.point rest = none := by
  cases rest with
  | nil => rfl
  | cons b tail =>
    rcases h b tail rfl with rfl | rfl | rfl <;> rfl

/-- The digits of a number end where the value ends. -/
theorem spanDigits_digitBytes (n : Nat) (h : Ends rest) :
    spanDigits (digitBytes n ++ rest) = (digitBytes n, rest) := by
  have all : ∀ b ∈ digitBytes n, Ascii.isDigit b := fun b => isDigit_of_mem_digitBytes
  have stop : rest.takeWhile Ascii.isDigit = [] ∧ rest.dropWhile Ascii.isDigit = rest := by
    cases rest with
    | nil => exact ⟨rfl, rfl⟩
    | cons b tail =>
      rcases h b tail rfl with rfl | rfl | rfl <;> exact ⟨rfl, rfl⟩
  unfold spanDigits
  rw [List.takeWhile_append_of_pos all, List.dropWhile_append_of_pos all, stop.1, stop.2,
    List.append_nil]

/-- Further digits make a number no smaller. -/
theorem le_ofDigitChars (digits : List Char) (start : Nat) :
    start ≤ Nat.ofDigitChars 10 digits start := by
  rw [Nat.ofDigitChars_eq_ofDigitChars_zero]
  have grows : 1 * start ≤ 10 ^ digits.length * start :=
    Nat.mul_le_mul_right start (Nat.one_le_pow _ _ (by decide))
  omega

/-- Digits whose value fits are all gathered. -/
theorem gather_append {digits : List Char} {start : Nat} (all : ∀ c ∈ digits, c.isDigit)
    (fits : Nat.ofDigitChars 10 digits start ≤ largestUInt64) :
    gather start (digits.map asciiByte) = (Nat.ofDigitChars 10 digits start, 0) := by
  induction digits generalizing start with
  | nil => rfl
  | cons c digits ih =>
    have value : digitValue (asciiByte c) = c.toNat - '0'.toNat := by
      rw [digitValue, toNat_asciiByte (all c List.mem_cons_self)]
      rfl
    rw [Nat.ofDigitChars_cons, Nat.mul_comm] at fits ⊢
    have small := Nat.le_trans (le_ofDigitChars digits _) fits
    rw [List.map_cons, gather, value, if_pos small]
    exact ih (fun d there => all d (List.mem_cons_of_mem c there)) fits

/-- The digits of a number that fits are gathered into the number, with none left over. -/
theorem gather_digitBytes {n : Nat} (h : n ≤ largestUInt64) : gather 0 (digitBytes n) = (n, 0) := by
  have value : Nat.ofDigitChars 10 (Nat.toDigits 10 n) 0 = n := Nat.ofDigitChars_ten_toDigits
  have all : ∀ c ∈ Nat.toDigits 10 n, c.isDigit := fun c there =>
    Nat.isDigit_of_mem_toDigits (by decide) (by decide) there
  rw [digitBytes, gather_append all (by rwa [value]), value]

/-- A number other than zero does not begin with a zero. -/
theorem head_toDigits {n : Nat} (h : 0 < n) :
    ∃ c digits, Nat.toDigits 10 n = c :: digits ∧ c ≠ '0' := by
  induction n using Nat.strongRecOn with
  | ind n ih =>
    by_cases small : n < 10
    · refine ⟨n.digitChar, [], Nat.toDigits_of_lt_base small, ?_⟩
      intro zero
      have value := Nat.toNat_digitChar_of_lt_ten small
      rw [zero] at value
      have code : '0'.toNat = 48 := rfl
      omega
    · obtain ⟨c, digits, front, no_zero⟩ := ih (n / 10) (by omega) (by omega)
      rw [Nat.toDigits_of_base_le (by decide) (by omega), front]
      exact ⟨c, digits ++ [(n % 10).digitChar], rfl, no_zero⟩

/-- A positive number between its sign and the end of the value. -/
theorem number_digitBytes {n : Nat} {positive : Bool} (some_digit : 0 < n)
    (small : n ≤ largestUInt64) (ends : Ends rest) :
    number positive (digitBytes n ++ rest) = afterWhole positive n 0 rest := by
  obtain ⟨c, digits, front, no_zero⟩ := head_toDigits some_digit
  have first : c.isDigit :=
    Nat.isDigit_of_mem_toDigits (by decide) (by decide) (front ▸ List.mem_cons_self)
  have begun : digitBytes n = asciiByte c :: digits.map asciiByte := by
    rw [digitBytes, front, List.map_cons]
  have byte_no_zero : asciiByte c ≠ Ascii.zero := by
    intro same
    have value := toNat_asciiByte first
    rw [same] at value
    exact no_zero (Char.toNat_inj.mp value.symm)
  have span := spanDigits_digitBytes n ends
  have gathered := gather_digitBytes small
  rw [begun] at span gathered ⊢
  rw [List.cons_append] at span ⊢
  rw [number, if_neg byte_no_zero, if_pos (isDigit_asciiByte first), span]
  simp only [gathered]

/-- A natural number is read up to the end of the value. -/
theorem number_true_digitBytes {n : Nat} (small : n ≤ largestUInt64) (ends : Ends rest) :
    number true (digitBytes n ++ rest) = .ok (.integer n, rest) := by
  have whole : afterWhole true n 0 rest = .ok (.integer n, rest) := by
    have no_exponent := ends.head_eq_false Ascii.isExponent (by
      rintro b (rfl | rfl | rfl) <;> rfl)
    simp [afterWhole, ends.after?_point, no_exponent]
  by_cases zero : n = 0
  · have no_digit := ends.head_eq_false Ascii.isDigit (by
      rintro b (rfl | rfl | rfl) <;> rfl)
    subst zero
    have begun : digitBytes 0 = [Ascii.zero] := by decide
    rw [begun, List.cons_append, List.nil_append, number, if_pos rfl, no_digit]
    exact whole
  · rw [number_digitBytes (Nat.pos_of_ne_zero zero) small ends, whole]

/-- A negative number is read up to the end of the value. -/
theorem number_false_digitBytes {n : Nat} (some_digit : 0 < n) (small : smallestInt64 ≤ -(n : Int))
    (ends : Ends rest) :
    number false (digitBytes n ++ rest) = .ok (.integer (-n), rest) := by
  have no_exponent := ends.head_eq_false Ascii.isExponent (by
    rintro b (rfl | rfl | rfl) <;> rfl)
  have inside : n ≤ largestUInt64 := by
    unfold smallestInt64 at small
    unfold largestUInt64
    omega
  have nonzero : n ≠ 0 := by omega
  rw [number_digitBytes some_digit inside ends]
  simp [afterWhole, ends.after?_point, no_exponent, nonzero, small]

/-- A number has a first digit. -/
theorem digitBytes_cons (n : Nat) : ∃ b tail, digitBytes n = b :: tail ∧ Ascii.isDigit b := by
  cases same : digitBytes n with
  | nil => exact absurd same (by simp [digitBytes])
  | cons b tail => exact ⟨b, tail, rfl, isDigit_of_mem_digitBytes (same ▸ List.mem_cons_self)⟩

/-- A digit is no blank. -/
theorem isBlank_of_isDigit {b : UInt8} (h : Ascii.isDigit b) : Ascii.isBlank b = false := by
  simp only [Ascii.isDigit, Bool.and_eq_true, decide_eq_true_eq] at h
  simp only [Ascii.isBlank, Bool.or_eq_false_iff, beq_eq_false_iff_ne, ne_eq]
  refine ⟨⟨⟨?_, ?_⟩, ?_⟩, ?_⟩ <;> (rintro rfl; exact absurd h.1 (by decide))

/-- A written integer is read back, if it lies between the bounds. -/
theorem readInteger_bytes {low high value : Int} (expected : Expected)
    (inside : low ≤ value ∧ value ≤ high) (smallest : smallestInt64 ≤ value)
    (largest : value ≤ largestUInt64) (ends : Ends rest) :
    readInteger low high expected (Utf8.bytes (toString value) ++ rest) = .ok (value, rest) := by
  obtain ⟨b, tail, begun, digit⟩ := digitBytes_cons value.natAbs
  rw [bytes_toString_int]
  by_cases negative : value < 0
  · have back : -(value.natAbs : Int) = value := by omega
    have whole := number_false_digitBytes (n := value.natAbs) (by omega) (by omega) ends
    have skipped : skipBlank (Ascii.minus :: (digitBytes value.natAbs ++ rest)) =
        Ascii.minus :: (digitBytes value.natAbs ++ rest) := rfl
    have signed : signedNumber (Ascii.minus :: (digitBytes value.natAbs ++ rest)) =
        number false (digitBytes value.natAbs ++ rest) := rfl
    rw [if_pos negative, List.cons_append, List.nil_append, List.cons_append, readInteger, skipped]
    generalize value.natAbs = magnitude at back signed whole ⊢
    simp [signed, whole, back, inside]
  · have back : (value.natAbs : Int) = value := by omega
    have whole := number_true_digitBytes (n := value.natAbs) (by omega) ends
    rw [if_neg negative, List.nil_append, readInteger]
    rw [begun, List.cons_append] at whole ⊢
    have skipped : skipBlank (b :: (tail ++ rest)) = b :: (tail ++ rest) := by
      simp [skipBlank, isBlank_of_isDigit digit]
    have no_sign : after? Ascii.minus (b :: (tail ++ rest)) = none := by
      rw [after?, if_neg]
      rintro rfl
      exact absurd digit (by decide)
    have signed : signedNumber (b :: (tail ++ rest)) = number true (b :: (tail ++ rest)) := by
      rw [signedNumber, no_sign]
    generalize value.natAbs = magnitude at back whole
    simp [skipped, digit, signed, whole, back, inside]

end Gazette.Json
