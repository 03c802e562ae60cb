import Mathlib
import Gazette.Time.Reading

/-!
# Written instants are read back

The relaxed reader gives every instant back that has been written for a payload.  The numbers
are digits between two marks, so each of them is settled by where its digits end; the sign of a
far year only decides how many digits there may be.  The strict reader knows beforehand how many
digits a number has.  It gives every instant back that has been stored, unless there is a sign
before the year.
-/

set_option autoImplicit false

namespace Gazette

/-- What follows a number: nothing, or a character that is no digit. -/
def PastDigits (text : List Char) : Prop :=
  ∀ c rest, text = c :: rest → c.isDigit = false

/-- A character that is no digit may follow a number. -/
theorem pastDigits_cons {c : Char} (rest : List Char) (h : c.isDigit = false) :
    PastDigits (c :: rest) := by
  intro d tail same
  cases same
  exact h

namespace InstantReading

variable {digits rest : List Char} {count value : Nat}

/-- A digit stands for how far it is from zero. -/
theorem digit?_of_isDigit {c : Char} (h : c.isDigit) : digit? c = some (c.toNat - '0'.toNat) := by
  simp [digit?, h]

/-- Up to `count` digits are read until something else follows. -/
theorem upTo_append (all : ∀ c ∈ digits, c.isDigit) (fits : digits.length ≤ count)
    (past : PastDigits rest) :
    upTo count value (digits ++ rest) = (Nat.ofDigitChars 10 digits value, rest) := by
  induction digits generalizing count value with
  | nil =>
    rw [List.nil_append, Nat.ofDigitChars_nil]
    cases count with
    | zero => rfl
    | succ count =>
      cases rest with
      | nil => rfl
      | cons c tail =>
        have none_here : digit? c = none := by simp [digit?, past c tail rfl]
        simp [upTo, none_here]
  | cons c digits ih =>
    obtain ⟨count, rfl⟩ : ∃ less, count = less + 1 := ⟨count - 1, by simp at fits; omega⟩
    have first := digit?_of_isDigit (all c List.mem_cons_self)
    rw [List.cons_append, upTo, first, Nat.ofDigitChars_cons, Nat.mul_comm 10 value]
    exact ih (fun d there => all d (List.mem_cons_of_mem c there)) (Nat.le_of_succ_le_succ fits)

/-- A number is read if it has a digit and not too many of them. -/
theorem number_append (some_digit : digits ≠ []) (all : ∀ c ∈ digits, c.isDigit)
    (fits : digits.length ≤ count) (past : PastDigits rest) :
    number count (digits ++ rest) = .ok (Nat.ofDigitChars 10 digits 0, rest) := by
  have whole : upTo count 0 (digits ++ rest) = (Nat.ofDigitChars 10 digits 0, rest) :=
    upTo_append all fits past
  cases digits with
  | nil => exact absurd rfl some_digit
  | cons c digits =>
    have first := all c List.mem_cons_self
    rw [List.cons_append] at whole ⊢
    rw [number, if_pos first, whole]

/-- Exactly `count` digits are read off a text that starts with as many. -/
theorem exactly_append (all : ∀ c ∈ digits, c.isDigit) (long : digits.length = count) :
    exactly count value (digits ++ rest) = .ok (Nat.ofDigitChars 10 digits value, rest) := by
  subst long
  induction digits generalizing value with
  | nil =>
    rw [Nat.ofDigitChars_nil]
    rfl
  | cons c digits ih =>
    have first := digit?_of_isDigit (all c List.mem_cons_self)
    rw [List.cons_append, List.length_cons, exactly, first, Nat.ofDigitChars_cons,
      Nat.mul_comm 10 value]
    exact ih fun d there => all d (List.mem_cons_of_mem c there)

end InstantReading

namespace Instant

open InstantReading

/-- A padded number has the length it is padded to. -/
theorem length_padded (width n : Nat) : (padded width n).length = width := by
  induction width generalizing n with
  | zero => rfl
  | succ width ih => simp [padded, ih]

/-- A padded number is written with digits only. -/
theorem isDigit_of_mem_padded {width n : Nat} {c : Char} (h : c ∈ padded width n) : c.isDigit := by
  induction width generalizing n with
  | zero => simp [padded] at h
  | succ width ih =>
    rw [padded, List.mem_append, List.mem_singleton] at h
    rcases h with there | rfl
    · exact ih there
    · have small : n % 10 < 10 := Nat.mod_lt n (by decide)
      simpa using small

/-- Enough digits keep the whole number. -/
theorem ofDigitChars_padded {width n : Nat} (h : n < 10 ^ width) :
    Nat.ofDigitChars 10 (padded width n) 0 = n := by
  induction width generalizing n with
  | zero =>
    have nothing : n = 0 := by simpa using h
    rw [nothing]
    rfl
  | succ width ih =>
    have front : n / 10 < 10 ^ width := by
      rw [Nat.div_lt_iff_lt_mul (by decide), ← Nat.pow_succ]
      exact h
    have small : n % 10 < 10 := Nat.mod_lt n (by decide)
    rw [padded, Nat.ofDigitChars_append, ih front, Nat.ofDigitChars_cons_digitChar_of_lt_ten small,
      Nat.ofDigitChars_nil]
    omega

/-- A padded number between digits and marks is read as the number. -/
theorem number_padded {width n count : Nat} {rest : List Char} (some_digit : 0 < width)
    (small : n < 10 ^ width) (fits : width ≤ count) (past : PastDigits rest) :
    number count (padded width n ++ rest) = .ok (n, rest) := by
  have long := length_padded width n
  have there : padded width n ≠ [] := by
    intro empty
    rw [empty, List.length_nil] at long
    omega
  rw [number_append there (fun _ => isDigit_of_mem_padded) (by omega) past,
    ofDigitChars_padded small]

/-- A padded number is read as the number by whoever knows how many digits it has. -/
theorem exactly_padded (width n : Nat) (rest : List Char) (small : n < 10 ^ width) :
    exactly width 0 (padded width n ++ rest) = .ok (n, rest) := by
  rw [exactly_append (fun _ => isDigit_of_mem_padded) (length_padded width n),
    ofDigitChars_padded small]

/-- A number of two digits is read in front of a character that is no digit. -/
theorem number_two {n : Nat} {c : Char} (rest : List Char) (small : n < 100)
    (stop : c.isDigit = false) : number 2 (padded 2 n ++ c :: rest) = .ok (n, c :: rest) :=
  number_padded (by decide) small (by decide) (pastDigits_cons rest stop)

/-- The digits of a far year. -/
theorem number_far_year {n count : Nat} {rest : List Char}
    (fits : (List.replicate (4 - (Nat.toDigits 10 n).length) '0' ++ Nat.toDigits 10 n).length ≤ count)
    (past : PastDigits rest) :
    number count ((List.replicate (4 - (Nat.toDigits 10 n).length) '0' ++ Nat.toDigits 10 n) ++ rest) =
      .ok (n, rest) := by
  rw [number_append ?_ ?_ fits past, Nat.ofDigitChars_append, Nat.ofDigitChars_replicate_zero,
    Nat.mul_zero, Nat.ofDigitChars_ten_toDigits]
  · simp
  · intro c there
    rcases List.mem_append.mp there with zero | digit
    · rw [List.eq_of_mem_replicate zero]
      decide
    · exact Nat.isDigit_of_mem_toDigits (by decide) (by decide) digit

/-- A number is no sign. -/
theorem signedYear_padded {n : Nat} {rest : List Char} (small : n < 10000) (past : PastDigits rest) :
    signedYear (padded 4 n ++ rest) = .ok (n, rest) := by
  have whole : number 4 (padded 4 n ++ rest) = .ok (n, rest) :=
    number_padded (by decide) small (Nat.le_refl 4) past
  have first : ∀ c tail, padded 4 n ++ rest = c :: tail → c.isDigit := by
    intro c tail same
    have there : c ∈ padded 4 n := by
      simp only [padded, List.nil_append, List.cons_append, List.cons.injEq] at same ⊢
      simp [← same.1]
    exact isDigit_of_mem_padded there
  unfold signedYear
  split
  · rename_i tail same
    exact absurd (first _ _ same) (by decide)
  · rename_i tail same
    exact absurd (first _ _ same) (by decide)
  · rw [whole]
    rfl

/-- A written year is read back. -/
theorem signedYear_yearText (date : Date) {rest : List Char} (past : PastDigits rest) :
    signedYear (yearText date.year ++ rest) = .ok (date.year, rest) := by
  have range := date.year_mem
  unfold yearText
  by_cases near : 0 ≤ date.year ∧ date.year ≤ 9999
  · have back : ((date.year.toNat : Nat) : Int) = date.year := Int.toNat_of_nonneg near.1
    rw [if_pos near, signedYear_padded (by omega) past, back]
  · rw [if_neg near]
    by_cases negative : date.year < 0
    · have value : -(date.year.natAbs : Int) = date.year := by omega
      have small : date.year.natAbs ≤ 2147483648 := by omega
      simp only [if_pos negative, List.cons_append, signedYear]
      generalize date.year.natAbs = magnitude at value small ⊢
      rw [number_far_year (by simp) past]
      simp [bind, Except.bind, small, value, pure, Except.pure]
    · have value : (date.year.natAbs : Int) = date.year := by omega
      have small : date.year.natAbs < 2147483648 := by omega
      simp only [if_neg negative, List.cons_append, signedYear]
      generalize date.year.natAbs = magnitude at value small ⊢
      rw [number_far_year (by simp) past]
      simp [bind, Except.bind, small, value, pure, Except.pure]

/-- A written fraction is read back, whatever number of digits it takes. -/
theorem fraction_fractionText {nano : Nat} {c : Char} {rest : List Char} (small : nano < 1000000000)
    (stop : c.isDigit = false) (no_point : c ≠ '.') :
    fraction (fractionText nano ++ c :: rest) = .ok (nano, c :: rest) := by
  have past : PastDigits (c :: rest) := pastDigits_cons rest stop
  have scaled (width n : Nat) (some_digit : 0 < width) (few : width ≤ 9) (inside : n < 10 ^ width)
      (exact_ : n * 10 ^ (9 - width) = nano) :
      fraction ('.' :: padded width n ++ c :: rest) = .ok (nano, c :: rest) := by
    rw [List.cons_append, fraction, number_padded some_digit inside few past]
    simp [bind, Except.bind, pure, Except.pure, length_padded, stop, exact_]
  unfold fractionText
  by_cases whole : nano = 0
  · rw [if_pos whole, whole, List.nil_append, fraction]
    intro tail same
    cases same
    exact no_point rfl
  · rw [if_neg whole]
    by_cases milli : nano % 1000000 = 0
    · rw [if_pos milli]
      exact scaled 3 _ (by decide) (by decide) (by omega) (by omega)
    · rw [if_neg milli]
      by_cases micro : nano % 1000 = 0
      · rw [if_pos micro]
        exact scaled 6 _ (by decide) (by decide) (by omega) (by omega)
      · rw [if_neg micro]
        exact scaled 9 _ (by decide) (by decide) (by omega) (by omega)

end Instant

namespace Blank

/-- Nothing is dropped in front of a character that is no blank. -/
theorem dropStart_cons {c : Char} (rest : List Char) (h : holds c = false) :
    dropStart (c :: rest) = c :: rest := by
  simp [dropStart, h]

/-- A digit is no blank. -/
theorem holds_of_isDigit {c : Char} (h : c.isDigit) : holds c = false := by
  have bounds : 48 ≤ c.toNat ∧ c.toNat ≤ 57 := by
    simpa [Char.isDigit, UInt32.le_iff_toNat_le] using h
  simp [holds, ranges]
  omega

/-- No blank stands before a padded number. -/
theorem dropStart_padded {width n : Nat} (rest : List Char) (some_digit : 0 < width) :
    dropStart (Instant.padded width n ++ rest) = Instant.padded width n ++ rest := by
  have long := Instant.length_padded width n
  cases same : Instant.padded width n with
  | nil =>
    rw [same, List.length_nil] at long
    omega
  | cons c tail =>
    have there : c ∈ Instant.padded width n := same ▸ List.mem_cons_self
    exact dropStart_cons _ (holds_of_isDigit (Instant.isDigit_of_mem_padded there))

/-- No blank stands before a year. -/
theorem dropStart_yearText (year : Int) (rest : List Char) :
    dropStart (Instant.yearText year ++ rest) = Instant.yearText year ++ rest := by
  unfold Instant.yearText
  by_cases near : 0 ≤ year ∧ year ≤ 9999
  · rw [if_pos near]
    exact dropStart_padded rest (by decide)
  · rw [if_neg near]
    by_cases negative : year < 0
    · rw [if_pos negative]
      exact dropStart_cons _ (by decide)
    · rw [if_neg negative]
      exact dropStart_cons _ (by decide)

end Blank

namespace Instant

open InstantReading

/-- Universal time is its own local time. -/
theorem ofLocal?_zero (i : Instant) : ofLocal? i.date i.time 0 = some i := by
  have hour := i.time.hour_lt
  have minute := i.time.minute_lt
  have minutes : ((i.time.hour * 60 + i.time.minute : Nat) : Int) - 0 =
      (i.time.hour * 60 + i.time.minute : Nat) := by omega
  have day : ((i.time.hour * 60 + i.time.minute : Nat) : Int) % 1440 =
      (i.time.hour * 60 + i.time.minute : Nat) := by omega
  have hours : (i.time.hour * 60 + i.time.minute) / 60 = i.time.hour := by omega
  have rest : (i.time.hour * 60 + i.time.minute) % 60 = i.time.minute := by omega
  simp only [ofLocal?, minutes, day, Int.toNat_natCast, hours, rest, TimeOfDay.of?_fields]
  rw [if_neg (by omega), if_neg (by omega)]

/-- The fraction of a second begins with no digit, and neither does what follows when it is left
out. -/
theorem pastDigits_fractionText (nano : Nat) : PastDigits (fractionText nano ++ ['Z']) := by
  unfold fractionText
  split
  · exact pastDigits_cons _ rfl
  · split
    · exact pastDigits_cons _ rfl
    · split
      · exact pastDigits_cons _ rfl
      · exact pastDigits_cons _ rfl

/-- No month has more than 31 days. -/
theorem daysIn_le (year : Int) (month : Nat) : daysIn year month ≤ 31 := by
  unfold daysIn
  split
  · split <;> omega
  · omega
  · omega
  · omega
  · omega
  · omega

/-- The relaxed reader gives back every instant that has been written for a payload. -/
theorem readRelaxed_text (i : Instant) : readRelaxed i.text = .ok i := by
  have month := i.date.month_mem
  have day := i.date.day_mem
  have month_days := daysIn_le i.date.year i.date.month
  have hour := i.time.hour_lt
  have minute := i.time.minute_lt
  have second := i.time.second_le
  have year_read (rest : List Char) := signedYear_yearText i.date (pastDigits_cons (c := '-') rest rfl)
  have month_read (rest : List Char) := number_two (n := i.date.month) (c := '-') rest (by omega) rfl
  have day_read (rest : List Char) := number_two (n := i.date.day) (c := 'T') rest (by omega) rfl
  have hour_read (rest : List Char) := number_two (n := i.time.hour) (c := ':') rest (by omega) rfl
  have minute_read (rest : List Char) :=
    number_two (n := i.time.minute) (c := ':') rest (by omega) rfl
  have second_read : number 2 (padded 2 i.time.second ++ (fractionText i.time.nano ++ ['Z'])) =
      .ok (i.time.second, fractionText i.time.nano ++ ['Z']) :=
    number_padded (by decide) (by omega) (by decide) (pastDigits_fractionText _)
  have nano_read : fraction (fractionText i.time.nano ++ ['Z']) = .ok (i.time.nano, ['Z']) :=
    fraction_fractionText i.time.nano_lt rfl (by decide)
  have month_in : between 1 12 i.date.month = .ok () := if_pos month
  have day_in : between 1 31 i.date.day = .ok () := if_pos (by omega)
  have hour_in : between 0 23 i.time.hour = .ok () := if_pos (by omega)
  have minute_in : between 0 59 i.time.minute = .ok () := if_pos (by omega)
  have second_in : between 0 60 i.time.second = .ok () := if_pos (by omega)
  have two : 0 < 2 := by decide
  have colon_first (rest : List Char) := Blank.dropStart_cons (c := ':') rest (by decide)
  have minus_first (rest : List Char) := Blank.dropStart_cons (c := '-') rest (by decide)
  have zone_first := Blank.dropStart_cons (c := 'Z') [] (by decide)
  have zone_read : relaxedOffset ['Z'] = .ok (0, []) := by decide
  have settled : settle i.date i.time 0 = .ok i := by
    rw [settle, if_pos (by decide), ofLocal?_zero]
  simp only [readRelaxed, text, String.toList_ofList, fieldsText, List.append_assoc,
    List.cons_append, Blank.dropStart_yearText, year_read, minus_first, mark,
    Blank.dropStart_padded _ two, month_read, day_read, hour_read, minute_read, second_read,
    nano_read, colon_first, zone_first, zone_read, bind, Except.bind, if_true, separator,
    month_in, day_in, hour_in, minute_in, second_in,
    true_or, settled, TimeOfDay.of?_fields, Date.of?_fields]
  exact if_neg (by simp [Blank.dropStart])

/-- Whether an instant lies in one of the years that are written with four digits and no sign. -/
def IsNear (i : Instant) : Prop :=
  0 ≤ i.date.year ∧ i.date.year ≤ 9999

instance (i : Instant) : Decidable i.IsNear :=
  inferInstanceAs (Decidable (0 ≤ i.date.year ∧ i.date.year ≤ 9999))

/-- A year is written with at least four digits. -/
theorem four_le_length_yearText (year : Int) : 4 ≤ (yearText year).length := by
  unfold yearText
  split
  · rw [length_padded]
  · simp
    omega

/-- A text has at least as many bytes as characters. -/
theorem length_le_utf8ByteSize (text : List Char) :
    text.length ≤ (String.ofList text).utf8ByteSize := by
  rw [String.utf8ByteSize_ofList]
  induction text with
  | nil => exact Nat.zero_le _
  | cons c text ih =>
    have wide := Char.utf8Size_pos c
    rw [List.length_cons, String.utf8Len_cons]
    omega

/-- A stored instant is its fields with the offset of zero behind them. -/
theorem toList_stored (i : Instant) :
    i.stored.toList = i.fieldsText ++ ['+', '0', '0', ':', '0', '0'] :=
  String.toList_ofList

/-- A stored instant is never too short. -/
theorem utf8ByteSize_stored (i : Instant) : ¬ i.stored.utf8ByteSize < 19 := by
  have year := four_le_length_yearText i.date.year
  have bytes := length_le_utf8ByteSize (i.fieldsText ++ ['+', '0', '0', ':', '0', '0'])
  simp only [fieldsText, List.length_append, List.length_cons, length_padded] at bytes
  unfold stored
  simp only [fieldsText]
  omega

/-- The strict reader takes a sign for a wrong character. -/
theorem exactly_far_year {i : Instant} (far : ¬ i.IsNear) (rest : List Char) :
    exactly 4 0 (yearText i.date.year ++ rest) = .error .invalid := by
  unfold IsNear at far
  rw [yearText, if_neg far]
  by_cases negative : i.date.year < 0
  · rw [if_pos negative]
    rfl
  · rw [if_neg negative]
    rfl

/-- The strict reader gives a stored instant back if its year has four digits, and refuses it if
there is a sign before the year. -/
theorem readStrict_stored (i : Instant) :
    readStrict i.stored = if i.IsNear then .ok i else .error .invalid := by
  by_cases near : i.IsNear
  · have near_bounds := near
    unfold IsNear at near_bounds
    have month := i.date.month_mem
    have day := i.date.day_mem
    have month_days := daysIn_le i.date.year i.date.month
    have hour := i.time.hour_lt
    have minute := i.time.minute_lt
    have second := i.time.second_le
    have year_back : ((i.date.year.toNat : Nat) : Int) = i.date.year :=
      Int.toNat_of_nonneg near_bounds.1
    have year_read (rest : List Char) :=
      exactly_padded 4 i.date.year.toNat rest (by omega)
    have month_read (rest : List Char) :=
      exactly_padded 2 i.date.month rest (by omega)
    have day_read (rest : List Char) :=
      exactly_padded 2 i.date.day rest (by omega)
    have hour_read (rest : List Char) :=
      exactly_padded 2 i.time.hour rest (by omega)
    have minute_read (rest : List Char) :=
      exactly_padded 2 i.time.minute rest (by omega)
    have second_read (rest : List Char) :=
      exactly_padded 2 i.time.second rest (by omega)
    have nano_read (rest : List Char) :
        fraction (fractionText i.time.nano ++ '+' :: rest) = .ok (i.time.nano, '+' :: rest) :=
      fraction_fractionText i.time.nano_lt rfl (by decide)
    have zone_read : offset (mark ':') ['+', '0', '0', ':', '0', '0'] = .ok (0, []) := by decide
    have settled : settle i.date i.time 0 = .ok i := by
      rw [settle, if_pos (by decide), ofLocal?_zero]
    have year_text : yearText i.date.year = padded 4 i.date.year.toNat := if_pos near_bounds
    rw [if_pos near]
    simp only [readStrict, utf8ByteSize_stored, toList_stored, fieldsText, List.append_assoc,
      List.cons_append, year_text, year_read, month_read, day_read, hour_read, minute_read,
      second_read, nano_read, zone_read, bind, Except.bind, if_false, if_true, mark, separator,
      true_or, settled, year_back, TimeOfDay.of?_fields, Date.of?_fields]
    rfl
  · rw [if_neg near]
    simp only [readStrict, utf8ByteSize_stored, toList_stored, fieldsText, List.append_assoc,
      exactly_far_year near, bind, Except.bind, if_false]

end Instant

end Gazette
