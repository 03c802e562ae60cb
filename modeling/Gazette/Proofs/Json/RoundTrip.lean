import Mathlib
import Gazette.Account
import Gazette.Article
import Gazette.Proofs.Json.Number
import Gazette.Proofs.Time.Reading

/-!
# Written values are read back

A codec is lawful if it reads back what it writes and stops where the value ends.  The codecs of
single values are lawful, and lists and records of lawful codecs are lawful again: what follows
an element is a comma or the end of the list, and each of them ends a value.
-/

set_option autoImplicit false

namespace Gazette

open Json

/-- A byte that can begin a value: reading a list neither passes over it nor stops at it. -/
structure Json.Begins (b : UInt8) : Prop where
  solid : Ascii.isBlank b = false
  open_ : b ≠ Ascii.closeList

/-- A codec that reads back what it writes, whatever follows the value. -/
structure Codec.Lawful {α : Type} (codec : Codec α) : Prop where
  begins (value : α) : ∃ b tail, codec.write value = b :: tail ∧ Begins b
  read (value : α) {rest : Payload} : Ends rest →
    codec.read (codec.write value ++ rest) = .ok (value, rest)

namespace Json

/-- Nothing is skipped in front of a byte that is no blank. -/
theorem skipBlank_cons {b : UInt8} (tail : Payload) (h : Ascii.isBlank b = false) :
    skipBlank (b :: tail) = b :: tail := by
  simp [skipBlank, h]

/-- A text is read back from its quoted form, whatever follows it. -/
theorem readText_writeText (expected : Expected) (text : String) (rest : Payload) :
    readText expected (writeText text ++ rest) = .ok (text, rest) := by
  rw [writeText_append]
  exact textBody_writeText text rest

/-- The letters of a word are passed over. -/
theorem word_append (letters rest : Payload) : word letters (letters ++ rest) = .ok rest := by
  induction letters with
  | nil => rfl
  | cons b letters ih => rw [List.cons_append, word, if_pos rfl, ih]

/-- The parts after the first one, each behind its comma. -/
theorem commaSeparated_cons (part : Payload) (parts : List Payload) :
    commaSeparated (part :: parts) = part ++ parts.flatMap (Ascii.comma :: ·) := by
  induction parts generalizing part with
  | nil => simp [commaSeparated]
  | cons next parts ih =>
    have split_first : commaSeparated (part :: next :: parts) =
        part ++ Ascii.comma :: commaSeparated (next :: parts) := rfl
    rw [split_first, ih, List.flatMap_cons, List.cons_append]

/-- A list of parts is no longer than the parts are with a comma in front of each. -/
theorem length_le_flatMap_comma (parts : List Payload) :
    parts.length ≤ (parts.flatMap (Ascii.comma :: ·)).length := by
  induction parts with
  | nil => exact Nat.le_refl _
  | cons part parts ih =>
    rw [List.flatMap_cons, List.length_append, List.length_cons, List.length_cons]
    omega

/-- What follows a value in a list or an object may follow it. -/
theorem ends_parts {close : UInt8} (parts : List Payload) (rest : Payload)
    (h : close = Ascii.closeList ∨ close = Ascii.closeObject) :
    Ends (parts.flatMap (Ascii.comma :: ·) ++ close :: rest) := by
  cases parts with
  | nil => exact ends_cons rest (.inr h)
  | cons part parts => exact ends_cons _ (.inl rfl)

end Json

namespace Codec

variable {α β : Type} {codec : Codec α}

/-- A lawful codec reads back what it has written as a whole payload. -/
theorem Lawful.decode_encode (lawful : codec.Lawful) (value : α) :
    codec.decode (codec.encode value) = .ok value := by
  have whole := lawful.read value ends_nil
  rw [List.append_nil] at whole
  rw [decode, encode, whole]
  rfl

/-- A written integer begins with a sign or a digit. -/
theorem begins_integer (value : Int) :
    ∃ b tail, Utf8.bytes (toString value) = b :: tail ∧ Begins b := by
  obtain ⟨b, tail, begun, digit⟩ := digitBytes_cons value.natAbs
  rw [bytes_toString_int, begun]
  by_cases negative : value < 0
  · rw [if_pos negative]
    exact ⟨_, _, rfl, rfl, by decide⟩
  · rw [if_neg negative]
    refine ⟨b, tail, rfl, isBlank_of_isDigit digit, ?_⟩
    rintro rfl
    exact absurd digit (by decide)

/-- A number of 64 bits is read back. -/
theorem lawful_int64 : int64.Lawful where
  begins value := begins_integer value.toInt
  read value rest ends := by
    have low : smallestInt64 ≤ value.toInt := Int64.le_toInt value
    have high : value.toInt ≤ largestInt64 := Int64.toInt_le value
    have large : largestInt64 ≤ largestUInt64 := by decide
    have back : Int64.ofInt value.toInt = value := Int64.ofInt_toInt value
    have whole := readInteger_bytes .int64 ⟨low, high⟩ low (Int.le_trans high large) ends
    have reads : int64.read (int64.write value ++ rest) =
        (readInteger smallestInt64 largestInt64 .int64
          (Utf8.bytes (toString value.toInt) ++ rest)).map _ := rfl
    rw [reads, whole]
    simp only [Except.map, back]

/-- A text is read back. -/
theorem lawful_text : text.Lawful where
  begins value := ⟨_, _, rfl, rfl, by decide⟩
  read value rest _ := readText_writeText .text value rest

/-- A truth value is read back. -/
theorem lawful_boolean : boolean.Lawful where
  begins value := by
    cases value with
    | false => exact ⟨Ascii.lowerF, falseRest, by decide, rfl, by decide⟩
    | true => exact ⟨Ascii.lowerT, trueRest, by decide, rfl, by decide⟩
  read value rest _ := by
    cases value with
    | false =>
      have written : boolean.write false = Ascii.lowerF :: falseRest := by decide
      have reads : boolean.read (Ascii.lowerF :: (falseRest ++ rest)) =
          (word falseRest (falseRest ++ rest)).map fun rest => (false, rest) := rfl
      rw [written, List.cons_append, reads, word_append]
      rfl
    | true =>
      have written : boolean.write true = Ascii.lowerT :: trueRest := by decide
      have reads : boolean.read (Ascii.lowerT :: (trueRest ++ rest)) =
          (word trueRest (trueRest ++ rest)).map fun rest => (true, rest) := rfl
      rw [written, List.cons_append, reads, word_append]
      rfl

/-- An instant is read back. -/
theorem lawful_instant : instant.Lawful where
  begins value := ⟨_, _, rfl, rfl, by decide⟩
  read value rest _ := by
    have written : instant.write value = writeText value.text := rfl
    have reads : ∀ input, instant.read input = readText .instant input >>= _ := fun _ => rfl
    rw [written, reads, readText_writeText]
    simp [bind, Except.bind, Instant.readRelaxed_text, pure, Except.pure]

/-- The same bytes are read back as the other type. -/
theorem Lawful.imap (lawful : codec.Lawful) {make : α → β} {take : β → α}
    (back : ∀ value, make (take value) = value) : (codec.imap make take).Lawful where
  begins value := lawful.begins (take value)
  read value rest ends := by
    have reads : (codec.imap make take).read (codec.write (take value) ++ rest) =
        (codec.read (codec.write (take value) ++ rest)).map _ := rfl
    have whole := lawful.read (take value) ends
    refine reads.trans ?_
    rw [whole]
    simp only [Except.map, back]

/-- The elements of a list after the first one are read up to the end of the list. -/
theorem Lawful.readElements_rest (lawful : codec.Lawful) (values : List α) (rest : Payload)
    {bound : Nat} (enough : values.length < bound) :
    readElements codec.read bound false
      ((values.map codec.write).flatMap (Ascii.comma :: ·) ++ Ascii.closeList :: rest) =
        .ok (values, rest) := by
  induction values generalizing bound with
  | nil =>
    obtain ⟨bound, rfl⟩ : ∃ less, bound = less + 1 := ⟨bound - 1, by simp at enough; omega⟩
    rfl
  | cons value values ih =>
    obtain ⟨bound, rfl⟩ : ∃ less, bound = less + 1 := ⟨bound - 1, by simp at enough; omega⟩
    obtain ⟨b, tail, begun, begins⟩ := lawful.begins value
    have others := ih (Nat.lt_of_succ_lt_succ enough)
    have this_one := lawful.read value
      (ends_parts (values.map codec.write) rest (.inl (rfl : Ascii.closeList = _)))
    have next : ∀ input, nextElement false (Ascii.comma :: (codec.write value ++ input)) =
        .ok (some (codec.write value ++ input)) := by
      intro input
      have comma_first : skipBlank (Ascii.comma :: (b :: tail ++ input)) =
          Ascii.comma :: (b :: tail ++ input) := rfl
      have value_first : skipBlank (b :: tail ++ input) = b :: tail ++ input :=
        skipBlank_cons _ begins.solid
      have comma_no_end : ¬ Ascii.comma = Ascii.closeList := by decide
      rw [begun]
      simp only [nextElement, comma_first, value_first]
      simp [begins.open_, comma_no_end]
    rw [List.map_cons, List.flatMap_cons, List.append_assoc, List.cons_append, readElements, next]
    simp only [bind, Except.bind, this_one, others]
    rfl

/-- Lists of values that are read back are read back. -/
theorem Lawful.list (lawful : codec.Lawful) : codec.list.Lawful where
  begins values := ⟨_, _, rfl, rfl, by decide⟩
  read values rest _ := by
    have opened : ∀ input, codec.list.read (Ascii.openList :: input) =
        readElements codec.read (input.length + 1) true input := fun _ => rfl
    have written : codec.list.write values ++ rest = Ascii.openList ::
        (commaSeparated (values.map codec.write) ++ Ascii.closeList :: rest) := by
      simp [Codec.list]
    rw [written, opened]
    cases values with
    | nil => rfl
    | cons value values =>
      obtain ⟨b, tail, begun, begins⟩ := lawful.begins value
      have this_one := lawful.read value
        (ends_parts (values.map codec.write) rest (.inl (rfl : Ascii.closeList = _)))
      have next : ∀ input, nextElement true (codec.write value ++ input) =
          .ok (some (codec.write value ++ input)) := by
        intro input
        have value_first : skipBlank (b :: tail ++ input) = b :: tail ++ input :=
          skipBlank_cons _ begins.solid
        rw [begun]
        simp only [nextElement, value_first]
        simp [begins.open_]
      have enough := length_le_flatMap_comma (values.map codec.write)
      rw [List.map_cons, commaSeparated_cons, List.append_assoc, readElements, next]
      simp only [bind, Except.bind, this_one]
      rw [lawful.readElements_rest values rest]
      · rfl
      · simp only [List.length_append, List.length_map] at enough ⊢
        rw [begun]
        simp only [List.length_cons]
        omega

end Codec

namespace Fields

/-- The names of the fields, in order. -/
def names {types : List Type} : Fields types → List String
  | .nil => []
  | .cons name _ rest => name :: rest.names

/-- Fields that are told apart by their names and whose values are read back. -/
inductive Lawful : {types : List Type} → Fields types → Prop where
  | nil : Lawful .nil
  | cons {α : Type} {types : List Type} {name : String} {codec : Codec α} {rest : Fields types} :
      name ∉ rest.names → codec.Lawful → Lawful rest → Lawful (.cons name codec rest)

/-- The state in which the first fields have been read. -/
def filled {types : List Type} : Fields types → Values types → Nat → Slots types
  | .nil, _, _ => ()
  | .cons _ _ rest, (_, _), 0 => (none, rest.blank)
  | .cons _ _ rest, (value, values), n + 1 => (some value, rest.filled values n)

variable {types : List Type} {fields : Fields types}

/-- Before the first member of an object has been read, all of its fields are blank. -/
theorem filled_zero (fields : Fields types) (values : Values types) :
    fields.filled values 0 = fields.blank := by
  cases fields <;> rfl

/-- An object has as many members as its type has fields. -/
theorem length_members (fields : Fields types) (values : Values types) :
    (fields.members values).length = fields.count := by
  induction fields with
  | nil => rfl
  | cons name codec rest ih => simp [members, count, ih]

/-- A record whose fields have all been read is the record. -/
theorem settle_filled (fields : Fields types) (values : Values types) {n : Nat}
    (h : fields.count ≤ n) : fields.settle (fields.filled values n) = .ok values := by
  induction fields generalizing n with
  | nil => rfl
  | cons name codec rest ih =>
    obtain ⟨n, rfl⟩ : ∃ less, n = less + 1 := ⟨n - 1, by simp [count] at h; omega⟩
    have others := ih values.2 (Nat.le_of_succ_le_succ h)
    simp only [filled, settle]
    simp [others, bind, Except.bind, pure, Except.pure]

/-- The next member fills the next field. -/
theorem Lawful.accept_member (lawful : fields.Lawful) (values : Values types) {n : Nat}
    {member : Payload} (h : (fields.members values)[n]? = some member) :
    ∃ name written, name ∈ fields.names ∧
      member = writeText name ++ Ascii.colon :: written ∧
      ∀ {rest : Payload}, Ends rest →
        fields.accept (fields.filled values n) name (Ascii.colon :: (written ++ rest)) =
          .ok (fields.filled values (n + 1), rest) := by
  induction lawful generalizing n with
  | nil => simp [members] at h
  | @cons α types name codec others new lawful _ ih =>
    cases n with
    | zero =>
      simp only [members, List.getElem?_cons_zero, Option.some.injEq] at h
      refine ⟨name, codec.write values.1, List.mem_cons_self, h.symm, ?_⟩
      intro rest ends
      have after_colon : colon (Ascii.colon :: (codec.write values.1 ++ rest)) =
          .ok (codec.write values.1 ++ rest) := rfl
      have value_read := lawful.read values.1 ends
      simp only [filled, accept, if_true, after_colon, value_read, bind, Except.bind]
      rw [filled_zero]
      rfl
    | succ n =>
      simp only [members, List.getElem?_cons_succ] at h
      obtain ⟨key, written, there, same, fills⟩ := ih values.2 h
      refine ⟨key, written, List.mem_cons_of_mem _ there, same, ?_⟩
      intro rest ends
      have other_name : ¬ key = name := by
        rintro rfl
        exact new there
      have inner := fills ends
      simp only [filled, accept, if_neg other_name, inner, bind, Except.bind]
      rfl

/-- The members of an object after some fields have been filled are read up to its end. -/
theorem Lawful.readMembers_rest (lawful : fields.Lawful) (values : Values types) (rest : Payload)
    {parts : List Payload} {n bound : Nat} (same : (fields.members values).drop n = parts)
    (enough : parts.length < bound) :
    ∃ m, fields.count ≤ m ∧ fields.readMembers bound false (fields.filled values n)
      (parts.flatMap (Ascii.comma :: ·) ++ Ascii.closeObject :: rest) =
        .ok (fields.filled values m, rest) := by
  induction parts generalizing n bound with
  | nil =>
    obtain ⟨bound, rfl⟩ : ∃ less, bound = less + 1 := ⟨bound - 1, by simp at enough; omega⟩
    have all_filled : fields.count ≤ n := by
      rw [← length_members fields values]
      exact List.drop_eq_nil_iff.mp same
    exact ⟨n, all_filled, rfl⟩
  | cons member parts ih =>
    obtain ⟨bound, rfl⟩ : ∃ less, bound = less + 1 := ⟨bound - 1, by simp at enough; omega⟩
    have here : (fields.members values)[n]? = some member := by
      rw [← List.head?_drop, same, List.head?_cons]
    have others : (fields.members values).drop (n + 1) = parts := by
      rw [← List.tail_drop, same, List.tail_cons]
    obtain ⟨name, written, -, rfl, fills⟩ := lawful.accept_member values here
    obtain ⟨m, all_filled, read⟩ := ih others (Nat.lt_of_succ_lt_succ enough)
    refine ⟨m, all_filled, ?_⟩
    have next : ∀ input, nextKey false (Ascii.comma :: Ascii.quote :: input) = .ok (some input) :=
      fun _ => rfl
    rw [List.flatMap_cons, List.append_assoc, List.cons_append, List.append_assoc,
      writeText_append, readMembers, next]
    simp only [bind, Except.bind, textBody_writeText, List.cons_append]
    rw [fills (ends_parts parts rest (.inr rfl))]
    exact read

/-- A written object is read back into its values. -/
theorem Lawful.readMembers_written (lawful : fields.Lawful) (values : Values types)
    (rest : Payload) {bound : Nat} (enough : (fields.members values).length < bound) :
    ∃ m, fields.count ≤ m ∧ fields.readMembers bound true fields.blank
      (commaSeparated (fields.members values) ++ Ascii.closeObject :: rest) =
        .ok (fields.filled values m, rest) := by
  obtain ⟨bound, rfl⟩ : ∃ less, bound = less + 1 := ⟨bound - 1, by omega⟩
  cases same : fields.members values with
  | nil =>
    refine ⟨0, ?_, ?_⟩
    · rw [← length_members fields values, same]
      exact Nat.le_refl 0
    · rw [filled_zero]
      rfl
  | cons member parts =>
    have here : (fields.members values)[0]? = some member := by rw [same]; rfl
    have others : (fields.members values).drop 1 = parts := by rw [same]; rfl
    rw [same] at enough
    obtain ⟨name, written, -, rfl, fills⟩ := lawful.accept_member values here
    obtain ⟨m, all_filled, read⟩ :=
      lawful.readMembers_rest values rest others (Nat.lt_of_succ_lt_succ enough)
    refine ⟨m, all_filled, ?_⟩
    have next : ∀ input, nextKey true (Ascii.quote :: input) = .ok (some input) := fun _ => rfl
    rw [← filled_zero fields values, commaSeparated_cons, List.append_assoc, List.append_assoc,
      writeText_append, readMembers, next]
    simp only [bind, Except.bind, textBody_writeText, List.cons_append]
    rw [fills (ends_parts parts rest (.inr rfl))]
    exact read

/-- The members of an object are not more than the bytes that are left to read them. -/
theorem length_members_le (fields : Fields types) (values : Values types) (rest : Payload) :
    (fields.members values).length <
      (commaSeparated (fields.members values) ++ Ascii.closeObject :: rest).length + 1 := by
  cases fields.members values with
  | nil => exact Nat.succ_pos _
  | cons member parts =>
    have enough := length_le_flatMap_comma parts
    rw [commaSeparated_cons, List.length_append, List.length_append, List.length_cons,
      List.length_cons]
    omega

end Fields

/-- A record of fields that are read back is read back. -/
theorem Codec.lawful_record {types : List Type} {fields : Fields types} (name : String)
    (lawful : fields.Lawful) : (Codec.record name fields).Lawful where
  begins values := ⟨_, _, rfl, rfl, by decide⟩
  read values rest _ := by
    have opened : ∀ input, (Codec.record name fields).read (Ascii.openObject :: input) =
        fields.readMembers (input.length + 1) true fields.blank input >>= _ := fun _ => rfl
    have written : (Codec.record name fields).write values ++ rest = Ascii.openObject ::
        (commaSeparated (fields.members values) ++ Ascii.closeObject :: rest) := by
      simp [Codec.record]
    obtain ⟨m, all_filled, read⟩ :=
      lawful.readMembers_written values rest (Fields.length_members_le fields values rest)
    rw [written, opened, read]
    simp only [bind, Except.bind, Fields.settle_filled fields values all_filled]
    rfl

/-- An author is read back from its payload. -/
theorem Author.lawful_codec : Author.codec.Lawful := by
  apply Codec.Lawful.imap
  · apply Codec.lawful_record
    exact .cons (by decide) Codec.lawful_int64 <| .cons (by decide) Codec.lawful_text <|
      .cons (by decide) Codec.lawful_text <| .cons (by decide) Codec.lawful_text .nil
  · intro author
    rfl

/-- A tag is read back from its payload. -/
theorem Tag.lawful_codec : Tag.codec.Lawful := by
  apply Codec.Lawful.imap
  · exact Codec.lawful_record _ (.cons (by decide) Codec.lawful_int64 <|
      .cons (by decide) Codec.lawful_text .nil)
  · intro tag
    rfl

/-- Accounts are read back from their payloads. -/
theorem Account.lawful_codec : Account.codec.Lawful := by
  apply Codec.Lawful.imap
  · exact Codec.lawful_record _ (.cons (by decide) Codec.lawful_int64 <|
      .cons (by decide) Codec.lawful_text <| .cons (by decide) Codec.lawful_text <|
      .cons (by decide) Codec.lawful_text <| .cons (by decide) Codec.lawful_text <|
      .cons (by decide) Codec.lawful_text <| .cons (by decide) Codec.lawful_boolean <|
      .cons (by decide) Codec.lawful_instant <| .cons (by decide) Codec.lawful_instant .nil)
  · intro account
    rfl

/-- Articles are read back from their payloads. -/
theorem Article.lawful_codec : Article.codec.Lawful := by
  apply Codec.Lawful.imap
  · exact Codec.lawful_record _ (.cons (by decide) Codec.lawful_int64 <|
      .cons (by decide) Codec.lawful_text <| .cons (by decide) Codec.lawful_text <|
      .cons (by decide) Codec.lawful_text <| .cons (by decide) Author.lawful_codec <|
      .cons (by decide) Tag.lawful_codec.list <| .cons (by decide) Codec.lawful_instant <|
      .cons (by decide) Codec.lawful_instant <| .cons (by decide) Codec.lawful_int64 .nil)
  · intro article
    rfl

end Gazette
