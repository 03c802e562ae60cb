import Mathlib.Data.List.Basic
import Gazette.Proofs.Text.Parts
import Gazette.Text.Slug

/-!
# The form of slugs

A slug consists of the words of its title: the runs of letters and digits that are left when all
characters have been spelled in ASCII, in lower case.  What stands between two words does not
matter, as long as something does, and a text that has the form of a slug is its own slug.  Nothing
here depends on how the characters outside ASCII are spelled, so that is a parameter.
-/

set_option autoImplicit false

namespace Gazette

namespace Slug

/-- The ASCII spelling of one character, when those outside ASCII are rendered as given. -/
def spellBy (rendering : Char → Option String) (c : Char) : List Char :=
  if c.toNat < 128 then [c]
  else match rendering c with
    | some text => text.toList
    | none => ['-']

/-- A character that the words of a slug are made of. -/
def IsWordChar (c : Char) : Prop :=
  ('a' ≤ c ∧ c ≤ 'z') ∨ ('0' ≤ c ∧ c ≤ '9')

instance : DecidablePred IsWordChar :=
  fun _ => inferInstanceAs (Decidable (_ ∨ _))

/-- A word of a slug. -/
def IsWord (word : List Char) : Prop :=
  word ≠ [] ∧ ∀ c ∈ word, IsWordChar c

/-- A text that has the form of a slug: words joined by single hyphens. -/
def IsCanonical (slug : String) : Prop :=
  ∃ words : List String, (∀ word ∈ words, IsWord word.toList) ∧ slug = "-".intercalate words

/-- A text of separators only, all of them in ASCII. -/
def IsGap (text : String) : Prop :=
  ∀ c ∈ text.toList, c.toNat < 128 ∧ keeps c = false

/-- Whether a character is a letter or a digit, or is rendered as a text that holds one. -/
def Shows (rendering : Char → Option String) (c : Char) : Prop :=
  keeps c = true ∨
    128 ≤ c.toNat ∧ ∃ text, rendering c = some text ∧ ∃ shown ∈ text.toList, keeps shown = true

/-- The runs of kept characters between the separators of a spelling, also those that are empty. -/
def runs (spelling : List Char) : List (List Char) :=
  spelling.splitOnP fun c => !keeps c

/-- The words of a spelling: its runs that are not empty, in lower case. -/
def words (spelling : List Char) : List (List Char) :=
  ((runs spelling).filter fun run => run ≠ []).map (List.map Char.toLower)

section Characters

variable {c : Char}

/-- What holds of the first 128 characters holds of every character in ASCII. -/
theorem of_ascii (holds : Char → Prop) (all : ∀ code < 128, holds (Char.ofNat code))
    (ascii : c.toNat < 128) : holds c := by
  rw [← Char.ofNat_toNat c]
  exact all c.toNat ascii

/-- The characters of words are in ASCII. -/
theorem ascii_of_isWordChar (word : IsWordChar c) : c.toNat < 128 := by
  simp only [IsWordChar, Char.le_def, UInt32.le_iff_toNat_le] at word
  have last_letter : 'z'.val.toNat = 122 := rfl
  have last_digit : '9'.val.toNat = 57 := rfl
  have code : c.toNat = c.val.toNat := rfl
  omega

/-- The characters that are kept are in ASCII. -/
theorem ascii_of_keeps (kept : keeps c = true) : c.toNat < 128 := by
  have ranges : ((decide (c.val ≥ 'A'.val ∧ c.val ≤ 'Z'.val) ||
      c.val ≥ 'a'.val && c.val ≤ 'z'.val) || c.val ≥ '0'.val && c.val ≤ '9'.val) = true := kept
  simp only [Bool.or_eq_true, Bool.and_eq_true, decide_eq_true_eq, ge_iff_le,
    UInt32.le_iff_toNat_le] at ranges
  have last_capital : 'Z'.val.toNat = 90 := rfl
  have last_letter : 'z'.val.toNat = 122 := rfl
  have last_digit : '9'.val.toNat = 57 := rfl
  have code : c.toNat = c.val.toNat := rfl
  omega

/-- The characters of words are kept. -/
theorem keeps_of_isWordChar (word : IsWordChar c) : keeps c = true :=
  of_ascii (fun c => IsWordChar c → keeps c = true) (by decide +kernel)
    (ascii_of_isWordChar word) word

/-- The characters of words are in lower case. -/
theorem toLower_of_isWordChar (word : IsWordChar c) : c.toLower = c :=
  of_ascii (fun c => IsWordChar c → c.toLower = c) (by decide +kernel)
    (ascii_of_isWordChar word) word

/-- A character that is kept belongs to a word once it is in lower case. -/
theorem isWordChar_toLower (kept : keeps c = true) : IsWordChar c.toLower :=
  of_ascii (fun c => keeps c = true → IsWordChar c.toLower) (by decide +kernel)
    (ascii_of_keeps kept) kept

end Characters

section Words

variable {c : Char} {spelling front back gap first run : List Char} {rest : List (List Char)}

/-- A separator ends the runs before it. -/
theorem runs_append_cons (front back : List Char) (separates : keeps c = false) :
    runs (front ++ c :: back) = runs front ++ runs back :=
  List.splitOnP_append_cons front back (by simpa using separates)

/-- A separator in front of a spelling leaves an empty run before the others. -/
theorem runs_cons_of_separator (spelling : List Char) (separates : keeps c = false) :
    runs (c :: spelling) = [] :: runs spelling :=
  runs_append_cons [] spelling separates

/-- A kept character belongs to the first run of what follows. -/
theorem runs_cons_of_kept (kept : keeps c = true) (following : runs spelling = first :: rest) :
    runs (c :: spelling) = (c :: first) :: rest := by
  rw [runs] at following ⊢
  rw [List.splitOnP_cons_eq_if_modifyHead, kept, following]
  rfl

/-- A spelling has a first run, if only an empty one. -/
theorem runs_eq_cons (spelling : List Char) : ∃ first rest, runs spelling = first :: rest :=
  List.exists_cons_of_ne_nil (List.splitOnP_ne_nil _ spelling)

/-- There are kept characters only in a run. -/
theorem keeps_of_mem_runs (there : run ∈ runs spelling) : ∀ c ∈ run, keeps c = true := by
  induction spelling generalizing run with
  | nil =>
    have empty : run = [] := List.mem_singleton.mp there
    simp [empty]
  | cons c spelling ih =>
    cases kept : keeps c with
    | false =>
      rw [runs_cons_of_separator spelling kept] at there
      rcases List.mem_cons.mp there with rfl | later
      · simp
      · exact ih later
    | true =>
      obtain ⟨first, rest, following⟩ := runs_eq_cons spelling
      rw [runs_cons_of_kept kept following] at there
      rw [following] at ih
      rcases List.mem_cons.mp there with rfl | later
      · exact List.forall_mem_cons.mpr ⟨kept, ih List.mem_cons_self⟩
      · exact ih (List.mem_cons_of_mem _ later)

/-- The words of a spelling are words of a slug. -/
theorem isWord_of_mem_words (there : run ∈ words spelling) : IsWord run := by
  obtain ⟨own, among, rfl⟩ := List.mem_map.mp there
  obtain ⟨inside, some_run⟩ := List.mem_filter.mp among
  refine ⟨by simpa using some_run, ?_⟩
  intro lower shown
  obtain ⟨c, present, rfl⟩ := List.mem_map.mp shown
  exact isWordChar_toLower (keeps_of_mem_runs inside c present)

/-- A separator parts the words on its two sides. -/
theorem words_append_cons (front back : List Char) (separates : keeps c = false) :
    words (front ++ c :: back) = words front ++ words back := by
  rw [words, runs_append_cons front back separates, List.filter_append, List.map_append]
  rfl

/-- A separator in front of a spelling does not change its words. -/
theorem words_cons_of_separator (spelling : List Char) (separates : keeps c = false) :
    words (c :: spelling) = words spelling :=
  words_append_cons [] spelling separates

/-- Separators before the first word do not matter. -/
theorem words_gap_append (all : ∀ c ∈ gap, keeps c = false) : words (gap ++ back) = words back := by
  induction gap with
  | nil => rfl
  | cons c gap ih =>
    rw [List.cons_append, words_cons_of_separator _ (all c List.mem_cons_self)]
    exact ih fun c there => all c (List.mem_cons_of_mem _ there)

/-- It does not matter which separators stand between two texts, as long as there is one. -/
theorem words_append_gap_append (some_gap : gap ≠ []) (all : ∀ c ∈ gap, keeps c = false) :
    words (front ++ (gap ++ back)) = words front ++ words back := by
  obtain ⟨c, others, rfl⟩ := List.exists_cons_of_ne_nil some_gap
  rw [List.cons_append, words_append_cons _ _ (all c List.mem_cons_self),
    words_gap_append fun c there => all c (List.mem_cons_of_mem _ there)]

/-- Separators behind the last word do not matter. -/
theorem words_append_gap (all : ∀ c ∈ gap, keeps c = false) :
    words (front ++ gap) = words front := by
  by_cases some_gap : gap = []
  · rw [some_gap, List.append_nil]
  · have behind : words (front ++ (gap ++ [])) = words front ++ words [] :=
      words_append_gap_append some_gap all
    rwa [List.append_nil, show words [] = [] from rfl, List.append_nil] at behind

/-- There are no words where nothing is kept. -/
theorem words_eq_nil : words spelling = [] ↔ ∀ c ∈ spelling, keeps c = false := by
  induction spelling with
  | nil => simp [words, runs]
  | cons c spelling ih =>
    cases kept : keeps c with
    | false =>
      rw [words_cons_of_separator spelling kept, ih, List.forall_mem_cons, and_iff_right kept]
    | true =>
      obtain ⟨first, rest, following⟩ := runs_eq_cons spelling
      simp [words, runs_cons_of_kept kept following, kept]

/-- A word is its only word. -/
theorem words_of_isWord (word : IsWord run) : words run = [run] := by
  have whole : runs run = [run] :=
    List.splitOnP_eq_singleton fun c there => by simp [keeps_of_isWordChar (word.2 c there)]
  have lower : run.map Char.toLower = run := by
    conv_rhs => rw [← List.map_id run]
    exact List.map_congr_left fun c there => toLower_of_isWordChar (word.2 c there)
  simp [words, whole, word.1, lower]

/-- The words of some runs with a hyphen in front of each. -/
def hyphened (runs : List (List Char)) : List Char :=
  ((runs.filter fun run => run ≠ []).map (List.map Char.toLower)).flatMap ('-' :: ·)

/-- What follows a kept character begins in the same word, and what follows a separator with a new
one. -/
theorem join_eq (following : runs spelling = first :: rest) :
    join false spelling = first.map Char.toLower ++ hyphened rest ∧
      join true spelling = hyphened (first :: rest) := by
  induction spelling generalizing first rest with
  | nil =>
    cases following
    exact ⟨rfl, rfl⟩
  | cons c spelling ih =>
    obtain ⟨next, others, later⟩ := runs_eq_cons spelling
    obtain ⟨attached, detached⟩ := ih later
    cases kept : keeps c with
    | false =>
      rw [runs_cons_of_separator spelling kept, later] at following
      cases following
      simp [join, kept, detached, hyphened]
    | true =>
      rw [runs_cons_of_kept kept later] at following
      cases following
      simp [join, kept, attached, hyphened]

/-- The slug of a spelling consists of its words. -/
theorem ofSpelling_eq (spelling : List Char) :
    ofSpelling spelling = ['-'].intercalate (words spelling) := by
  induction spelling with
  | nil => rfl
  | cons c spelling ih =>
    cases kept : keeps c with
    | false =>
      rw [words_cons_of_separator spelling kept, ← ih]
      simp [ofSpelling, kept]
    | true =>
      obtain ⟨first, rest, following⟩ := runs_eq_cons spelling
      have begun : words (c :: spelling) = (c :: first).map Char.toLower ::
          (rest.filter fun run => run ≠ []).map (List.map Char.toLower) := by
        simp [words, runs_cons_of_kept kept following]
      rw [begun, Parts.intercalate_cons]
      simp [ofSpelling, join, kept, (join_eq following).1, hyphened]

/-- The characters that are kept are those of the slug without its hyphens. -/
theorem filter_join (gap : Bool) (spelling : List Char) :
    (join gap spelling).filter (· ≠ '-') = (spelling.filter keeps).map Char.toLower := by
  induction spelling generalizing gap with
  | nil => cases gap <;> rfl
  | cons c spelling ih =>
    cases kept : keeps c with
    | false => simpa [join, kept] using ih true
    | true =>
      have no_hyphen : c.toLower ≠ '-' := by
        intro same
        have shown := isWordChar_toLower kept
        rw [same] at shown
        exact absurd shown (by decide)
      cases gap <;> simpa [join, kept, no_hyphen] using ih false

/-- But for the hyphens a slug is made of the characters that are kept, in lower case. -/
theorem filter_ofSpelling (spelling : List Char) :
    (ofSpelling spelling).filter (· ≠ '-') = (spelling.filter keeps).map Char.toLower := by
  induction spelling with
  | nil => rfl
  | cons c spelling ih =>
    cases kept : keeps c with
    | false => simpa [ofSpelling, kept] using ih
    | true => simpa [ofSpelling, kept] using filter_join false (c :: spelling)

/-- Words joined by hyphens have these words. -/
theorem words_intercalate {all : List (List Char)} (each : ∀ word ∈ all, IsWord word) :
    words (['-'].intercalate all) = all := by
  induction all with
  | nil => rfl
  | cons word others ih =>
    obtain ⟨own, of_others⟩ := List.forall_mem_cons.mp each
    cases others with
    | nil => simpa using words_of_isWord own
    | cons next others =>
      rw [List.intercalate_cons_cons, List.append_assoc, List.singleton_append,
        words_append_cons _ _ (by decide), words_of_isWord own, ih of_others]
      rfl

/-- Words joined by hyphens begin and end as words do. -/
theorem ends_intercalate {all : List (List Char)} (each : ∀ word ∈ all, IsWord word)
    (some_words : all ≠ []) : ∃ first last, (['-'].intercalate all).head? = some first ∧
      (['-'].intercalate all).getLast? = some last ∧ IsWordChar first ∧ IsWordChar last := by
  induction all with
  | nil => exact absurd rfl some_words
  | cons word others ih =>
    obtain ⟨⟨some_run, shown⟩, of_others⟩ := List.forall_mem_cons.mp each
    have begins := List.head?_eq_some_head some_run
    have first_shown := shown _ (List.head_mem some_run)
    cases others with
    | nil =>
      have ends := List.getLast?_eq_some_getLast some_run
      have last_shown := shown _ (List.getLast_mem some_run)
      exact ⟨_, _, by simpa using begins, by simpa using ends, first_shown, last_shown⟩
    | cons next others =>
      obtain ⟨-, last, -, ends, -, last_shown⟩ := ih of_others (List.cons_ne_nil _ _)
      refine ⟨_, last, ?_, ?_, first_shown, last_shown⟩
      · rw [List.intercalate_cons_cons, List.append_assoc, List.head?_append, begins]
        rfl
      · rw [List.intercalate_cons_cons, List.getLast?_append, ends]
        rfl

/-- Words joined by hyphens are in ASCII. -/
theorem ascii_intercalate {all : List (List Char)} (each : ∀ word ∈ all, IsWord word) :
    ∀ c ∈ ['-'].intercalate all, c.toNat < 128 := by
  induction all with
  | nil => simp
  | cons word others ih =>
    obtain ⟨own, of_others⟩ := List.forall_mem_cons.mp each
    have word_ascii : ∀ c ∈ word, c.toNat < 128 := fun c there =>
      ascii_of_isWordChar (own.2 c there)
    cases others with
    | nil => simpa using word_ascii
    | cons next others =>
      rw [List.intercalate_cons_cons]
      intro c there
      rcases List.mem_append.mp there with front | later
      · rcases List.mem_append.mp front with inside | hyphen
        · exact word_ascii c inside
        · rw [List.mem_singleton.mp hyphen]
          decide
      · exact ih of_others c later

end Words

/-- The ASCII spelling of a text. -/
def spelling (rendering : Char → Option String) (text : String) : List Char :=
  text.toList.flatMap (spellBy rendering)

section Spelling

variable {rendering : Char → Option String} {c : Char} {text gap : String}

/-- Two texts are spelled one after the other. -/
@[simp]
theorem spelling_append (first second : String) :
    spelling rendering (first ++ second) =
      spelling rendering first ++ spelling rendering second := by
  simp [spelling]

/-- A text in ASCII is its own spelling. -/
theorem spelling_of_ascii (ascii : ∀ c ∈ text.toList, c.toNat < 128) :
    spelling rendering text = text.toList := by
  unfold spelling
  generalize text.toList = chars at ascii
  induction chars with
  | nil => rfl
  | cons c chars ih =>
    obtain ⟨own, others⟩ := List.forall_mem_cons.mp ascii
    rw [List.flatMap_cons, ih others, spellBy, if_pos own, List.singleton_append]

/-- Separators in ASCII are spelled as separators. -/
theorem IsGap.spelling (separates : IsGap gap) : spelling rendering gap = gap.toList :=
  spelling_of_ascii fun c there => (separates c there).1

/-- In the spelling of a character there is something to keep just if the character shows it. -/
theorem exists_mem_spellBy : (∃ d ∈ spellBy rendering c, keeps d = true) ↔ Shows rendering c := by
  unfold spellBy Shows
  by_cases ascii : c.toNat < 128
  · simp [ascii, Nat.not_le_of_lt ascii]
  · have outside : keeps c ≠ true := fun kept => ascii (ascii_of_keeps kept)
    cases rendered : rendering c with
    | none => simp [ascii, outside, show keeps '-' = false from rfl]
    | some text => simp [ascii, outside, Nat.le_of_not_lt ascii]

end Spelling

end Slug

/-- The slug of a title, when characters outside ASCII are rendered as given. -/
def slugifyBy (rendering : Char → Option String) (title : String) : String :=
  String.ofList (Slug.ofSpelling (Slug.spelling rendering title))

/-- Slugs are made with the table of transliterations. -/
theorem slugify_eq : slugify = slugifyBy Transliteration.ascii? :=
  rfl

section Slugs

open Slug

variable {rendering : Char → Option String} {title slug gap : String}

/-- The slug of a title consists of its words. -/
theorem slugifyBy_eq (rendering : Char → Option String) (title : String) :
    slugifyBy rendering title =
      "-".intercalate ((words (spelling rendering title)).map String.ofList) := by
  rw [← String.toList_inj, slugifyBy, ofSpelling_eq, String.toList_ofList,
    String.toList_intercalate]
  simp [Function.comp_def]

/-- The slug depends on nothing but the words. -/
theorem slugifyBy_congr {other : String}
    (same : words (spelling rendering title) = words (spelling rendering other)) :
    slugifyBy rendering title = slugifyBy rendering other := by
  rw [slugifyBy_eq, slugifyBy_eq, same]

/-- Every slug has the form of a slug. -/
theorem isCanonical_slugifyBy (rendering : Char → Option String) (title : String) :
    IsCanonical (slugifyBy rendering title) := by
  refine ⟨_, ?_, slugifyBy_eq rendering title⟩
  intro word there
  obtain ⟨run, among, rfl⟩ := List.mem_map.mp there
  rw [String.toList_ofList]
  exact isWord_of_mem_words among

/-- A text that has the form of a slug is its own slug. -/
theorem slugifyBy_of_isCanonical (canonical : IsCanonical slug) :
    slugifyBy rendering slug = slug := by
  obtain ⟨all, each, rfl⟩ := canonical
  have chars : ("-".intercalate all).toList = ['-'].intercalate (all.map String.toList) :=
    String.toList_intercalate
  have each_run : ∀ run ∈ all.map String.toList, IsWord run := by simpa using each
  have own_spelling : spelling rendering ("-".intercalate all) = ("-".intercalate all).toList :=
    spelling_of_ascii (chars ▸ ascii_intercalate each_run)
  rw [slugifyBy_eq, own_spelling, chars, words_intercalate each_run]
  simp [Function.comp_def]

/-- There is no hyphen at either end of a text that has the form of a slug. -/
theorem ends_of_isCanonical (canonical : IsCanonical slug) :
    slug.toList.head? ≠ some '-' ∧ slug.toList.getLast? ≠ some '-' := by
  obtain ⟨all, each, rfl⟩ := canonical
  have chars : ("-".intercalate all).toList = ['-'].intercalate (all.map String.toList) :=
    String.toList_intercalate
  have each_run : ∀ run ∈ all.map String.toList, IsWord run := by simpa using each
  rw [chars]
  by_cases some_words : all = []
  · simp [some_words]
  · obtain ⟨first, last, begins, ends, first_shown, last_shown⟩ :=
      ends_intercalate each_run (by simpa using some_words)
    have no_word : ¬ IsWordChar '-' := by decide
    rw [begins, ends]
    refine ⟨?_, ?_⟩
    · rintro ⟨⟩
      exact no_word first_shown
    · rintro ⟨⟩
      exact no_word last_shown

/-- Separators in front of a title do not change its slug. -/
theorem slugifyBy_gap_append (separates : IsGap gap) :
    slugifyBy rendering (gap ++ title) = slugifyBy rendering title := by
  apply slugifyBy_congr
  rw [spelling_append, separates.spelling]
  exact words_gap_append fun c there => (separates c there).2

/-- Separators behind a title do not change its slug. -/
theorem slugifyBy_append_gap (separates : IsGap gap) :
    slugifyBy rendering (title ++ gap) = slugifyBy rendering title := by
  apply slugifyBy_congr
  rw [spelling_append, separates.spelling]
  exact words_append_gap fun c there => (separates c there).2

/-- Any separators do between two texts. -/
theorem slugifyBy_append_gap_append {other : String} (front back : String) (some_gap : gap ≠ "")
    (separates : IsGap gap) (some_other : other ≠ "") (other_separates : IsGap other) :
    slugifyBy rendering (front ++ gap ++ back) = slugifyBy rendering (front ++ other ++ back) := by
  apply slugifyBy_congr
  simp only [spelling_append, separates.spelling, other_separates.spelling, List.append_assoc]
  rw [words_append_gap_append (by simpa using some_gap) fun c there => (separates c there).2,
    words_append_gap_append (by simpa using some_other) fun c there => (other_separates c there).2]

/-- A title has no slug just if none of its characters shows a letter or a digit. -/
theorem slugifyBy_eq_empty :
    slugifyBy rendering title = "" ↔ ¬ ∃ c ∈ title.toList, Shows rendering c := by
  have no_words : slugifyBy rendering title = "" ↔ words (spelling rendering title) = [] := by
    rw [← String.toList_inj, slugifyBy, ofSpelling_eq, String.toList_ofList]
    constructor
    · intro nothing
      by_contra some_words
      obtain ⟨first, -, begins, -⟩ :=
        ends_intercalate (fun _ there => isWord_of_mem_words there) some_words
      rw [nothing] at begins
      cases begins
    · intro nothing
      rw [nothing]
      rfl
  rw [no_words, words_eq_nil]
  simp only [spelling, List.mem_flatMap, ← exists_mem_spellBy]
  constructor
  · rintro bare ⟨c, there, shown, inside, kept⟩
    rw [bare shown ⟨c, there, inside⟩] at kept
    cases kept
  · rintro bare shown ⟨c, there, inside⟩
    exact Bool.eq_false_iff.mpr fun kept => bare ⟨c, there, shown, inside, kept⟩

end Slugs

end Gazette
