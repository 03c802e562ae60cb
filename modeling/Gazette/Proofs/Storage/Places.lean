import Mathlib.Data.List.Basic
import Mathlib.Data.List.Nodup
import Gazette.Proofs.Text.Parts
import Gazette.Storage.Statement

/-!
# Places for parameters

The values of a statement are bound to its places in their order, or by the numbers of the places.
No value is part of a text, so a place is where a question mark stands.  A filtered listing has a
place for each of its tags and then one for its author, and a page two more for its limit and its
offset.  The places of an update are numbered in the order of its columns.
-/

set_option autoImplicit false

namespace Gazette.Statement

/-- A place for a parameter: what leads to it from the place before, and its number, if any. -/
structure Place where
  lead : String
  number : String
  deriving DecidableEq

/-- The number of places in a text. -/
def arity (text : String) : Nat :=
  text.toList.count '?'

namespace Place

/-- The places in front of some parts of a text, and what leads to the first one. -/
def following (lead : List Char) : List (List Char) → List Place
  | [] => []
  | part :: parts =>
    ⟨String.ofList lead, String.ofList (part.takeWhile Char.isDigit)⟩ ::
      following (part.dropWhile Char.isDigit) parts

/-- The places in a text, in their order. -/
def all (text : String) : List Place :=
  match Parts.all '?' text.toList with
  | [] => []
  | lead :: parts => following lead parts

/-- A place as it is written. -/
def text (place : Place) : List Char :=
  place.lead.toList ++ '?' :: place.number.toList

/-- Whether a text may stand between two places, so that neither is misread. -/
def Separates (text : String) : Prop :=
  '?' ∉ text.toList ∧ ∀ c ∈ text.toList.head?, c.isDigit = false

/-- Whether a place is read as it is written. -/
structure Plain (place : Place) : Prop where
  lead : Separates place.lead
  number : ∀ c ∈ place.number.toList, c.isDigit = true

/-- There is a place for each part of a text that follows a question mark. -/
theorem length_following (lead : List Char) (parts : List (List Char)) :
    (following lead parts).length = parts.length := by
  induction parts generalizing lead with
  | nil => rfl
  | cons part parts ih => rw [following, List.length_cons, List.length_cons, ih]

/-- A text has as many places as it takes values. -/
theorem length_all (text : String) : (all text).length = arity text := by
  have count := Parts.length_all '?' text.toList
  unfold all arity
  cases cut : Parts.all '?' text.toList with
  | nil =>
    rw [cut] at count
    cases count
  | cons lead parts =>
    rw [cut, List.length_cons, Nat.add_right_cancel_iff] at count
    rw [← count]
    exact length_following lead parts

/-- The digits of a number are followed by what is no digit. -/
theorem cut_number {digits rest : List Char} (number : ∀ c ∈ digits, c.isDigit = true)
    (ends : ∀ c ∈ rest.head?, c.isDigit = false) :
    (digits ++ rest).takeWhile Char.isDigit = digits ∧
      (digits ++ rest).dropWhile Char.isDigit = rest := by
  have stops : rest.takeWhile Char.isDigit = [] ∧ rest.dropWhile Char.isDigit = rest := by
    cases rest with
    | nil => exact ⟨rfl, rfl⟩
    | cons c rest =>
      have other := ends c rfl
      simp [other]
  rw [List.takeWhile_append_of_pos number, List.dropWhile_append_of_pos number, stops.1, stops.2,
    List.append_nil]
  exact ⟨rfl, rfl⟩

/-- Places that are written one after the other are cut behind their question marks. -/
theorem parts_written {places : List Place} (plain : ∀ place ∈ places, place.Plain)
    {digits : List Char} (number : ∀ c ∈ digits, c.isDigit = true) :
    ∃ part parts, Parts.all '?' (digits ++ places.flatMap text) = part :: parts ∧
      part.takeWhile Char.isDigit = digits ∧
      following (part.dropWhile Char.isDigit) parts = places := by
  have unmarked : '?' ∉ digits := fun there => by simpa using number '?' there
  -- the digits in front are the number of the place before, whose mark has been cut away
  induction places generalizing digits with
  | nil =>
    obtain ⟨taken, dropped⟩ : digits.takeWhile Char.isDigit = digits ∧
        digits.dropWhile Char.isDigit = [] := by
      simpa using cut_number number (nofun : ∀ c ∈ ([] : List Char).head?, c.isDigit = false)
    refine ⟨digits, [], ?_, taken, ?_⟩
    · rw [List.flatMap_nil, List.append_nil]
      exact Parts.all_of_free unmarked
    · rw [dropped]
      rfl
  | cons place places ih =>
    obtain ⟨own, others⟩ := List.forall_mem_cons.mp plain
    obtain ⟨part, parts, cut, taken, followed⟩ :=
      ih others own.number fun there => by simpa using own.number '?' there
    obtain ⟨first_taken, first_dropped⟩ := cut_number number own.lead.2
    refine ⟨digits ++ place.lead.toList, part :: parts, ?_, first_taken, ?_⟩
    · have written : digits ++ (place :: places).flatMap text =
          (digits ++ place.lead.toList) ++ '?' :: (place.number.toList ++ places.flatMap text) := by
        simp [text]
      have free : '?' ∉ digits ++ place.lead.toList := by simp [unmarked, own.lead.1]
      rw [written, Parts.all_append_cons free, cut]
    · rw [first_dropped, following, taken, followed, String.ofList_toList, String.ofList_toList]

/-- The places of a text that is written as such. -/
theorem all_of_written {places : List Place} {written : String}
    (same : written.toList = places.flatMap text) (plain : ∀ place ∈ places, place.Plain) :
    all written = places := by
  obtain ⟨part, parts, cut, taken, followed⟩ := parts_written plain (List.forall_mem_nil _)
  rw [List.nil_append] at cut
  have whole : part.dropWhile Char.isDigit = part := by
    have put_together : part.takeWhile Char.isDigit ++ part.dropWhile Char.isDigit = part :=
      List.takeWhile_append_dropWhile
    rwa [taken, List.nil_append] at put_together
  unfold all
  rw [same, cut]
  dsimp only
  rw [← whole, followed]

end Place

/-- A text takes a value for each question mark in it. -/
theorem arity_ofList (characters : List Char) :
    arity (String.ofList characters) = characters.count '?' := by
  rw [arity, String.toList_ofList]

/-- Two texts take as many values together as each on its own. -/
theorem arity_append (front back : String) : arity (front ++ back) = arity front + arity back := by
  rw [arity, String.toList_append, List.count_append]
  rfl

/-- Texts that take no values take none together. -/
theorem arity_append_eq_zero {front back : String} (first : arity front = 0)
    (second : arity back = 0) : arity (front ++ back) = 0 := by
  rw [arity_append, first, second]

/-- A list of placeholders takes as many values as it was made for. -/
theorem arity_placeholders (count : Nat) : arity (placeholders count) = count := by
  cases count with
  | zero => rfl
  | succ count =>
    rw [arity, placeholders, String.toList_intercalate, List.map_replicate, List.replicate_succ,
      Parts.intercalate_cons]
    induction count with
    | zero => rfl
    | succ count ih => simpa [List.replicate_succ] using ih

/-- Around placeholders nothing else takes values. -/
theorem arity_around {before behind : String} (none_before : arity before = 0)
    (none_behind : arity behind = 0) (count : Nat) :
    arity (before ++ placeholders count ++ behind) = count := by
  rw [arity_append, arity_append, arity_placeholders, none_before, none_behind, Nat.zero_add,
    Nat.add_zero]

/-- The selection of articles takes a value for each id. -/
theorem arity_selectArticlesByIds (count : Nat) : arity (selectArticlesByIds count) = count := by
  have columns : arity articleColumns = 0 := arity_append_eq_zero (arity_ofList _) (arity_ofList _)
  have select : arity ("SELECT " ++ articleColumns) = 0 :=
    arity_append_eq_zero (arity_ofList _) columns
  unfold selectArticlesByIds
  exact arity_around
    (arity_append_eq_zero (arity_append_eq_zero select (arity_ofList _)) (arity_ofList _))
    (arity_ofList _) count

/-- The selection of tags takes a value for each id. -/
theorem arity_selectTagsByArticleIds (count : Nat) :
    arity (selectTagsByArticleIds count) = count := by
  unfold selectTagsByArticleIds
  exact arity_around (arity_append_eq_zero (arity_ofList _) (arity_ofList _)) (arity_ofList _) count

/-- The count of a listing takes the values of the filter. -/
theorem arity_countArticles (filter : String) : arity (countArticles filter) = arity filter := by
  have before : arity "SELECT COUNT(DISTINCT a.id) " = 0 := arity_ofList _
  unfold countArticles
  rw [arity_append, before, Nat.zero_add]

/-- The limit and the offset of a page follow the places of the filter. -/
theorem selectArticleIds_ends (filter : String) : ∃ front, arity front = arity filter ∧
    selectArticleIds filter = front ++ " LIMIT ? OFFSET ?" := by
  refine ⟨"SELECT DISTINCT a.id " ++ filter ++ " ORDER BY a.id DESC", ?_, ?_⟩
  · have before : arity "SELECT DISTINCT a.id " = 0 := arity_ofList _
    have behind : arity " ORDER BY a.id DESC" = 0 := arity_ofList _
    rw [arity_append, arity_append, before, behind, Nat.zero_add, Nat.add_zero]
  · unfold selectArticleIds
    simp [String.append_assoc]

/-- The selection of a listing takes the values of the filter, the limit and the offset. -/
theorem arity_selectArticleIds (filter : String) :
    arity (selectArticleIds filter) = arity filter + 2 := by
  obtain ⟨front, places, written⟩ := selectArticleIds_ends filter
  have last : arity " LIMIT ? OFFSET ?" = 2 := arity_ofList _
  rw [written, arity_append, places, last]

section Listings

/-- The text of a filter in front of all its places. -/
def filterFront (tagged authored : Bool) : String :=
  "FROM articles a" ++
    (if tagged then
      " JOIN article_tags ats ON ats.article_id = a.id JOIN tags t ON t.id = ats.tag_id" else "") ++
    (if authored then " JOIN accounts au ON au.id = a.author_id" else "") ++
    " WHERE a.deleted_at_unix = 0"

/-- The condition on some number of tags. -/
def tagText (count : Nat) : String :=
  if count = 0 then "" else " AND t.name IN (" ++ placeholders count ++ ")"

/-- The condition on the author, if there is one. -/
def authorText (authored : Bool) : String :=
  if authored then " AND au.username = ?" else ""

variable (criteria : ArticleCriteria)

/-- A filter is assembled from the number of its tags and from whether it has an author. -/
theorem articleFilter_text :
    (articleFilter criteria).text =
      filterFront (criteria.tags.length ≠ 0) criteria.author.isSome ++
        tagText criteria.tags.length ++ authorText criteria.author.isSome := by
  unfold articleFilter filterFront tagText authorText
  -- the texts around the placeholders are put together in front of them, and then behind them
  cases criteria.author <;> cases criteria.tags <;> simp [← String.append_assoc]
  simp [String.append_assoc]

/-- In front of the conditions on tags and author no value is taken. -/
theorem arity_filterFront (tagged authored : Bool) : arity (filterFront tagged authored) = 0 := by
  have table : arity "FROM articles a" = 0 := arity_ofList _
  have tags :
      arity " JOIN article_tags ats ON ats.article_id = a.id JOIN tags t ON t.id = ats.tag_id" = 0 :=
    arity_ofList _
  have author : arity " JOIN accounts au ON au.id = a.author_id" = 0 := arity_ofList _
  have condition : arity " WHERE a.deleted_at_unix = 0" = 0 := arity_ofList _
  have nothing : arity "" = 0 := rfl
  unfold filterFront
  cases tagged <;> cases authored <;>
    simp only [arity_append, table, tags, author, condition, nothing, if_true, if_false,
      Bool.false_eq_true]

/-- The condition on tags takes a value for each tag. -/
theorem arity_tagText (count : Nat) : arity (tagText count) = count := by
  unfold tagText
  by_cases none : count = 0
  · rw [if_pos none, none]
    rfl
  · rw [if_neg none]
    exact arity_around (arity_ofList _) (arity_ofList _) count

/-- The condition on the author takes one value. -/
theorem arity_authorText (authored : Bool) : arity (authorText authored) = authored.toNat := by
  cases authored
  · rfl
  · exact arity_ofList _

/-- How the values of a listing are bound to the places of its statements. -/
structure Aligned : Prop where
  parameters : (articleFilter criteria).parameters = criteria.tags ++ criteria.author.toList
  filter : arity (articleFilter criteria).text = (articleFilter criteria).parameters.length
  tags : criteria.tags ≠ [] → ∃ front back, arity front = 0 ∧
    (articleFilter criteria).text =
      front ++ (" AND t.name IN (" ++ placeholders criteria.tags.length ++ ")") ++ back
  author : criteria.author.isSome = true → ∃ front, arity front = criteria.tags.length ∧
    (articleFilter criteria).text = front ++ " AND au.username = ?"
  count : arity (countArticles (articleFilter criteria).text) =
    (articleFilter criteria).parameters.length
  ids : ∃ front, arity front = (articleFilter criteria).parameters.length ∧
    selectArticleIds (articleFilter criteria).text = front ++ " LIMIT ? OFFSET ?"
  page : arity (selectArticleIds (articleFilter criteria).text) =
    (articleFilter criteria).parameters.length + 2

/-- The values of a filter are the tags and then the author. -/
theorem articleFilter_parameters :
    (articleFilter criteria).parameters = criteria.tags ++ criteria.author.toList :=
  rfl

/-- A filter takes as many values as are bound to it. -/
theorem arity_articleFilter :
    arity (articleFilter criteria).text = (articleFilter criteria).parameters.length := by
  have author : criteria.author.toList.length = criteria.author.isSome.toNat := by
    cases criteria.author <;> rfl
  rw [articleFilter_parameters, List.length_append, author, articleFilter_text, arity_append,
    arity_append, arity_filterFront, arity_tagText, arity_authorText, Nat.zero_add]

/-- The values of every listing are bound to the places they are meant for. -/
theorem aligned : Aligned criteria where
  parameters := articleFilter_parameters criteria
  filter := arity_articleFilter criteria
  tags tagged := by
    refine ⟨filterFront (criteria.tags.length ≠ 0) criteria.author.isSome,
      authorText criteria.author.isSome, arity_filterFront _ _, ?_⟩
    rw [articleFilter_text, tagText, if_neg (mt List.length_eq_zero_iff.mp tagged)]
  author authored := by
    refine ⟨filterFront (criteria.tags.length ≠ 0) true ++ tagText criteria.tags.length, ?_, ?_⟩
    · rw [arity_append, arity_filterFront, arity_tagText, Nat.zero_add]
    · rw [articleFilter_text, authored, authorText, if_pos rfl]
  count := by rw [arity_countArticles, arity_articleFilter]
  ids := by
    rw [← arity_articleFilter]
    exact selectArticleIds_ends _
  page := by rw [arity_selectArticleIds, arity_articleFilter]

end Listings

section Updates

/-- The place of a column that an update sets, with the columns counted from zero. -/
def setPlace (set : String × Nat) : Place where
  lead := (if set.2 = 0 then "UPDATE accounts SET " else ", ") ++ set.1 ++ " = "
  number := toString (set.2 + 1)

/-- The places of an update in their order: the columns, then the stamp, and the email last. -/
def updatePlaces (columns : List String) : List Place :=
  (columns ++ ["updated_at"]).zipIdx.map setPlace ++
    [⟨" WHERE email = ", toString (columns.length + 2)⟩]

/-- A number is written with its decimal digits. -/
theorem toList_toString (n : Nat) : (toString n).toList = Nat.toDigits 10 n :=
  String.toList_ofList

/-- A number is written with digits only. -/
theorem isDigit_of_mem_toString {n : Nat} {c : Char} (there : c ∈ (toString n).toList) :
    c.isDigit = true :=
  Nat.isDigit_of_mem_toDigits (by decide) (by decide) (toList_toString n ▸ there)

/-- No two numbers are written alike. -/
theorem toString_injective : Function.Injective (toString : Nat → String) := by
  intro one other same
  have digits := congrArg (fun text : String => Nat.ofDigitChars 10 text.toList 0) same
  simpa only [toList_toString, Nat.ofDigitChars_ten_toDigits] using digits

variable {columns : List String}

/-- The place of a column without a question mark in its name is read as it is written. -/
theorem plain_setPlace {set : String × Nat} (unmarked : '?' ∉ set.1.toList) :
    (setPlace set).Plain := by
  refine ⟨?_, fun c there => isDigit_of_mem_toString there⟩
  unfold setPlace
  by_cases first : set.2 = 0 <;> simp [first, Place.Separates, unmarked]

/-- The places of an update are read as they are written, if no column has a question mark in its
name. -/
theorem plain_updatePlaces (unmarked : ∀ column ∈ columns, '?' ∉ column.toList) :
    ∀ place ∈ updatePlaces columns, place.Plain := by
  intro place there
  obtain there | there := List.mem_append.mp there
  · obtain ⟨set, numbered, rfl⟩ := List.mem_map.mp there
    apply plain_setPlace
    obtain inside | stamp := List.mem_append.mp (List.fst_mem_of_mem_zipIdx numbered)
    · exact unmarked _ inside
    · rw [List.mem_singleton.mp stamp]
      decide
  · rw [List.mem_singleton.mp there]
    exact ⟨by simp [Place.Separates], fun c there => isDigit_of_mem_toString there⟩

/-- A column that an update sets, as it is written. -/
def setText (set : String × Nat) : String :=
  set.1 ++ " = ?" ++ toString (set.2 + 1)

/-- The place of a column is written as what leads to it and the column itself. -/
theorem text_setPlace (set : String × Nat) :
    (setPlace set).text =
      (if set.2 = 0 then "UPDATE accounts SET " else ", ").toList ++ (setText set).toList := by
  simp [setPlace, setText, Place.text]

/-- What leads to a column is the beginning of the text or the comma in front of it. -/
theorem sets_written (first : String) (others : List String) :
    ("UPDATE accounts SET " ++ ", ".intercalate ((first :: others).zipIdx.map setText)).toList =
      ((first :: others).zipIdx.map setPlace).flatMap Place.text := by
  have behind : ∀ set ∈ others.zipIdx 1,
      ", ".toList ++ (setText set).toList = (setPlace set).text := by
    intro set numbered
    rw [text_setPlace, if_neg (Nat.one_le_iff_ne_zero.mp (List.le_snd_of_mem_zipIdx numbered))]
  rw [String.toList_append, String.toList_intercalate, List.zipIdx_cons, List.map_cons,
    List.map_cons, Parts.intercalate_cons, List.map_cons, List.flatMap_cons, text_setPlace,
    if_pos rfl, List.append_assoc, List.map_map, List.flatMap_map, List.flatMap_map]
  exact congrArg _ (congrArg _ (List.flatMap_congr behind))

/-- The stamp is written as the columns are. -/
theorem updateAccount_eq (columns : List String) :
    updateAccount columns =
      "UPDATE accounts SET " ++ ", ".intercalate ((columns ++ ["updated_at"]).zipIdx.map setText) ++
        " WHERE email = ?" ++ toString (columns.length + 2) := by
  have sets : (columns ++ ["updated_at"]).zipIdx.map setText =
      columns.zipIdx.map setText ++ ["updated_at = ?" ++ toString (columns.length + 1)] := by
    rw [List.zipIdx_append, List.map_append]
    simp [setText]
  rw [sets]
  rfl

/-- An update is written as its places one after the other. -/
theorem toList_updateAccount (columns : List String) :
    (updateAccount columns).toList = (updatePlaces columns).flatMap Place.text := by
  obtain ⟨first, others, all⟩ := List.exists_cons_of_ne_nil
    (List.append_ne_nil_of_right_ne_nil columns (List.cons_ne_nil "updated_at" []))
  rw [updateAccount_eq, updatePlaces, all, List.flatMap_append, ← sets_written]
  simp [Place.text]

/-- The places in the text of an update are the ones it was made of. -/
theorem all_updateAccount (unmarked : ∀ column ∈ columns, '?' ∉ column.toList) :
    Place.all (updateAccount columns) = updatePlaces columns :=
  Place.all_of_written (toList_updateAccount columns) (plain_updatePlaces unmarked)

/-- The places of an update are numbered in their order, from one on. -/
theorem numbers_updatePlaces (columns : List String) :
    (updatePlaces columns).map Place.number =
      (List.range' 1 (columns.length + 2)).map toString := by
  have counted : Place.number ∘ setPlace = (toString ∘ (· + 1)) ∘ Prod.snd := rfl
  have shifted : (List.range' 0 (columns.length + 1)).map (· + 1) =
      List.range' 1 (columns.length + 1) := by
    simp [List.range'_eq_map_range, Nat.add_comm]
  rw [updatePlaces, List.map_append, List.map_map, counted, ← List.map_map, List.zipIdx_map_snd,
    ← List.map_map, List.length_append, List.length_singleton, shifted,
    List.range'_1_concat (n := columns.length + 1), List.map_append, Nat.add_comm 1]
  rfl

/-- No two places of an update have the same number. -/
theorem nodup_numbers (columns : List String) :
    ((updatePlaces columns).map Place.number).Nodup := by
  rw [numbers_updatePlaces]
  exact (List.nodup_range' 1).map toString_injective

end Updates

/-- The texts of the statements of a listing depend on the number of tags and on whether there is an
author, and the places of every text go with the values that are bound to it: those of a listing by
their order, and those of an update by their numbers. -/
theorem texts_align_with_parameters :
    (∀ one other : ArticleCriteria, one.tags.length = other.tags.length →
      one.author.isSome = other.author.isSome →
        (articleFilter one).text = (articleFilter other).text ∧
        countArticles (articleFilter one).text = countArticles (articleFilter other).text ∧
        selectArticleIds (articleFilter one).text = selectArticleIds (articleFilter other).text) ∧
    (∀ criteria : ArticleCriteria, Aligned criteria) ∧
    (∀ count : Nat, arity (placeholders count) = count ∧
      arity (selectArticlesByIds count) = count ∧ arity (selectTagsByArticleIds count) = count) ∧
    ∀ columns : List String, (∀ column ∈ columns, '?' ∉ column.toList) →
      arity (updateAccount columns) = columns.length + 2 ∧
      Place.all (updateAccount columns) = updatePlaces columns ∧
      (updatePlaces columns).map Place.number =
        (List.range' 1 (columns.length + 2)).map toString ∧
      ((updatePlaces columns).map Place.number).Nodup := by
  refine ⟨fun one other tags author => ?_, aligned, fun count => ?_, fun columns unmarked => ?_⟩
  · have same : (articleFilter one).text = (articleFilter other).text := by
      rw [articleFilter_text, articleFilter_text, tags, author]
    exact ⟨same, congrArg countArticles same, congrArg selectArticleIds same⟩
  · exact ⟨arity_placeholders count, arity_selectArticlesByIds count,
      arity_selectTagsByArticleIds count⟩
  · have all := all_updateAccount unmarked
    refine ⟨?_, all, numbers_updatePlaces columns, nodup_numbers columns⟩
    rw [← Place.length_all, all]
    simp [updatePlaces]

/-- What is asked for may itself read as a part of a statement. -/
theorem texts_align_with_parameters_quoted :
    (articleFilter { tags := ["?", "') OR 1 = 1 --"], author := some "' LIMIT ?" }).text =
        (articleFilter { tags := ["go", "rust"], author := some "u" }).text ∧
      Place.all (updateAccount ["username", "bio"]) =
        [⟨"UPDATE accounts SET username = ", "1"⟩, ⟨", bio = ", "2"⟩, ⟨", updated_at = ", "3"⟩,
          ⟨" WHERE email = ", "4"⟩] := by
  obtain ⟨same, -, -, update⟩ := texts_align_with_parameters
  refine ⟨(same _ _ rfl rfl).1, ?_⟩
  rw [(update ["username", "bio"] (by decide)).2.1]
  decide +kernel

end Gazette.Statement
