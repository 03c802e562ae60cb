import Mathlib.Data.List.Dedup
import Gazette.Proofs.Storage.Links
import Gazette.Proofs.Storage.Queries

/-!
# What the statements of a listing give

Joined with its tags, an article comes up once for each of them that is asked for.  Nevertheless the
count, the page of ids, the articles and their tags are those of the tables: repetitions are dropped,
every row goes with exactly one author or tag, and the order is that of the ids.
-/

set_option autoImplicit false

namespace Gazette

open Tables

namespace Statement
section Lists

variable {α : Type} [BEq α] [LawfulBEq α]

/-- Of values that are the same as others up to repetitions there are as many. -/
theorem length_eraseDups {values different : List α} (distinct : different.Nodup)
    (same : ∀ value, value ∈ values ↔ value ∈ different) :
    values.eraseDups.length = different.length := by
  refine ((List.perm_ext_iff_of_nodup (nodup_eraseDups values) distinct).mpr ?_).length_eq
  intro value
  rw [List.mem_eraseDups, same]

/-- Values in descending order with repetitions, which are dropped, are those in descending order
without. -/
theorem eraseDups_of_descending {number : α → Int} {values different : List α}
    (weak : values.Pairwise fun first second => number second ≤ number first)
    (strict : different.Pairwise fun first second => number second < number first)
    (same : ∀ value, value ∈ values ↔ value ∈ different) : values.eraseDups = different := by
  have apart : (different.map number).Nodup :=
    List.pairwise_map.mpr (strict.imp fun less => (Int.ne_of_lt less).symm)
  have distinct : different.Nodup := .of_map _ apart
  refine List.Perm.eq_of_pairwise ?_ (weak.sublist (eraseDups_sublist values))
    (strict.imp Int.le_of_lt) ?_
  · intro first second there also_there less more
    rw [List.mem_eraseDups, same] at there
    exact List.inj_on_of_nodup_map apart there also_there (Int.le_antisymm more less)
  · refine (List.perm_ext_iff_of_nodup (nodup_eraseDups values) distinct).mpr ?_
    intro value
    rw [List.mem_eraseDups, same]

end Lists

section Meaning

variable {tables : Tables} {criteria : ArticleCriteria} {row : ArticleRow} {link : LinkRow}
  {tag : TagRow} {scope longer : Scope} {more : List Cell}

/-- Nothing but the value itself is found equal to a value that is there. -/
theorem matching_of_ne_null {left right : Cell} (there : right ≠ .null) :
    matching left right = decide (left = right) := by
  unfold matching
  by_cases same : left = right
  · simp [same, there]
  · simp [same]

/-- Nothing but the number itself is found equal to a number. -/
theorem matching_integer (id : Int64) (other : Cell) :
    matching (.integer id) other = decide (.integer id = other) := by
  unfold matching
  simp

/-- A value is found equal to one of some parameters that are there. -/
theorem any_matching {parameters : List Cell} (there : .null ∉ parameters) (value : Cell) :
    parameters.any (matching value) = decide (value ∈ parameters) := by
  induction parameters with
  | nil => rfl
  | cons parameter parameters ih =>
    rw [List.mem_cons, not_or] at there
    rw [List.any_cons, matching_of_ne_null (Ne.symm there.1), ih there.2]
    simp

/-- A value is found equal to one of some texts if it is one of them. -/
theorem any_matching_text (value : Cell) (names : List String) :
    (names.map Cell.text).any (matching value) = decide (value ∈ names.map Cell.text) :=
  any_matching (by simp) value

/-- A value is found equal to one of some numbers if it is one of them. -/
theorem any_matching_integer (value : Cell) (ids : List Int64) :
    (ids.map Cell.integer).any (matching value) = decide (value ∈ ids.map Cell.integer) :=
  any_matching (by simp) value

/-- Of a list of conditions the first ones take the first parameters. -/
theorem Condition.allHold_append (scope : Scope) (first second : List Condition)
    (parameters : List Cell) :
    allHold scope (first ++ second) parameters =
      (allHold scope first parameters &&
        allHold scope second (parameters.drop (first.map Condition.arity).sum)) := by
  induction first generalizing parameters with
  | nil => simp [allHold]
  | cons condition first ih =>
    rw [List.cons_append, allHold, allHold, ih, List.map_cons, List.sum_cons, List.drop_drop,
      Bool.and_assoc]

/-- Extending joined rows by some tables and then by others. -/
theorem Join.extendAll_append (first second : List Join) (scope : Scope) :
    extendAll tables (first ++ second) scope =
      (extendAll tables first scope).flatMap (extendAll tables second) := by
  induction first generalizing scope with
  | nil => rw [extendAll, List.flatMap_singleton, List.nil_append]
  | cons join first ih =>
    rw [List.cons_append, extendAll, extendAll, List.flatMap_assoc, funext ih]

/-- The rows that go with others, given which ones do. -/
theorem Join.extend_eq {α : Type} {join : Join} {rows : List α} {record : α → Row}
    {goes : α → Bool} (all : tables.records join.table = rows.map record)
    (same : ∀ row, matching (Scope.value (scope ++ [(join.name, record row)]) join.own)
      (Scope.value (scope ++ [(join.name, record row)]) join.other) = goes row) :
    join.extend tables scope =
      (rows.filter goes).map fun row => scope ++ [(join.name, record row)] := by
  have matched : (fun longer : Scope => matching (longer.value join.own) (longer.value join.other)) ∘
      ((fun row => scope ++ [(join.name, row)]) ∘ record) = goes := funext same
  rw [Join.extend, all, List.map_map, List.filter_map, matched]
  rfl

/-- An article with its links. -/
theorem extend_links :
    Join.extend ⟨.articleTags, "ats", ⟨"ats", "article_id"⟩, ⟨"a", "id"⟩⟩ tables [("a", row.record)] =
      (tables.links.filter fun link => link.articleId = .integer row.id).map fun link =>
        [("a", row.record), ("ats", link.record)] :=
  Join.extend_eq rfl fun _ => matching_of_ne_null nofun

/-- A link of an article with its tags. -/
theorem extend_tags :
    Join.extend ⟨.tags, "t", ⟨"t", "id"⟩, ⟨"ats", "tag_id"⟩⟩ tables
        [("a", row.record), ("ats", link.record)] =
      (tables.tags.filter fun tag => .integer tag.id = link.tagId).map fun tag =>
        [("a", row.record), ("ats", link.record), ("t", tag.columns)] :=
  Join.extend_eq rfl fun tag => matching_integer tag.id link.tagId

/-- Whether an article has been joined with nothing yet, or with one of its tags. -/
def Plain (row : ArticleRow) (scope : Scope) : Prop :=
  scope = [("a", row.record)] ∨
    ∃ link tag, scope = [("a", row.record), ("ats", LinkRow.record link), ("t", TagRow.columns tag)]

/-- An article, with or without a tag, and its authors. -/
theorem extend_authors (plain : Plain row scope) :
    Join.extend ⟨.accounts, "au", ⟨"au", "id"⟩, ⟨"a", "author_id"⟩⟩ tables scope =
      (tables.accounts.filter fun account => .integer account.id = row.authorId).map fun account =>
        scope ++ [("au", account.columns)] := by
  rcases plain with rfl | ⟨link, tag, rfl⟩
  · exact Join.extend_eq rfl fun account => matching_integer account.id row.authorId
  · exact Join.extend_eq rfl fun account => matching_integer account.id row.authorId

/-- An article is joined with each of its tags if a listing asks for tags. -/
theorem mem_tagJoins :
    scope ∈ Join.extendAll tables (tagJoins criteria) [("a", row.record)] ↔
      criteria.tags = [] ∧ scope = [("a", row.record)] ∨
        criteria.tags ≠ [] ∧ ∃ link ∈ tables.links, link.articleId = .integer row.id ∧
          ∃ tag ∈ tables.tags, link.tagId = .integer tag.id ∧
            scope = [("a", row.record), ("ats", link.record), ("t", tag.columns)] := by
  by_cases untagged : criteria.tags = []
  · simp [tagJoins, untagged, Join.extendAll]
  · rw [tagJoins, if_neg untagged]
    simp only [Join.extendAll, List.flatMap_singleton', extend_links, List.flatMap_map, extend_tags,
      List.mem_flatMap, List.mem_filter, List.mem_map, decide_eq_true_eq, untagged, false_and,
      false_or, true_and, not_false_iff, ne_eq]
    constructor
    · rintro ⟨link, ⟨there, of_article⟩, tag, ⟨present, of_link⟩, rfl⟩
      exact ⟨link, there, of_article, tag, present, of_link.symm, rfl⟩
    · rintro ⟨link, there, of_article, tag, present, of_link, rfl⟩
      exact ⟨link, ⟨there, of_article⟩, tag, ⟨present, of_link.symm⟩, rfl⟩

/-- Joining an article with its tags leaves its own columns in front. -/
theorem plain_of_tagJoins
    (joined : scope ∈ Join.extendAll tables (tagJoins criteria) [("a", row.record)]) :
    Plain row scope := by
  rcases mem_tagJoins.mp joined with ⟨-, rfl⟩ | ⟨-, link, -, -, tag, -, -, rfl⟩
  · exact .inl rfl
  · exact .inr ⟨link, tag, rfl⟩

/-- The conditions of a listing on joined rows. -/
theorem allHold_filterSource (criteria : ArticleCriteria) (scope : Scope) (more : List Cell) :
    Condition.allHold scope (filterSource criteria).conditions
        ((articleFilter criteria).parameters.map Cell.text ++ more) =
      (decide (scope.value ⟨"a", "deleted_at_unix"⟩ = .integer 0) &&
        ((decide (criteria.tags = []) ||
            decide (scope.value ⟨"t", "name"⟩ ∈ criteria.tags.map Cell.text)) &&
          criteria.author.all fun author => scope.value ⟨"au", "username"⟩ = .text author)) := by
  have parameters : (articleFilter criteria).parameters.map Cell.text ++ more =
      criteria.tags.map Cell.text ++ (criteria.author.toList.map Cell.text ++ more) := by
    have same : (articleFilter criteria).parameters = criteria.tags ++ criteria.author.toList := rfl
    rw [same, List.map_append, List.append_assoc]
  have arity : ((tagConditions criteria).map Condition.arity).sum = criteria.tags.length := by
    unfold tagConditions
    by_cases untagged : criteria.tags = [] <;> simp [untagged, Condition.arity]
  have tagged : Condition.allHold scope (tagConditions criteria)
      (criteria.tags.map Cell.text ++ (criteria.author.toList.map Cell.text ++ more)) =
        (decide (criteria.tags = []) ||
          decide (scope.value ⟨"t", "name"⟩ ∈ criteria.tags.map Cell.text)) := by
    unfold tagConditions
    by_cases untagged : criteria.tags = []
    · simp [untagged, Condition.allHold]
    · rw [if_neg untagged, Condition.allHold, Condition.allHold, Bool.and_true, Condition.holds,
        Condition.arity, List.take_left' (List.length_map _), any_matching_text]
      simp [untagged]
  have authored : Condition.allHold scope (authorConditions criteria)
      (criteria.author.toList.map Cell.text ++ more) =
        criteria.author.all fun author => scope.value ⟨"au", "username"⟩ = .text author := by
    unfold authorConditions
    cases criteria.author with
    | none => rfl
    | some author =>
      have own : Condition.holds [.text author] scope (.equal ⟨"au", "username"⟩) =
          decide (scope.value ⟨"au", "username"⟩ = .text author) := by
        rw [Condition.holds, List.any_cons, List.any_nil, Bool.or_false, matching_of_ne_null]
        exact nofun
      simp only [Option.isSome_some, if_true, Condition.allHold, Bool.and_true]
      exact own
  have active : matching (scope.value ⟨"a", "deleted_at_unix"⟩) (.integer 0) =
      decide (scope.value ⟨"a", "deleted_at_unix"⟩ = .integer 0) := matching_of_ne_null nofun
  rw [parameters, filterSource, Condition.allHold, Condition.holds, active, Condition.arity,
    List.drop_zero, Condition.allHold_append, arity, tagged, List.drop_left' (List.length_map _),
    authored]

/-- An article is joined with its author if a listing asks for one. -/
theorem mem_authorJoins (plain : Plain row scope) :
    longer ∈ Join.extendAll tables (authorJoins criteria) scope ↔
      criteria.author = none ∧ longer = scope ∨
        criteria.author ≠ none ∧ ∃ account ∈ tables.accounts, row.authorId = .integer account.id ∧
          longer = scope ++ [("au", account.columns)] := by
  unfold authorJoins
  cases criteria.author with
  | none => simp [Join.extendAll]
  | some author =>
    simp [Join.extendAll, extend_authors plain, and_assoc, eq_comm]

/-- What joining an article with its author leaves as it is. -/
theorem value_of_authorJoins (plain : Plain row scope)
    (extended : longer ∈ Join.extendAll tables (authorJoins criteria) scope) :
    longer.value ⟨"a", "id"⟩ = .integer row.id ∧
      longer.value ⟨"a", "deleted_at_unix"⟩ = row.deletedAtUnix ∧
      longer.value ⟨"t", "name"⟩ = scope.value ⟨"t", "name"⟩ := by
  rcases (mem_authorJoins plain).mp extended with ⟨-, rfl⟩ | ⟨-, account, -, -, rfl⟩ <;>
    rcases plain with rfl | ⟨link, tag, rfl⟩ <;> exact ⟨rfl, rfl, rfl⟩

/-- The username of a joined author is the one in the author's row. -/
theorem value_of_author (plain : Plain row scope) (account : AccountRow) :
    Scope.value (scope ++ [("au", account.columns)]) ⟨"au", "username"⟩ = account.username := by
  rcases plain with rfl | ⟨link, tag, rfl⟩ <;> rfl

/-- What it takes for an article to pass the filter of a listing. -/
theorem passes_iff :
    tables.passes criteria row ↔ row.deletedAtUnix = .integer 0 ∧
      (criteria.tags = [] ∨ ∃ link ∈ tables.links, link.articleId = .integer row.id ∧
        ∃ tag ∈ tables.tags, link.tagId = .integer tag.id ∧
          tag.name ∈ criteria.tags.map Cell.text) ∧
      ∀ author, criteria.author = some author → ∃ account ∈ tables.accounts,
        row.authorId = .integer account.id ∧ account.username = .text author := by
  have among (value : Cell) :
      value ∈ criteria.tags.map Cell.text ↔ ∃ name ∈ criteria.tags, value = .text name := by
    simp [eq_comm]
  simp only [passes, carriesAny, ArticleRow.isActive, among]
  cases criteria.author with
  | none => simp
  | some author => simp [writtenBy, and_assoc]

/-- An article is among the joined rows if and only if it passes the filter. -/
theorem exists_scope_iff (criteria : ArticleCriteria) (row : ArticleRow) (more : List Cell) :
    (∃ longer ∈ Join.extendAll tables (filterSource criteria).joins [("a", row.record)],
      Condition.allHold longer (filterSource criteria).conditions
        ((articleFilter criteria).parameters.map Cell.text ++ more)) ↔
      tables.passes criteria row := by
  have joins : (filterSource criteria).joins = tagJoins criteria ++ authorJoins criteria := rfl
  simp only [joins, Join.extendAll_append, List.mem_flatMap, allHold_filterSource, passes_iff,
    Bool.and_eq_true, Bool.or_eq_true, decide_eq_true_eq, Option.all_eq_true]
  constructor
  · rintro ⟨longer, ⟨scope, joined, extended⟩, active, tagged, authored⟩
    have plain := plain_of_tagJoins joined
    obtain ⟨-, same_stone, same_tag⟩ := value_of_authorJoins plain extended
    refine ⟨same_stone.symm.trans active, ?_, ?_⟩
    · rcases mem_tagJoins.mp joined with
        ⟨untagged, -⟩ | ⟨asked, link, there, of_article, tag, present, of_link, rfl⟩
      · exact .inl untagged
      · have among := tagged.resolve_left asked
        rw [same_tag] at among
        exact .inr ⟨link, there, of_article, tag, present, of_link, among⟩
    · intro author asked
      rcases (mem_authorJoins plain).mp extended with ⟨nobody, -⟩ | ⟨-, account, there, own, rfl⟩
      · cases asked.symm.trans nobody
      · exact ⟨account, there, own, (value_of_author plain account).symm.trans (authored author asked)⟩
  · rintro ⟨active, tagged, authored⟩
    obtain ⟨scope, joined, named⟩ : ∃ scope ∈ Join.extendAll tables (tagJoins criteria)
        [("a", row.record)], criteria.tags = [] ∨
          scope.value ⟨"t", "name"⟩ ∈ criteria.tags.map Cell.text := by
      by_cases untagged : criteria.tags = []
      · exact ⟨_, mem_tagJoins.mpr (.inl ⟨untagged, rfl⟩), .inl untagged⟩
      · obtain ⟨link, there, of_article, tag, present, of_link, among⟩ :=
          tagged.resolve_left untagged
        exact ⟨_, mem_tagJoins.mpr
          (.inr ⟨untagged, link, there, of_article, tag, present, of_link, rfl⟩), .inr among⟩
    have plain := plain_of_tagJoins joined
    obtain ⟨longer, extended, own⟩ : ∃ longer ∈ Join.extendAll tables (authorJoins criteria) scope,
        ∀ author, criteria.author = some author →
          longer.value ⟨"au", "username"⟩ = .text author := by
      cases wanted : criteria.author with
      | none => exact ⟨scope, (mem_authorJoins plain).mpr (.inl ⟨wanted, rfl⟩), nofun⟩
      | some author =>
        obtain ⟨account, there, by_author, username⟩ := authored author wanted
        refine ⟨_, (mem_authorJoins plain).mpr (.inr ⟨by simp [wanted], account, there, by_author, rfl⟩),
          ?_⟩
        rintro other ⟨⟩
        exact (value_of_author plain account).trans username
    obtain ⟨-, same_stone, same_tag⟩ := value_of_authorJoins plain extended
    exact ⟨longer, ⟨scope, joined, extended⟩, same_stone.trans active, same_tag ▸ named, own⟩

/-- The ids of a listing are those of the articles that pass its filter. -/
theorem mem_matchingIds {id : Int64} :
    id ∈ tables.matchingIds criteria ↔
      ∃ row ∈ tables.articles, tables.passes criteria row ∧ row.id = id := by
  simp [matchingIds, and_assoc]

/-- The ids of a listing are in descending order. -/
theorem descending_matchingIds (sane : tables.Integrity) (criteria : ArticleCriteria) :
    (tables.matchingIds criteria).Pairwise fun newer older => older < newer :=
  List.pairwise_reverse.mpr (sane.articleIds.ascending.sublist (List.filter_sublist.map _))

/-- The ids among the joined rows of a listing are those of the articles that pass its filter. -/
theorem mem_scopes_filterSource {value : Cell} (criteria : ArticleCriteria) (more : List Cell) :
    value ∈ ((filterSource criteria).scopes tables
        ((articleFilter criteria).parameters.map Cell.text ++ more)).map
          (fun scope => scope.value ⟨"a", "id"⟩) ↔
      value ∈ (tables.matchingIds criteria).map Cell.integer := by
  have start (row : ArticleRow) {longer : Scope} (joined : longer ∈
      Join.extendAll tables (filterSource criteria).joins [("a", row.record)]) :
      longer.value ⟨"a", "id"⟩ = .integer row.id := by
    have joins : (filterSource criteria).joins = tagJoins criteria ++ authorJoins criteria := rfl
    rw [joins, Join.extendAll_append, List.mem_flatMap] at joined
    obtain ⟨scope, plain, extended⟩ := joined
    exact (value_of_authorJoins (plain_of_tagJoins plain) extended).1
  have records : tables.records (filterSource criteria).table =
      tables.articles.map ArticleRow.record := rfl
  have name : (filterSource criteria).name = "a" := rfl
  simp only [Source.scopes, records, name, List.mem_map, List.mem_filter, List.mem_flatMap,
    mem_matchingIds]
  constructor
  · rintro ⟨longer, ⟨⟨_, ⟨row, there, rfl⟩, joined⟩, holds⟩, rfl⟩
    have passes := (exists_scope_iff criteria row more).mp ⟨longer, joined, holds⟩
    exact ⟨row.id, ⟨row, there, passes, rfl⟩, (start row joined).symm⟩
  · rintro ⟨_, ⟨row, there, passes, rfl⟩, rfl⟩
    obtain ⟨longer, joined, holds⟩ := (exists_scope_iff criteria row more).mpr passes
    exact ⟨longer, ⟨⟨_, ⟨row, there, rfl⟩, joined⟩, holds⟩, start row joined⟩

/-- The count of a listing is that of the articles that pass its filter. -/
theorem number_listCount (sane : tables.Integrity) (criteria : ArticleCriteria) :
    (listCount criteria).number tables ((articleFilter criteria).parameters.map Cell.text) =
      (tables.matchingIds criteria).length := by
  have distinct : ((tables.matchingIds criteria).map Cell.integer).Nodup :=
    List.Nodup.map (fun _ _ => Cell.integer.inj)
      ((descending_matchingIds sane criteria).imp fun less => (Int64.ne_of_lt less).symm)
  have same (value : Cell) := @mem_scopes_filterSource tables value criteria []
  simp only [List.append_nil] at same
  rw [← List.length_map (f := Cell.integer), Count.number]
  apply length_eraseDups distinct
  intro value
  rw [List.mem_filter]
  constructor
  · rintro ⟨there, -⟩
    exact (same value).mp there
  · intro there
    refine ⟨(same value).mpr there, ?_⟩
    obtain ⟨id, -, rfl⟩ := List.mem_map.mp there
    rfl

/-- The number in a row of one column. -/
def leading : List Cell → Int
  | [.integer value] => value.toInt
  | _ => 0

/-- Joined rows are sorted by their key. -/
theorem Selection.pairwise_mergeSort (selection : Selection) (scopes : List Scope) :
    (scopes.mergeSort selection.precedes).Pairwise fun first second => selection.precedes first second := by
  apply List.pairwise_mergeSort
  · intro first second third
    unfold Selection.precedes
    split <;> simp only [decide_eq_true_eq] <;> omega
  · intro first second
    unfold Selection.precedes
    split <;> simp only [Bool.or_eq_true, decide_eq_true_eq] <;> omega

/-- The ids of a listing before a page of them is cut out. -/
theorem eraseDups_listIds (sane : tables.Integrity) (criteria : ArticleCriteria) (more : List Cell) :
    ((((filterSource criteria).scopes tables
        ((articleFilter criteria).parameters.map Cell.text ++ more)).mergeSort
          (listIds criteria).precedes).map fun scope =>
            (listIds criteria).columns.map scope.value).eraseDups =
      (tables.matchingIds criteria).map fun id => [Cell.integer id] := by
  have key (scope : Scope) :
      (listIds criteria).key scope = leading ((listIds criteria).columns.map scope.value) := by
    have columns : (listIds criteria).columns.map scope.value = [scope.value ⟨"a", "id"⟩] := rfl
    have order : (listIds criteria).order = ⟨"a", "id"⟩ := rfl
    rw [columns, Selection.key, order]
    cases scope.value ⟨"a", "id"⟩ <;> rfl
  have strict : ((tables.matchingIds criteria).map fun id => [Cell.integer id]).Pairwise
      fun newer older => leading older < leading newer :=
    List.pairwise_map.mpr ((descending_matchingIds sane criteria).imp Int64.lt_iff_toInt_lt.mp)
  refine eraseDups_of_descending ?_ strict ?_
  · refine List.pairwise_map.mpr ((Selection.pairwise_mergeSort _ _).imp fun {first second} sorted => ?_)
    have less : (listIds criteria).key second ≤ (listIds criteria).key first := of_decide_eq_true sorted
    rw [← key, ← key]
    exact less
  · intro value
    have same (value : Cell) := @mem_scopes_filterSource tables value criteria more
    simp only [List.mem_map, List.mem_mergeSort] at same ⊢
    constructor
    · rintro ⟨scope, there, rfl⟩
      obtain ⟨id, listed, own⟩ := (same _).mp ⟨scope, there, rfl⟩
      exact ⟨id, listed, congrArg (fun cell => [cell]) own⟩
    · rintro ⟨id, listed, rfl⟩
      obtain ⟨scope, there, own⟩ := (same _).mpr ⟨id, listed, rfl⟩
      exact ⟨scope, there, congrArg (fun cell => [cell]) own⟩

/-- A page of the ids of a listing. -/
theorem rows_listIds (sane : tables.Integrity) (criteria : ArticleCriteria) (limit offset : Int64) :
    (listIds criteria).rows tables ((articleFilter criteria).parameters.map Cell.text ++
        [.integer limit, .integer offset]) =
      (((tables.matchingIds criteria).drop offset.toInt.toNat).take limit.toInt.toNat).map
        fun id => [.integer id] := by
  have arity : (filterSource criteria).arity = ((articleFilter criteria).parameters.map Cell.text).length := by
    unfold Source.arity filterSource tagConditions authorConditions articleFilter
    cases criteria.author <;> by_cases untagged : criteria.tags = [] <;> 
      simp [untagged, Condition.arity]
  have all := eraseDups_listIds sane criteria [.integer limit, .integer offset]
  have source : (listIds criteria).source = filterSource criteria := rfl
  have distinct : (listIds criteria).distinct = true := rfl
  have paged : (listIds criteria).paged = true := rfl
  rw [Selection.rows, source, distinct, paged, arity, List.drop_left]
  simp only [if_true]
  rw [all, List.map_take, List.map_drop]

/-- Joined rows that may stand in front of each other have the same key. -/
theorem Selection.key_eq (selection : Selection) {first second : Scope}
    (less : selection.precedes first second) (more : selection.precedes second first) :
    selection.key first = selection.key second := by
  unfold Selection.precedes at less more
  cases down : selection.descending <;> simp only [down, if_true, Bool.false_eq_true, if_false,
    decide_eq_true_eq] at less more <;> omega

/-- Joined rows in ascending order of their keys are sorted by leaving them or by turning them
around. -/
theorem Selection.mergeSort_ascending (selection : Selection) {scopes : List Scope}
    (ascending : scopes.Pairwise fun first second => selection.key first < selection.key second) :
    scopes.mergeSort selection.precedes =
      if selection.descending then scopes.reverse else scopes := by
  have apart : (scopes.map selection.key).Nodup :=
    List.pairwise_map.mpr (ascending.imp Int.ne_of_lt)
  refine List.Perm.eq_of_pairwise ?_ (selection.pairwise_mergeSort scopes) ?_ ?_
  · intro first second there also_there less more
    rw [List.mem_mergeSort] at there
    refine List.inj_on_of_nodup_map apart there ?_ (selection.key_eq less more)
    split at also_there
    · exact List.mem_reverse.mp also_there
    · exact also_there
  · unfold Selection.precedes
    split
    · exact List.pairwise_reverse.mpr (ascending.imp fun less => decide_eq_true (Int.le_of_lt less))
    · exact ascending.imp fun less => decide_eq_true (Int.le_of_lt less)
  · refine (List.mergeSort_perm _ _).trans ?_
    split
    · exact (List.reverse_perm scopes).symm
    · exact .refl scopes

/-- At most one of the rows with different ids is the one that a value refers to. -/
theorem filter_reference {α : Type} {id : α → Int64} {rows : List α}
    (distinct : (rows.map id).Nodup) (reference : Cell) :
    rows.filter (fun row => .integer (id row) = reference) =
      (rows.find? fun row => .integer (id row) = reference).toList := by
  rw [← List.head?_filter]
  have apart := distinct.sublist
    ((List.filter_sublist (p := fun row => decide (Cell.integer (id row) = reference))).map id)
  have all : ∀ row ∈ rows.filter fun row => .integer (id row) = reference,
      Cell.integer (id row) = reference :=
    fun row there => of_decide_eq_true (List.mem_filter.mp there).2
  generalize (rows.filter fun row => .integer (id row) = reference) = chosen at apart all ⊢
  match chosen with
  | [] => rfl
  | [row] => rfl
  | first :: second :: rest =>
    have same := (all first (by simp)).trans (all second (by simp)).symm
    simp [Cell.integer.inj same] at apart

/-- The joined rows of a selection in which each row goes with at most one other, and in which only the
former is looked at by the conditions. -/
theorem scopes_eq_filterMap {α β : Type} {source : Source} {rows : List α} {record : α → Row}
    {name : String} {other : β → Row} {partner : α → Option β} {wanted : α → Bool}
    {parameters : List Cell} (records : tables.records source.table = rows.map record)
    (joined : ∀ row, Join.extendAll tables source.joins [(source.name, record row)] =
      (partner row).toList.map fun value => [(source.name, record row), (name, other value)])
    (holds : ∀ row value, Condition.allHold [(source.name, record row), (name, other value)]
      source.conditions parameters = wanted row) :
    source.scopes tables parameters = (rows.filter wanted).filterMap fun row =>
      (partner row).map fun value => [(source.name, record row), (name, other value)] := by
  rw [Source.scopes, records]
  clear records
  induction rows with
  | nil => rfl
  | cons row rows ih =>
    rw [List.map_cons, List.flatMap_cons, List.filter_append, ih, joined, List.filter_cons]
    cases own : partner row with
    | none => cases wanted row <;> simp [own]
    | some value =>
      rw [Option.toList_some, List.map_singleton, List.filter_singleton, holds]
      cases wanted row <;> simp [own]

/-- Each article goes with its author. -/
theorem extendAll_author (sane : tables.Integrity) (row : ArticleRow) :
    Join.extendAll tables [⟨.accounts, "u", ⟨"u", "id"⟩, ⟨"a", "author_id"⟩⟩] [("a", row.record)] =
      (tables.account? row.authorId).toList.map fun account =>
        [("a", row.record), ("u", account.columns)] := by
  have joined : Join.extend ⟨.accounts, "u", ⟨"u", "id"⟩, ⟨"a", "author_id"⟩⟩ tables
      [("a", row.record)] = (tables.accounts.filter fun account =>
        .integer account.id = row.authorId).map fun account =>
          [("a", row.record), ("u", account.columns)] :=
    Join.extend_eq rfl fun account => matching_integer account.id row.authorId
  rw [Join.extendAll, joined, filter_reference sane.accountIds.distinct, account?]
  exact List.flatMap_singleton' _

/-- Each link goes with its tag. -/
theorem extendAll_tag (sane : tables.Integrity) (link : LinkRow) :
    Join.extendAll tables [⟨.tags, "t", ⟨"t", "id"⟩, ⟨"ats", "tag_id"⟩⟩] [("ats", link.record)] =
      (tables.tag? link.tagId).toList.map fun tag =>
        [("ats", link.record), ("t", tag.columns)] := by
  have joined : Join.extend ⟨.tags, "t", ⟨"t", "id"⟩, ⟨"ats", "tag_id"⟩⟩ tables
      [("ats", link.record)] = (tables.tags.filter fun tag => .integer tag.id = link.tagId).map
        fun tag => [("ats", link.record), ("t", tag.columns)] :=
    Join.extend_eq rfl fun tag => matching_integer tag.id link.tagId
  rw [Join.extendAll, joined, filter_reference sane.tagIds.distinct, tag?]
  exact List.flatMap_singleton' _

/-- One condition on ids, which are all parameters that there are. -/
theorem allHold_among (scope : Scope) (column : Reference) (ids : List Int64) :
    Condition.allHold scope [.among column ids.length] (ids.map Cell.integer) =
      decide (scope.value column ∈ ids.map Cell.integer) := by
  rw [Condition.allHold, Condition.allHold, Bool.and_true, Condition.holds, Condition.arity,
    List.take_of_length_le (by rw [List.length_map]), any_matching_integer]

/-- The rows that a selection of articles by their ids gives. -/
theorem rows_articlesByIds (sane : tables.Integrity) (ids : List Int64) :
    (articlesByIds ids.length).rows tables (ids.map Cell.integer) =
      ((tables.articles.filter fun row => row.id ∈ ids).reverse.filterMap tables.articleColumns?).map
        fun row => row.map Column.cell := by
  have scopes : (articlesByIds ids.length).source.scopes tables (ids.map Cell.integer) =
      (tables.articles.filter fun row => row.id ∈ ids).filterMap fun row =>
        (tables.account? row.authorId).map fun account =>
          [("a", row.record), ("u", account.columns)] := by
    refine scopes_eq_filterMap rfl (extendAll_author sane) fun row account => ?_
    refine (allHold_among _ _ ids).trans (decide_eq_decide.mpr ?_)
    exact List.mem_map_of_injective fun _ _ => Cell.integer.inj
  have ascending : ((tables.articles.filter fun row => row.id ∈ ids).filterMap fun row =>
      (tables.account? row.authorId).map fun account =>
        [("a", row.record), ("u", account.columns)]).Pairwise fun first second =>
          (articlesByIds ids.length).key first < (articlesByIds ids.length).key second := by
    rw [List.pairwise_filterMap]
    refine ((List.pairwise_map.mp sane.articleIds.ascending).sublist List.filter_sublist).imp ?_
    intro row other less first own second others
    obtain ⟨account, -, rfl⟩ := Option.map_eq_some_iff.mp own
    obtain ⟨account, -, rfl⟩ := Option.map_eq_some_iff.mp others
    exact Int64.lt_iff_toInt_lt.mp less
  have distinct : (articlesByIds ids.length).distinct = false := rfl
  have paged : (articlesByIds ids.length).paged = false := rfl
  have descending : (articlesByIds ids.length).descending = true := rfl
  rw [Selection.rows, scopes, Selection.mergeSort_ascending _ ascending, distinct, paged, descending]
  simp only [if_true, Bool.false_eq_true, if_false]
  rw [← List.filterMap_reverse, List.map_filterMap, List.map_filterMap]
  apply List.filterMap_congr
  intro row _
  rw [articleColumns?, Option.map_map, Option.map_map]
  rfl

/-- The rows that a selection of tags by the ids of their articles gives. -/
theorem rows_tagsByArticleIds (sane : tables.Integrity) (linked : tables.Linked) (ids : List Int64) :
    (tagsByArticleIds ids.length).rows tables (ids.map Cell.integer) =
      (tables.linkRows ids).map fun row => row.map Column.cell := by
  have scopes : (tagsByArticleIds ids.length).source.scopes tables (ids.map Cell.integer) =
      (tables.links.filter fun link => link.articleId ∈ ids.map Cell.integer).filterMap fun link =>
        (tables.tag? link.tagId).map fun tag => [("ats", link.record), ("t", tag.columns)] :=
    scopes_eq_filterMap rfl (extendAll_tag sane) fun link tag => allHold_among _ _ ids
  have ascending : ((tables.links.filter fun link => link.articleId ∈ ids.map Cell.integer).filterMap
      fun link => (tables.tag? link.tagId).map fun tag =>
        [("ats", link.record), ("t", tag.columns)]).Pairwise fun first second =>
          (tagsByArticleIds ids.length).key first < (tagsByArticleIds ids.length).key second := by
    rw [List.pairwise_filterMap]
    refine ((List.pairwise_map.mp linked.ascending).sublist List.filter_sublist).imp ?_
    intro link other less first own second others
    obtain ⟨tag, -, rfl⟩ := Option.map_eq_some_iff.mp own
    obtain ⟨tag, -, rfl⟩ := Option.map_eq_some_iff.mp others
    exact Int64.lt_iff_toInt_lt.mp less
  have distinct : (tagsByArticleIds ids.length).distinct = false := rfl
  have paged : (tagsByArticleIds ids.length).paged = false := rfl
  have descending : (tagsByArticleIds ids.length).descending = false := rfl
  rw [Selection.rows, scopes, Selection.mergeSort_ascending _ ascending, distinct, paged, descending]
  simp only [Bool.false_eq_true, if_false]
  rw [linkRows, List.map_filterMap, List.map_filterMap]
  apply List.filterMap_congr
  intro link _
  rw [linkColumns?, Option.map_map, Option.map_map]
  rfl

end Meaning

end Statement
end Gazette
