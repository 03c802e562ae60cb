import Mathlib.Data.List.Basic
import Gazette.Proofs.Storage.Records
import Gazette.Storage.Statement

/-!
# What the statements of a listing mean

The texts of the statements of a listing join tables row by row, and of the joined rows those are
selected that meet all conditions, with parameters in the order in which they are asked for.  Only then
are repetitions dropped, and a page is cut out.  Here the statements are given as data, whose text is
the one that is assembled, and whose meaning is this.
-/

set_option autoImplicit false

namespace Gazette

open Tables

/-- The value of the column with a name. -/
def Row.value (row : Row) (name : String) : Cell :=
  ((row.find? fun column => column.name = name).map Column.cell).getD .null

/-- The columns of an article as it is stored. -/
def ArticleRow.record (row : ArticleRow) : Row :=
  [⟨"id", .integer row.id⟩, ⟨"slug", row.slug⟩, ⟨"title", row.title⟩, ⟨"body", row.body⟩,
    ⟨"author_id", row.authorId⟩, ⟨"created_at", row.createdAt⟩, ⟨"updated_at", row.updatedAt⟩,
    ⟨"deleted_at_unix", row.deletedAtUnix⟩]

/-- The columns of a link as it is stored, with the number of the row in front. -/
def LinkRow.record (row : LinkRow) : Row :=
  [⟨"rowid", .integer row.id⟩, ⟨"article_id", row.articleId⟩, ⟨"tag_id", row.tagId⟩]

/-- The columns of a comment as it is stored. -/
def CommentRow.record (row : CommentRow) : Row :=
  [⟨"id", .integer row.id⟩, ⟨"body", row.body⟩, ⟨"slug", row.slug⟩, ⟨"author_id", row.authorId⟩,
    ⟨"created_at", row.createdAt⟩, ⟨"updated_at", row.updatedAt⟩, ⟨"deleted_at", row.deletedAt⟩]

/-- The rows of a table. -/
def Tables.records (tables : Tables) : TableName → List Row
  | .accounts => tables.accounts.map AccountRow.columns
  | .articles => tables.articles.map ArticleRow.record
  | .tags => tables.tags.map TagRow.columns
  | .articleTags => tables.links.map LinkRow.record
  | .comments => tables.comments.map CommentRow.record

namespace Statement

/-- A column of a row that goes by a name. -/
structure Reference where
  source : String
  column : String
  deriving DecidableEq

/-- A reference as it is written. -/
def Reference.text (reference : Reference) : String :=
  reference.source ++ "." ++ reference.column

/-- Rows that have been joined, with the names that they go by. -/
abbrev Scope := List (String × Row)

/-- The value that a reference stands for. -/
def Scope.value (scope : Scope) (reference : Reference) : Cell :=
  ((scope.lookup reference.source).map fun row => row.value reference.column).getD .null

/-- Whether two values are found equal, which nothing is with a value that is missing. -/
def matching (left right : Cell) : Bool :=
  left = right && left ≠ .null

/-- A condition on joined rows. -/
inductive Condition where
  | zero (column : Reference)
  | equal (column : Reference)
  | among (column : Reference) (count : Nat)

namespace Condition

/-- A condition as it is written. -/
def text : Condition → String
  | zero column => column.text ++ " = 0"
  | equal column => column.text ++ " = ?"
  | among column count => column.text ++ " IN (" ++ placeholders count ++ ")"

/-- The number of parameters that a condition takes. -/
def arity : Condition → Nat
  | zero _ => 0
  | equal _ => 1
  | among _ count => count

/-- Whether a condition with its own parameters holds. -/
def holds (parameters : List Cell) (scope : Scope) : Condition → Bool
  | zero column => matching (scope.value column) (.integer 0)
  | equal column => parameters.any (matching (scope.value column))
  | among column _ => parameters.any (matching (scope.value column))

/-- Whether all conditions hold.  They take the parameters one after the other. -/
def allHold (scope : Scope) : List Condition → List Cell → Bool
  | [], _ => true
  | condition :: conditions, parameters =>
    condition.holds (parameters.take condition.arity) scope &&
      allHold scope conditions (parameters.drop condition.arity)

end Condition

/-- A table whose rows are joined to others where two columns are equal. -/
structure Join where
  table : TableName
  name : String
  own : Reference
  other : Reference

namespace Join

/-- A join as it is written. -/
def text (join : Join) : String :=
  " JOIN " ++ join.table.text ++ " " ++ join.name ++ " ON " ++ join.own.text ++ " = " ++
    join.other.text

/-- Joined rows, once for each row of the table that goes with them. -/
def extend (join : Join) (tables : Tables) (scope : Scope) : List Scope :=
  ((tables.records join.table).map fun row => scope ++ [(join.name, row)]).filter fun longer =>
    matching (longer.value join.own) (longer.value join.other)

/-- Joined rows, extended by several tables one after the other. -/
def extendAll (tables : Tables) : List Join → Scope → List Scope
  | [], scope => [scope]
  | join :: joins, scope => (join.extend tables scope).flatMap (extendAll tables joins)

end Join

/-- The rows that a statement selects from. -/
structure Source where
  table : TableName
  name : String
  joins : List Join
  conditions : List Condition

namespace Source

/-- The tables, joins and conditions of a source as they are written. -/
def text (source : Source) : String :=
  "FROM " ++ source.table.text ++ " " ++ source.name ++ String.join (source.joins.map Join.text) ++
    " WHERE " ++ " AND ".intercalate (source.conditions.map Condition.text)

/-- The number of parameters of all conditions. -/
def arity (source : Source) : Nat :=
  (source.conditions.map Condition.arity).sum

/-- The joined rows that meet the conditions. -/
def scopes (source : Source) (tables : Tables) (parameters : List Cell) : List Scope :=
  ((tables.records source.table).flatMap fun row =>
    Join.extendAll tables source.joins [(source.name, row)]).filter fun scope =>
      Condition.allHold scope source.conditions parameters

end Source

/-- A count of the different values of a column. -/
structure Count where
  column : Reference
  source : Source

namespace Count

/-- A count as it is written. -/
def text (count : Count) : String :=
  "SELECT COUNT(DISTINCT " ++ count.column.text ++ ") " ++ count.source.text

/-- The number that a count gives. -/
def number (count : Count) (tables : Tables) (parameters : List Cell) : Nat :=
  (((count.source.scopes tables parameters).map fun scope => scope.value count.column).filter
    fun value => value ≠ .null).eraseDups.length

end Count

/-- A selection of columns from joined rows in the order of a column of numbers. -/
structure Selection where
  distinct : Bool
  columns : List Reference
  source : Source
  order : Reference
  descending : Bool
  paged : Bool

namespace Selection

/-- A selection as it is written. -/
def text (selection : Selection) : String :=
  "SELECT " ++ (if selection.distinct then "DISTINCT " else "") ++
    ", ".intercalate (selection.columns.map Reference.text) ++ " " ++ selection.source.text ++
    " ORDER BY " ++ selection.order.text ++ (if selection.descending then " DESC" else "") ++
    if selection.paged then " LIMIT ? OFFSET ?" else ""

/-- The number by which joined rows are ordered. -/
def key (selection : Selection) (scope : Scope) : Int :=
  match scope.value selection.order with
  | .integer value => value.toInt
  | _ => 0

/-- Whether joined rows may stand in front of others. -/
def precedes (selection : Selection) (first second : Scope) : Bool :=
  if selection.descending then selection.key second ≤ selection.key first
  else selection.key first ≤ selection.key second

/-- The rows that a selection gives.  The limit and the offset are the last two parameters. -/
def rows (selection : Selection) (tables : Tables) (parameters : List Cell) : List (List Cell) :=
  let scopes := (selection.source.scopes tables parameters).mergeSort selection.precedes
  let all := scopes.map fun scope => selection.columns.map scope.value
  let different := if selection.distinct then all.eraseDups else all
  if selection.paged then
    match parameters.drop selection.source.arity with
    | [.integer limit, .integer offset] => (different.drop offset.toInt.toNat).take limit.toInt.toNat
    | _ => []
  else different

end Selection

/-- Whether a count with some text gives a number. -/
structure Count.Gives (count : Count) (text : String) (tables : Tables) (parameters : List Cell)
    (number : Nat) : Prop where
  text : count.text = text
  number : count.number tables parameters = number

/-- Whether a selection with some text gives some rows. -/
structure Selection.Gives (selection : Selection) (text : String) (tables : Tables)
    (parameters : List Cell) (rows : List (List Cell)) : Prop where
  text : selection.text = text
  rows : selection.rows tables parameters = rows

/-- The tables that a listing joins if it asks for tags. -/
def tagJoins (criteria : ArticleCriteria) : List Join :=
  if criteria.tags = [] then []
  else [⟨.articleTags, "ats", ⟨"ats", "article_id"⟩, ⟨"a", "id"⟩⟩,
    ⟨.tags, "t", ⟨"t", "id"⟩, ⟨"ats", "tag_id"⟩⟩]

/-- The condition of a listing that asks for tags. -/
def tagConditions (criteria : ArticleCriteria) : List Condition :=
  if criteria.tags = [] then [] else [.among ⟨"t", "name"⟩ criteria.tags.length]

/-- The table that a listing joins if it asks for an author. -/
def authorJoins (criteria : ArticleCriteria) : List Join :=
  if criteria.author.isSome then [⟨.accounts, "au", ⟨"au", "id"⟩, ⟨"a", "author_id"⟩⟩] else []

/-- The condition of a listing that asks for an author. -/
def authorConditions (criteria : ArticleCriteria) : List Condition :=
  if criteria.author.isSome then [.equal ⟨"au", "username"⟩] else []

/-- The rows that a listing selects from. -/
def filterSource (criteria : ArticleCriteria) : Source where
  table := .articles
  name := "a"
  joins := tagJoins criteria ++ authorJoins criteria
  conditions := .zero ⟨"a", "deleted_at_unix"⟩ ::
    (tagConditions criteria ++ authorConditions criteria)

/-- The count of the articles that a listing selects. -/
def listCount (criteria : ArticleCriteria) : Count :=
  ⟨⟨"a", "id"⟩, filterSource criteria⟩

/-- A page of the ids of the articles that a listing selects. -/
def listIds (criteria : ArticleCriteria) : Selection :=
  ⟨true, [⟨"a", "id"⟩], filterSource criteria, ⟨"a", "id"⟩, true, true⟩

/-- The articles with some ids, with their authors. -/
def articlesByIds (count : Nat) : Selection where
  distinct := false
  columns := [⟨"a", "id"⟩, ⟨"a", "slug"⟩, ⟨"a", "title"⟩, ⟨"a", "body"⟩, ⟨"a", "created_at"⟩,
    ⟨"a", "updated_at"⟩, ⟨"a", "deleted_at_unix"⟩, ⟨"u", "id"⟩, ⟨"u", "username"⟩, ⟨"u", "bio"⟩,
    ⟨"u", "image"⟩]
  source := ⟨.articles, "a", [⟨.accounts, "u", ⟨"u", "id"⟩, ⟨"a", "author_id"⟩⟩],
    [.among ⟨"a", "id"⟩ count]⟩
  order := ⟨"a", "id"⟩
  descending := true
  paged := false

/-- The tags of the articles with some ids. -/
def tagsByArticleIds (count : Nat) : Selection where
  distinct := false
  columns := [⟨"ats", "article_id"⟩, ⟨"t", "id"⟩, ⟨"t", "name"⟩]
  source := ⟨.articleTags, "ats", [⟨.tags, "t", ⟨"t", "id"⟩, ⟨"ats", "tag_id"⟩⟩],
    [.among ⟨"ats", "article_id"⟩ count]⟩
  order := ⟨"ats", "rowid"⟩
  descending := false
  paged := false

section Texts

variable (criteria : ArticleCriteria) (count : Nat)

/-- The source of a listing is written as its filter. -/
theorem filterSource_text : (filterSource criteria).text = (articleFilter criteria).text := by
  unfold filterSource tagJoins tagConditions authorJoins authorConditions articleFilter Source.text
  cases criteria.author <;> by_cases untagged : criteria.tags = [] <;>
    simp [untagged, Condition.text, Reference.text, TableName.text, Join.text]

/-- The count of a listing is written as its statement. -/
theorem listCount_text : (listCount criteria).text = countArticles (articleFilter criteria).text := by
  rw [← filterSource_text]
  unfold listCount Count.text countArticles
  simp [Reference.text]

/-- The selection of a listing is written as its statement. -/
theorem listIds_text : (listIds criteria).text = selectArticleIds (articleFilter criteria).text := by
  rw [← filterSource_text]
  unfold listIds Selection.text selectArticleIds
  simp [Reference.text, String.append_assoc]

/-- The selection of articles is written as its statement. -/
theorem articlesByIds_text : (articlesByIds count).text = selectArticlesByIds count := by
  unfold articlesByIds Selection.text Source.text selectArticlesByIds articleColumns
  -- what stands in front of the placeholders is put together first, and then what stands behind
  simp only [Reference.text, Join.text, Condition.text, TableName.text, List.map_cons, List.map_nil]
  simp [← String.append_assoc]
  simp [String.append_assoc]

/-- The selection of tags is written as its statement. -/
theorem tagsByArticleIds_text : (tagsByArticleIds count).text = selectTagsByArticleIds count := by
  unfold tagsByArticleIds Selection.text Source.text selectTagsByArticleIds
  simp only [Reference.text, Join.text, Condition.text, TableName.text, List.map_cons, List.map_nil]
  simp [← String.append_assoc]
  simp [String.append_assoc]

end Texts

end Statement

end Gazette
