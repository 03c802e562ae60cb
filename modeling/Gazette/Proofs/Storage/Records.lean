import Mathlib.Data.List.Basic
import Gazette.Proofs.Storage.Entries

/-!
# What the rows store

Every row of an article or a comment in orderly tables stores one, in the name of an author whom the
tables know.  The row is all that is needed to read it back.  This fails only if there is a sign before
the year of one of its stamps, and then it fails in the same way whatever is being worked on.
-/

set_option autoImplicit false

namespace Gazette

open Tables Session Database

/-- What is answered in place of something that has a stamp with a sign before the year. -/
def StorageError.unreadable : StorageError :=
  .queryFailed "Conversion error from type Text at index: 0, input contains invalid characters"

/-- The row of a tag. -/
def Tag.row (tag : Tag) : TagRow :=
  ⟨tag.id, .text tag.name⟩

/-- The row of an article. -/
def Article.row (article : Article) : ArticleRow where
  id := article.id
  slug := .text article.slug
  title := .text article.title
  body := .text article.body
  authorId := .integer article.author.id
  createdAt := .text article.createdAt.stored
  updatedAt := .text article.updatedAt.stored
  deletedAtUnix := .integer article.deletedAtUnix

/-- The row of a comment. -/
def Comment.row (comment : Comment) : CommentRow where
  id := comment.id
  body := .text comment.body
  slug := .text comment.slug
  authorId := .integer comment.author.id
  createdAt := .text comment.createdAt.stored
  updatedAt := .text comment.updatedAt.stored
  deletedAt := (comment.deletedAt.map fun stamp => Cell.text stamp.stored).getD .null

/-- Whether no stamp of an article has a sign before its year. -/
def Article.IsNear (article : Article) : Prop :=
  article.createdAt.IsNear ∧ article.updatedAt.IsNear

instance (article : Article) : Decidable article.IsNear :=
  inferInstanceAs (Decidable (article.createdAt.IsNear ∧ article.updatedAt.IsNear))

/-- Whether the stamps of a comment, apart from its tombstone, have no sign before their years. -/
def Comment.IsNear (comment : Comment) : Prop :=
  comment.createdAt.IsNear ∧ comment.updatedAt.IsNear

instance (comment : Comment) : Decidable comment.IsNear :=
  inferInstanceAs (Decidable (comment.createdAt.IsNear ∧ comment.updatedAt.IsNear))

/-- An article as it is read from its row. -/
def Article.reread (article : Article) : Except StorageError Article :=
  if article.IsNear then .ok article else .error .unreadable

/-- A live comment as it is read from its row. -/
def Comment.reread (comment : Comment) : Except StorageError Comment :=
  if comment.IsNear then .ok comment else .error .unreadable

namespace Tables

/-- Whether the public details of an author are those of an account. -/
def Knows (tables : Tables) (author : Author) : Prop :=
  ∃ account, tables.account? (.integer author.id) = some account ∧ account.Shows author

/-- Whether some tags are those of the article with an id, in the order in which they were
attached. -/
def Tagged (tables : Tables) (id : Int64) (tags : List Tag) : Prop :=
  tables.tagRows id = tags.map fun tag => tag.row.columns

/-- Whether the tables hold an article: a row stores it, and they have its author and its tags. -/
structure Holds (tables : Tables) (article : Article) : Prop where
  row : article.row ∈ tables.articles
  author : tables.Knows article.author
  tags : tables.Tagged article.id article.tags

end Tables

section Reading

/-- Two stamps are read, if neither has a sign before its year. -/
theorem Row.instants_stored {α : Type} (created updated : Instant) (entity id : String)
    (value : Instant → Instant → α) :
    (do
      let createdAt ← Row.instant created.stored
      let updatedAt ← Row.instant updated.stored
      return value createdAt updatedAt : Except EngineError α).mapError (EngineError.about entity id) =
      if created.IsNear ∧ updated.IsNear then .ok (value created updated)
      else .error .unreadable := by
  rw [Row.instant_stored, Row.instant_stored]
  by_cases created_near : created.IsNear
  · by_cases updated_near : updated.IsNear
    · rw [if_pos created_near, if_pos updated_near, if_pos ⟨created_near, updated_near⟩]
      rfl
    · rw [if_pos created_near, if_neg updated_near, if_neg (mt And.right updated_near)]
      rfl
  · rw [if_neg created_near, if_neg (mt And.left created_near)]
    rfl

/-- The text in a column of a row. -/
theorem Row.text_of (index : Nat) {row : Row} {name value : String}
    (there : row[index]? = some ⟨name, .text value⟩) : Row.text index row = .ok value :=
  Row.text_eq_ok.mpr ⟨_, there, rfl⟩

/-- The number in a column of a row. -/
theorem Row.integer_of (index : Nat) {row : Row} {name : String} {value : Int64}
    (there : row[index]? = some ⟨name, .integer value⟩) : Row.integer index row = .ok value :=
  Row.integer_eq_ok.mpr ⟨_, there, rfl⟩

/-- An author is read from the columns that an account shows, wherever these begin. -/
theorem Row.author_of {account : AccountRow} {author : Author} (shows_ : account.Shows author)
    (before : Row) :
    Row.author before.length (before ++ account.authorColumns) = .ok author := by
  simp only [Row.author, bind_ok_iff, Row.text_eq_ok, Row.integer_eq_ok, pure_ok_iff]
  have column (k : Nat) : (before ++ account.authorColumns)[before.length + k]? =
      account.authorColumns[k]? := by
    rw [List.getElem?_append_right (Nat.le_add_right _ _), Nat.add_sub_cancel_left]
  refine ⟨author.id, ⟨_, column 0, congrArg Cell.integer shows_.id.symm⟩, author.username,
    ⟨_, column 1, shows_.username⟩, author.bio, ⟨_, column 2, shows_.bio⟩, author.image,
    ⟨_, column 3, shows_.image⟩, rfl⟩

/-- Apart from its stamps an article is read in any case from its row and its author's, without its
tags. -/
theorem Row.article_row {article : Article} {account : AccountRow}
    (shows_ : account.Shows article.author) :
    Row.article (article.row.columns account) = (do
      let createdAt ← Row.instant article.createdAt.stored
      let updatedAt ← Row.instant article.updatedAt.stored
      return { article with tags := [], createdAt, updatedAt }) := by
  have author : Row.author 7 (article.row.columns account) = .ok article.author :=
    Row.author_of shows_ ((article.row.columns account).take 7)
  have stone : Row.integer 6 (article.row.columns account) = .ok article.deletedAtUnix :=
    Row.integer_of 6 rfl
  have id : Row.integer 0 (article.row.columns account) = .ok article.id := Row.integer_of 0 rfl
  rw [Row.article, Row.text_of 4 rfl, Row.text_of 5 rfl, id, Row.text_of 1 rfl, Row.text_of 2 rfl,
    Row.text_of 3 rfl, author, stone]
  simp only [bind, Except.bind]

/-- An article is read from its row and its author's, whatever is being worked on. -/
theorem Article.mapError_row {article : Article} {account : AccountRow}
    (shows_ : account.Shows article.author) (entity id : String) :
    (Row.article (article.row.columns account)).mapError (EngineError.about entity id) =
      Article.reread { article with tags := [] } := by
  rw [Row.article_row shows_, Row.instants_stored]
  rfl

/-- The text in a column of a row that may be empty. -/
theorem Row.text?_of (index : Nat) {row : Row} {name : String} {value : Option String}
    (there : row[index]? = some ⟨name, (value.map Cell.text).getD .null⟩) :
    Row.text? index row = .ok value := by
  simp only [Row.text?, bind_ok_iff, Row.column_eq_ok]
  refine ⟨_, there, ?_⟩
  cases value <;> rfl

/-- Apart from its stamps a comment is read in any case from its row and its author's. -/
theorem Row.comment_row {comment : Comment} {account : AccountRow}
    (shows_ : account.Shows comment.author) :
    Row.comment (comment.row.columns account) = (do
      let createdAt ← Row.instant comment.createdAt.stored
      let updatedAt ← Row.instant comment.updatedAt.stored
      let deletedAt ← (comment.deletedAt.map Instant.stored).mapM Row.instant
      return { comment with createdAt, updatedAt, deletedAt }) := by
  have author : Row.author 6 (comment.row.columns account) = .ok comment.author :=
    Row.author_of shows_ ((comment.row.columns account).take 6)
  have deleted : Row.text? 5 (comment.row.columns account) =
      .ok (comment.deletedAt.map Instant.stored) := by
    apply Row.text?_of 5
    rw [Option.map_map]
    rfl
  have id : Row.integer 0 (comment.row.columns account) = .ok comment.id := Row.integer_of 0 rfl
  rw [Row.comment, Row.text_of 3 rfl, Row.text_of 4 rfl, deleted, id, Row.text_of 1 rfl,
    Row.text_of 2 rfl, author]
  simp only [bind, Except.bind]

/-- A live comment is read from its row and its author's, whatever is being worked on. -/
theorem Comment.mapError_row {comment : Comment} {account : AccountRow}
    (shows_ : account.Shows comment.author) (live : comment.deletedAt = none) (entity id : String) :
    (Row.comment (comment.row.columns account)).mapError (EngineError.about entity id) =
      comment.reread := by
  have same (createdAt updatedAt : Instant) :
      { comment with createdAt, updatedAt, deletedAt := none } =
        { comment with createdAt, updatedAt } := by rw [live]
  simp only [Row.comment_row shows_, live, Option.map_none, Option.mapM_none, pure_bind, same]
  rw [Row.instants_stored]
  rfl

end Reading

section Repetitions

variable {α : Type} [BEq α] [LawfulBEq α]

/-- A value that is added to others stays unless it repeats one of them. -/
theorem eraseDups_append_singleton (values : List α) (value : α) :
    (values ++ [value]).eraseDups =
      if value ∈ values then values.eraseDups else values.eraseDups ++ [value] := by
  rw [List.eraseDups_append, List.removeAll, List.filter_singleton]
  by_cases again : value ∈ values
  · simp [again]
  · simp [again, List.eraseDups_cons]

/-- Nothing is repeated after later repetitions have been dropped. -/
theorem nodup_eraseDups (values : List α) : values.eraseDups.Nodup := by
  induction values using List.reverseRecOn with
  | nil => exact .nil
  | append_singleton values value ih =>
    rw [eraseDups_append_singleton]
    by_cases again : value ∈ values
    · rw [if_pos again]
      exact ih
    · rw [if_neg again, List.nodup_append_comm, List.singleton_append, List.nodup_cons,
        List.mem_eraseDups]
      exact ⟨again, ih⟩

/-- Dropping repetitions leaves the others in their order. -/
theorem eraseDups_sublist (values : List α) : values.eraseDups.Sublist values := by
  induction values using List.reverseRecOn with
  | nil => exact .slnil
  | append_singleton values value ih =>
    rw [eraseDups_append_singleton]
    by_cases again : value ∈ values
    · rw [if_pos again]
      exact ih.trans (List.sublist_append_left _ _)
    · rw [if_neg again]
      exact ih.append (.refl _)

end Repetitions

section Lists

variable {α β γ δ ε ζ : Type}

/-- If each row is that of something, all rows are those of a list. -/
theorem exists_map_eq {row : α → β} {holds : α → Prop} {rows : List β}
    (each : ∀ value ∈ rows, ∃ item, row item = value ∧ holds item) :
    ∃ items : List α, items.map row = rows ∧ ∀ item ∈ items, holds item := by
  induction rows with
  | nil => exact ⟨[], rfl, by simp⟩
  | cons value rows ih =>
    obtain ⟨item, own, held⟩ := each value List.mem_cons_self
    obtain ⟨items, others, all_held⟩ := ih fun other there => each other (List.mem_cons_of_mem _ there)
    exact ⟨item :: items, by rw [List.map_cons, own, others], List.forall_mem_cons.mpr ⟨held, all_held⟩⟩

/-- The rows of some things are joined and read one by one, and the first error is the answer. -/
theorem mapError_mapM_joined {row : α → β} {join : β → Option γ} {read : γ → Except ε δ} {use : ε → ζ}
    {again : α → Except ζ δ} {items : List α}
    (each : ∀ item ∈ items, ∃ columns, join (row item) = some columns ∧
      (read columns).mapError use = again item) :
    (((items.map row).filterMap join).mapM read).mapError use = items.mapM again := by
  induction items with
  | nil => rfl
  | cons item items ih =>
    obtain ⟨columns, joined, first⟩ := each item List.mem_cons_self
    have rest := ih fun other there => each other (List.mem_cons_of_mem _ there)
    rw [List.map_cons, List.filterMap_cons, joined]
    dsimp only
    rw [List.mapM_cons, List.mapM_cons, ← first, ← rest]
    cases read columns with
    | error error => rfl
    | ok value => cases ((items.map row).filterMap join).mapM read <;> rfl

/-- Things that are all read are read together. -/
theorem mapM_eq_ok {read : α → Except ε β} {value : α → β} {items : List α}
    (each : ∀ item ∈ items, read item = .ok (value item)) :
    items.mapM read = .ok (items.map value) := by
  induction items with
  | nil => rfl
  | cons item items ih =>
    rw [List.mapM_cons, each item List.mem_cons_self,
      ih fun other there => each other (List.mem_cons_of_mem _ there)]
    rfl

/-- Things that are read back one by one are read back together. -/
theorem mapM_of_ok {read : α → Except ε α} {items : List α}
    (each : ∀ item ∈ items, read item = .ok item) : items.mapM read = .ok items := by
  rw [mapM_eq_ok each, List.map_id']

/-- Things of which some cannot be read, all for one reason, are not read together for this reason. -/
theorem mapM_ite {read : α → Except ε β} {near : α → Prop} [DecidablePred near] {value : α → β}
    {error : ε} {items : List α}
    (each : ∀ item, read item = if near item then .ok (value item) else .error error) :
    items.mapM read =
      if ∀ item ∈ items, near item then .ok (items.map value) else .error error := by
  induction items with
  | nil => rfl
  | cons item items ih =>
    rw [List.mapM_cons, each, ih]
    by_cases first : near item
    · by_cases rest : ∀ other ∈ items, near other
      · rw [if_pos first, if_pos rest, if_pos (List.forall_mem_cons.mpr ⟨first, rest⟩)]
        rfl
      · rw [if_pos first, if_neg rest, if_neg fun all => rest (List.forall_mem_cons.mp all).2]
        rfl
    · rw [if_neg first, if_neg fun all => first (List.forall_mem_cons.mp all).1]
      rfl

end Lists

namespace Tables

variable {tables : Tables} {shown : Instant → Prop} {article : Article}

namespace Orderly

/-- A reference to an account is one to an author whom the tables know. -/
theorem exists_author (orderly : tables.Orderly shown) {reference : Cell}
    (refers : Refers (tables.accounts.map AccountRow.id) reference) :
    ∃ author : Author, reference = .integer author.id ∧ tables.Knows author := by
  obtain ⟨account, found⟩ := Option.isSome_iff_exists.mp (Integrity.account?_isSome refers)
  obtain ⟨author, shows_⟩ := (orderly.accounts account (List.mem_of_find?_eq_some found)).shows
  have same : Cell.integer account.id = reference := by simpa using List.find?_some found
  have own : reference = .integer author.id := by rw [← same, shows_.id]
  exact ⟨author, own, account, own ▸ found, shows_⟩

/-- The links of an article lead to tags. -/
theorem exists_tagged (orderly : tables.Orderly shown) (id : Int64) :
    ∃ tags, tables.Tagged id tags := by
  have each : ∀ columns ∈ tables.tagRows id,
      ∃ tag : Tag, tag.row.columns = columns ∧ True := by
    intro columns attached
    obtain ⟨link, -, joined⟩ := List.mem_filterMap.mp attached
    obtain ⟨row, found, rfl⟩ := Option.map_eq_some_iff.mp joined
    obtain ⟨name, named⟩ := orderly.tags row (List.mem_of_find?_eq_some found)
    exact ⟨⟨row.id, name⟩, by rw [Tag.row, ← named], trivial⟩
  obtain ⟨tags, same, -⟩ := exists_map_eq each
  exact ⟨tags, same.symm⟩

/-- Every row of an article stores one that the tables hold. -/
theorem exists_article (orderly : tables.Orderly shown) {row : ArticleRow}
    (there : row ∈ tables.articles) :
    ∃ article : Article, article.row = row ∧ tables.Holds article ∧ shown article.createdAt ∧
      shown article.updatedAt := by
  have written := orderly.articles row there
  obtain ⟨author, by_author, known⟩ := orderly.exists_author (orderly.authors row there)
  obtain ⟨tags, tagged⟩ := orderly.exists_tagged row.id
  obtain ⟨slug, slug_cell⟩ := written.slug
  obtain ⟨title, title_cell⟩ := written.title
  obtain ⟨body, body_cell⟩ := written.body
  obtain ⟨createdAt, created, created_cell⟩ := written.createdAt
  obtain ⟨updatedAt, updated, updated_cell⟩ := written.updatedAt
  obtain ⟨deletedAtUnix, stone⟩ := written.deletedAtUnix
  have same : Article.row ⟨row.id, slug, title, body, author, tags, createdAt, updatedAt,
      deletedAtUnix⟩ = row := by
    rw [Article.row, ← slug_cell, ← title_cell, ← body_cell, ← by_author, ← created_cell,
      ← updated_cell, ← stone]
  exact ⟨_, same, ⟨same ▸ there, known, tagged⟩, created, updated⟩

/-- Every row of a live comment stores one. -/
theorem exists_comment (orderly : tables.Orderly shown) {row : CommentRow}
    (there : row ∈ tables.comments) (live : row.isLive) :
    ∃ comment : Comment, comment.row = row ∧ comment.deletedAt = none ∧
      tables.Knows comment.author ∧ shown comment.createdAt ∧ shown comment.updatedAt := by
  have written := orderly.comments row there
  obtain ⟨author, by_author, known⟩ := orderly.exists_author (orderly.commenters row there)
  obtain ⟨body, body_cell⟩ := written.body
  obtain ⟨slug, slug_cell⟩ := written.slug
  obtain ⟨createdAt, created, created_cell⟩ := written.createdAt
  obtain ⟨updatedAt, updated, updated_cell⟩ := written.updatedAt
  have empty : row.deletedAt = .null := of_decide_eq_true live
  have same : Comment.row ⟨row.id, body, slug, author, createdAt, updatedAt, none⟩ = row := by
    rw [Comment.row, ← body_cell, ← slug_cell, ← by_author, ← created_cell, ← updated_cell,
      Option.map_none, Option.getD_none, ← empty]
  exact ⟨_, same, rfl, known, created, updated⟩

end Orderly

/-- The tag that an id refers to. -/
theorem Integrity.tag?_eq (sane : tables.Integrity) {tag : Tag} (there : tables.HasTag tag) :
    tables.tag? (.integer tag.id) = some tag.row := by
  have known : (tables.tag? (.integer tag.id)).isSome :=
    tag?_isSome ⟨tag.id, List.mem_map.mpr ⟨_, there, rfl⟩, rfl⟩
  obtain ⟨row, found⟩ := Option.isSome_iff_exists.mp known
  have same : row.id = tag.id := by simpa using List.find?_some found
  rw [found, sane.tagIds.eq_of_id (List.mem_of_find?_eq_some found) there same]
  rfl

/-- The columns of a row are joined with those of its author. -/
theorem Knows.articleColumns? (known : tables.Knows article.author) :
    ∃ account, tables.articleColumns? article.row = some (article.row.columns account) ∧
      account.Shows article.author := by
  obtain ⟨account, found, shows_⟩ := known
  exact ⟨account, Option.map_eq_some_iff.mpr ⟨account, found, rfl⟩, shows_⟩

/-- The columns of a comment are joined with those of its author. -/
theorem Knows.commentColumns? {comment : Comment} (known : tables.Knows comment.author) :
    ∃ account, tables.commentColumns? comment.row = some (comment.row.columns account) ∧
      account.Shows comment.author := by
  obtain ⟨account, found, shows_⟩ := known
  exact ⟨account, Option.map_eq_some_iff.mpr ⟨account, found, rfl⟩, shows_⟩

/-- The tags of an article are read one by one. -/
theorem Tagged.mapM_tag {id : Int64} {tags : List Tag} (tagged : tables.Tagged id tags) :
    (tables.tagRows id).mapM Row.tag = .ok tags := by
  rw [tagged, List.mapM_map]
  exact mapM_of_ok fun tag _ => TagRow.read rfl

/-- The active article with a slug is the only one. -/
theorem activeWithSlug_of_holds (one : tables.OneActive) (held : tables.Holds article)
    (active : article.deletedAtUnix = 0) : tables.activeWithSlug article.slug = [article.row] := by
  have there : article.row ∈ tables.activeWithSlug article.slug :=
    List.mem_filter.mpr ⟨held.row, by simp [Article.row, ArticleRow.isActive, active]⟩
  obtain ⟨row, only⟩ := List.length_eq_one_iff.mp
    (Nat.le_antisymm (one article.slug) (List.length_pos_of_mem there))
  rw [only] at there ⊢
  rw [List.mem_singleton.mp there]

/-- A lookup by the slug of an active article answers with the article, as it is read back. -/
theorem lookup_of_holds (one : tables.OneActive) (held : tables.Holds article)
    (active : article.deletedAtUnix = 0) : tables.lookup article.slug = article.reread := by
  obtain ⟨account, joined, shows_⟩ := held.author.articleColumns?
  have read := Article.mapError_row shows_ articleEntity article.slug
  rw [lookup, activeWithSlug_of_holds one held active, List.filterMap_cons, joined]
  dsimp only [firstRow]
  rw [read, Article.reread, Article.reread]
  by_cases near : article.IsNear
  · have near_bare : Article.IsNear { article with tags := [] } := near
    rw [if_pos near, if_pos near_bare, bind_ok_iff]
    exact ⟨_, rfl, by rw [held.tags.mapM_tag]; rfl⟩
  · have far_bare : ¬ Article.IsNear { article with tags := [] } := near
    rw [if_neg near, if_neg far_bare]
    rfl

end Tables

end Gazette
