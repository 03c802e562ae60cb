import Mathlib.Data.List.Basic
import Gazette.Storage.Articles

/-!
# What a lookup by slug finds

A lookup reads the first active article with the slug, joined with the account of its author,
and then the tags that are attached to it.  Here this is told by the rows that take part, without
the order in which their columns are read.
-/

set_option autoImplicit false

namespace Gazette

/-- Two steps that may fail succeed together. -/
theorem bind_ok_iff {ε α β : Type} {first : Except ε α} {next : α → Except ε β} {result : β} :
    (first >>= next) = .ok result ↔ ∃ value, first = .ok value ∧ next value = .ok result := by
  cases first with
  | error error => simp [bind, Except.bind]
  | ok value => simp [bind, Except.bind]

/-- What only answers with a value answers with that value. -/
theorem pure_ok_iff {ε α : Type} {value result : α} :
    (pure value : Except ε α) = .ok result ↔ value = result := by
  simp [pure, Except.pure]

/-- Nothing comes of a step that is refused. -/
theorem unless_ok_iff {ε α β : Type} {refused : Prop} [Decidable refused] {error : ε}
    {next : β → Except ε α} {rest : Except ε α} {result : α} :
    (if refused then throw error >>= next else rest) = .ok result ↔
      ¬ refused ∧ rest = .ok result := by
  by_cases h : refused
  · simp [h, throw, throwThe, MonadExceptOf.throw, bind, Except.bind]
  · simp [h]

namespace Row

variable {row : Row} {index : Nat}

/-- A column is read if it is there. -/
theorem column_eq_ok {column : Column} :
    Row.column index row = .ok column ↔ row[index]? = some column := by
  unfold Row.column
  cases row[index]? <;> simp

/-- A text is read from a column that holds one. -/
theorem text_eq_ok {value : String} :
    Row.text index row = .ok value ↔ ∃ column, row[index]? = some column ∧ column.cell = .text value := by
  simp only [Row.text, bind_ok_iff, column_eq_ok]
  constructor
  · rintro ⟨column, there, read⟩
    refine ⟨column, there, ?_⟩
    split at read
    · rename_i found
      rw [found, pure_ok_iff.mp read]
    · cases read
  · rintro ⟨column, there, cell⟩
    refine ⟨column, there, ?_⟩
    rw [cell]
    rfl

/-- A number is read from a column that holds one. -/
theorem integer_eq_ok {value : Int64} :
    Row.integer index row = .ok value ↔
      ∃ column, row[index]? = some column ∧ column.cell = .integer value := by
  simp only [Row.integer, bind_ok_iff, column_eq_ok]
  constructor
  · rintro ⟨column, there, read⟩
    refine ⟨column, there, ?_⟩
    split at read
    · rename_i found
      rw [found, pure_ok_iff.mp read]
    · cases read
  · rintro ⟨column, there, cell⟩
    refine ⟨column, there, ?_⟩
    rw [cell]
    rfl

/-- An instant is read from a text that the reader of instants takes. -/
theorem instant_eq_ok {written : String} {value : Instant} :
    Row.instant written = .ok value ↔ Instant.readStrict written = .ok value := by
  unfold Row.instant
  cases Instant.readStrict written <;> simp

end Row

/-- Whether a row stores the public details of an account. -/
structure AccountRow.Shows (row : AccountRow) (author : Author) : Prop where
  id : author.id = row.id
  username : row.username = .text author.username
  bio : row.bio = .text author.bio
  image : row.image = .text author.image

/-- Whether a row stores an article, whatever its author and its tags are. -/
structure ArticleRow.Stores (row : ArticleRow) (article : Article) : Prop where
  id : article.id = row.id
  slug : row.slug = .text article.slug
  title : row.title = .text article.title
  body : row.body = .text article.body
  createdAt : ∃ written, row.createdAt = .text written ∧
    Instant.readStrict written = .ok article.createdAt
  updatedAt : ∃ written, row.updatedAt = .text written ∧
    Instant.readStrict written = .ok article.updatedAt
  deletedAtUnix : row.deletedAtUnix = .integer article.deletedAtUnix

/-- An article is read from its row and the row of its author. -/
theorem Row.article_columns {row : ArticleRow} {account : AccountRow} {article : Article} :
    Row.article (row.columns account) = .ok article ↔
      row.Stores article ∧ account.Shows article.author ∧ article.tags = [] := by
  simp only [Row.article, Row.author, bind_ok_iff, Row.text_eq_ok, Row.integer_eq_ok,
    Row.instant_eq_ok, pure_ok_iff]
  simp only [ArticleRow.columns, AccountRow.authorColumns, List.cons_append, List.nil_append,
    List.getElem?_cons_succ, List.getElem?_cons_zero, Option.some.injEq]
  constructor
  · rintro ⟨created, ⟨_, rfl, created_at⟩, updated, ⟨_, rfl, updated_at⟩, id, ⟨_, rfl, id_read⟩,
      slug, ⟨_, rfl, slug_read⟩, title, ⟨_, rfl, title_read⟩, body, ⟨_, rfl, body_read⟩, author,
      ⟨author_id, ⟨_, rfl, author_read⟩, username, ⟨_, rfl, username_read⟩, bio, ⟨_, rfl, bio_read⟩,
        image, ⟨_, rfl, image_read⟩, rfl⟩,
      first, first_read, last, last_read, stone, ⟨_, rfl, stone_read⟩, rfl⟩
    cases id_read
    cases author_read
    exact ⟨⟨rfl, slug_read, title_read, body_read, ⟨created, created_at, first_read⟩,
      ⟨updated, updated_at, last_read⟩, stone_read⟩, ⟨rfl, username_read, bio_read, image_read⟩, rfl⟩
  · rintro ⟨stores, shows_, no_tags⟩
    obtain ⟨created, created_at, first_read⟩ := stores.createdAt
    obtain ⟨updated, updated_at, last_read⟩ := stores.updatedAt
    refine ⟨created, ⟨_, rfl, created_at⟩, updated, ⟨_, rfl, updated_at⟩, article.id,
      ⟨_, rfl, by rw [stores.id]⟩, article.slug, ⟨_, rfl, stores.slug⟩, article.title,
      ⟨_, rfl, stores.title⟩, article.body, ⟨_, rfl, stores.body⟩, article.author,
      ⟨article.author.id, ⟨_, rfl, by rw [shows_.id]⟩, article.author.username,
        ⟨_, rfl, shows_.username⟩, article.author.bio, ⟨_, rfl, shows_.bio⟩, article.author.image,
        ⟨_, rfl, shows_.image⟩, rfl⟩,
      article.createdAt, first_read, article.updatedAt, last_read, article.deletedAtUnix,
      ⟨_, rfl, stores.deletedAtUnix⟩, ?_⟩
    rw [← no_tags]

/-- An article without the public details of its author, which others may change. -/
def Article.anonymous (article : Article) : Article :=
  { article with author := ⟨article.author.id, "", "", ""⟩ }

/-- A row shows one author only. -/
theorem AccountRow.Shows.unique {row : AccountRow} {author other : Author} (shows_ : row.Shows author)
    (shows_other : row.Shows other) : author = other := by
  have username := shows_.username.symm.trans shows_other.username
  have bio := shows_.bio.symm.trans shows_other.bio
  have image := shows_.image.symm.trans shows_other.image
  have id := shows_.id.trans shows_other.id.symm
  cases author
  cases other
  simp_all

/-- An article is made up of what others cannot change and of its author. -/
theorem Article.eq_of_anonymous {article other : Article}
    (same : article.anonymous = other.anonymous) (author : article.author = other.author) :
    article = other := by
  cases article
  cases other
  simp_all [anonymous]

namespace Tables

variable {tables : Tables} {slug : String} {article : Article}

/-- The references of the articles and of the tags that are attached to them, and what the
numbering of the articles guarantees. -/
structure Sound (tables : Tables) : Prop where
  distinct : (tables.articles.map ArticleRow.id).Nodup
  given : ∀ row ∈ tables.articles, row.id ≤ tables.lastArticle
  authors : ∀ row ∈ tables.articles, (tables.account? row.authorId).isSome
  attached : ∀ row ∈ tables.links, (tables.tag? row.tagId).isSome

/-- Empty tables are sound. -/
theorem sound_empty : Sound {} :=
  ⟨List.nodup_nil, by simp, by simp, by simp⟩

/-- The article that the tables hold under a slug, or why there is none. -/
def lookup (tables : Tables) (slug : String) : Except StorageError Article := do
  let article ←
    (firstRow Row.article ((tables.activeWithSlug slug).filterMap tables.articleColumns?)).mapError
      (EngineError.about Database.articleEntity slug)
  let tags ← ((tables.tagRows article.id).mapM Row.tag).mapError
    (EngineError.about Database.tagEntity (toString article.id.toInt))
  return { article with tags }

/-- Whether an article stands in the tables under a slug, told by the rows it is made of. -/
structure Finds (tables : Tables) (slug : String) (article : Article) : Prop where
  rows : ∃ row account, (tables.activeWithSlug slug).head? = some row ∧
    tables.account? row.authorId = some account ∧ row.Stores article ∧
    account.Shows article.author ∧ (tables.tagRows row.id).mapM Row.tag = .ok article.tags

/-- To replace an error is to change no value. -/
theorem mapError_ok_iff {ε δ α : Type} {result : Except ε α} {use : ε → δ} {value : α} :
    result.mapError use = .ok value ↔ result = .ok value := by
  cases result <;> simp [Except.mapError]

/-- The first active row with a slug, with its author's row. -/
theorem firstRow_eq_ok (sound : tables.Sound) :
    firstRow Row.article ((tables.activeWithSlug slug).filterMap tables.articleColumns?) =
        .ok article ↔
      ∃ row account, (tables.activeWithSlug slug).head? = some row ∧
        tables.account? row.authorId = some account ∧
        Row.article (row.columns account) = .ok article := by
  cases same : tables.activeWithSlug slug with
  | nil => simp [firstRow]
  | cons row rows =>
    have there : row ∈ tables.articles := by
      have active : row ∈ tables.activeWithSlug slug := same ▸ List.mem_cons_self
      exact List.mem_of_mem_filter active
    obtain ⟨account, present⟩ := Option.isSome_iff_exists.mp (sound.authors row there)
    simp [articleColumns?, present, firstRow]

/-- A lookup succeeds with the article that stands under the slug. -/
theorem lookup_eq_ok (sound : tables.Sound) :
    tables.lookup slug = .ok article ↔ tables.Finds slug article := by
  simp only [lookup, bind_ok_iff, mapError_ok_iff, firstRow_eq_ok sound, Row.article_columns,
    pure_ok_iff]
  constructor
  · rintro ⟨bare, ⟨row, account, first, author, stores, shows_, -⟩, tags, attached, rfl⟩
    rw [stores.id] at attached
    exact ⟨row, account, first, author, { stores with }, shows_, attached⟩
  · rintro ⟨row, account, first, author, stores, shows_, attached⟩
    refine ⟨{ article with tags := [] }, ⟨row, account, first, author, { stores with }, shows_, rfl⟩,
      article.tags, ?_, rfl⟩
    rwa [stores.id]

/-- A row that is chosen for its slug has that slug. -/
theorem slug_of_mem_activeWithSlug {row : ArticleRow} (h : row ∈ tables.activeWithSlug slug) :
    row.slug = .text slug := by
  have both := (List.mem_filter.mp h).2
  simp only [Bool.and_eq_true, decide_eq_true_eq] at both
  exact both.1

/-- The article is found under its own slug. -/
theorem Finds.slug_eq (h : tables.Finds slug article) : article.slug = slug := by
  obtain ⟨row, account, first, -, stores, -⟩ := h.rows
  have active : row ∈ tables.activeWithSlug slug := List.mem_of_mem_head? first
  have named : row.slug = .text slug := slug_of_mem_activeWithSlug active
  rw [stores.slug] at named
  simpa using named

/-- The account that an article is joined with is the one that its author's id refers to. -/
theorem Finds.author (h : tables.Finds slug article) :
    ∃ account, tables.account? (.integer article.author.id) = some account ∧
      account.Shows article.author := by
  obtain ⟨row, account, -, referred, -, shows_, -⟩ := h.rows
  have reference : Cell.integer account.id = row.authorId := by
    simpa [account?] using List.find?_some referred
  refine ⟨account, ?_, shows_⟩
  rw [shows_.id, reference]
  exact referred

end Tables

end Gazette
