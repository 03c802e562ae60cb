import Mathlib.Data.List.Basic
import Gazette.Proofs.Storage.Changes

/-!
# How rows are written and read back

The changes write a value of the right kind into every column, and as stamps they write instants.
A row like this is read back as the entity that it stores, provided that its stamps are read back.
-/

set_option autoImplicit false

namespace Gazette

/-- Whether a value is a text. -/
def Cell.IsText (cell : Cell) : Prop :=
  ∃ text, cell = .text text

/-- Whether a value is a written instant with a property. -/
def Cell.Stamped (shown : Instant → Prop) (cell : Cell) : Prop :=
  ∃ stamp : Instant, shown stamp ∧ cell = .text stamp.stored

/-- Whether an instant is what a reader of its stored form gets. -/
def Instant.ReadsBack (instant : Instant) : Prop :=
  Instant.readStrict instant.stored = .ok instant

/-- Whether a row has been written as an account is. -/
structure AccountRow.Written (shown : Instant → Prop) (row : AccountRow) : Prop where
  username : row.username.IsText
  email : row.email.IsText
  password : row.password.IsText
  bio : row.bio.IsText
  image : row.image.IsText
  disabled : row.disabled = .integer 0
  createdAt : row.createdAt.Stamped shown
  updatedAt : row.updatedAt.Stamped shown

/-- Whether a row has been written as an article is. -/
structure ArticleRow.Written (shown : Instant → Prop) (row : ArticleRow) : Prop where
  slug : row.slug.IsText
  title : row.title.IsText
  body : row.body.IsText
  createdAt : row.createdAt.Stamped shown
  updatedAt : row.updatedAt.Stamped shown
  deletedAtUnix : ∃ unix, row.deletedAtUnix = .integer unix

/-- Whether a row has been written as a comment is. -/
structure CommentRow.Written (shown : Instant → Prop) (row : CommentRow) : Prop where
  body : row.body.IsText
  slug : row.slug.IsText
  createdAt : row.createdAt.Stamped shown
  updatedAt : row.updatedAt.Stamped shown
  deletedAt : row.deletedAt = .null ∨ row.deletedAt.Stamped shown

/-- Whether all rows have been written by the changes. -/
structure Tables.Written (shown : Instant → Prop) (tables : Tables) : Prop where
  accounts : ∀ row ∈ tables.accounts, row.Written shown
  articles : ∀ row ∈ tables.articles, row.Written shown
  tags : ∀ row ∈ tables.tags, row.name.IsText
  comments : ∀ row ∈ tables.comments, row.Written shown

/-- The cell of a text holds a text. -/
theorem Cell.isText_text (text : String) : (Cell.text text).IsText :=
  ⟨text, rfl⟩

/-- A stamp is a written instant. -/
theorem Cell.stamped_text {shown : Instant → Prop} {stamp : Instant} (h : shown stamp) :
    (Cell.text stamp.stored).Stamped shown :=
  ⟨stamp, h, rfl⟩

section Fresh

variable {shown : Instant → Prop} {stamp : Instant} (id : Int64) (dated : shown stamp)

include dated

/-- The row of a new account is written as an account is. -/
theorem NewAccount.written_row (account : NewAccount) :
    (account.row id (.text stamp.stored)).Written shown :=
  ⟨Cell.isText_text _, Cell.isText_text _, Cell.isText_text _, Cell.isText_text _,
    Cell.isText_text _, rfl, Cell.stamped_text dated, Cell.stamped_text dated⟩

/-- The row of a new article is written as an article is. -/
theorem NewArticle.written_row (article : NewArticle) :
    (article.row id (.text stamp.stored)).Written shown :=
  ⟨Cell.isText_text _, Cell.isText_text _, Cell.isText_text _, Cell.stamped_text dated,
    Cell.stamped_text dated, 0, rfl⟩

/-- The row of a new comment is written as a comment is. -/
theorem NewComment.written_row (comment : NewComment) (slug : String) :
    (comment.row slug id (.text stamp.stored)).Written shown :=
  ⟨Cell.isText_text _, Cell.isText_text _, Cell.stamped_text dated, Cell.stamped_text dated, .inl rfl⟩

end Fresh

section Reading

/-- A truth value is read from a column that holds a number. -/
theorem Row.boolean_eq_ok {row : Row} {index : Nat} {value : Bool} :
    Row.boolean index row = .ok value ↔ ∃ number, Row.integer index row = .ok number ∧
      (number != 0) = value := by
  simp only [Row.boolean, bind_ok_iff, pure_ok_iff]

/-- A stamp that is read back is read from its column. -/
theorem Cell.Stamped.read {cell : Cell} (h : cell.Stamped Instant.ReadsBack) :
    ∃ written instant, cell = .text written ∧ Instant.readStrict written = .ok instant := by
  obtain ⟨stamp, back, same⟩ := h
  exact ⟨stamp.stored, stamp, same, back⟩

/-- An account is read from a row that has been written as one. -/
theorem AccountRow.Written.read {row : AccountRow} (written : row.Written Instant.ReadsBack) :
    ∃ account, Row.account row.columns = .ok account := by
  obtain ⟨created, created_at, created_cell, created_read⟩ := written.createdAt.read
  obtain ⟨updated, updated_at, updated_cell, updated_read⟩ := written.updatedAt.read
  obtain ⟨username, username_cell⟩ := written.username
  obtain ⟨email, email_cell⟩ := written.email
  obtain ⟨password, password_cell⟩ := written.password
  obtain ⟨bio, bio_cell⟩ := written.bio
  obtain ⟨image, image_cell⟩ := written.image
  refine ⟨⟨row.id, username, email, password, bio, image, false, created_at, updated_at⟩, ?_⟩
  simp only [Row.account, bind_ok_iff, Row.text_eq_ok, Row.integer_eq_ok, Row.boolean_eq_ok,
    Row.instant_eq_ok, pure_ok_iff]
  exact ⟨created, ⟨_, rfl, created_cell⟩, updated, ⟨_, rfl, updated_cell⟩, row.id, ⟨_, rfl, rfl⟩,
    username, ⟨_, rfl, username_cell⟩, email, ⟨_, rfl, email_cell⟩, password,
    ⟨_, rfl, password_cell⟩, bio, ⟨_, rfl, bio_cell⟩, image, ⟨_, rfl, image_cell⟩, false,
    ⟨0, ⟨_, rfl, written.disabled⟩, rfl⟩, created_at, created_read, updated_at, updated_read, rfl⟩

/-- An account that has been written shows an author. -/
theorem AccountRow.Written.shows {shown : Instant → Prop} {row : AccountRow}
    (written : row.Written shown) : ∃ author, row.Shows author := by
  obtain ⟨username, username_cell⟩ := written.username
  obtain ⟨bio, bio_cell⟩ := written.bio
  obtain ⟨image, image_cell⟩ := written.image
  exact ⟨⟨row.id, username, bio, image⟩, rfl, username_cell, bio_cell, image_cell⟩

/-- An article is read from a row that has been written as one and its author's row. -/
theorem ArticleRow.Written.read {shown : Instant → Prop} {row : ArticleRow} {account : AccountRow}
    (written : row.Written Instant.ReadsBack) (author_written : account.Written shown) :
    ∃ article, Row.article (row.columns account) = .ok article ∧ article.id = row.id := by
  obtain ⟨created, created_at, created_cell, created_read⟩ := written.createdAt.read
  obtain ⟨updated, updated_at, updated_cell, updated_read⟩ := written.updatedAt.read
  obtain ⟨slug, slug_cell⟩ := written.slug
  obtain ⟨title, title_cell⟩ := written.title
  obtain ⟨body, body_cell⟩ := written.body
  obtain ⟨unix, unix_cell⟩ := written.deletedAtUnix
  obtain ⟨author, shows_⟩ := author_written.shows
  refine ⟨⟨row.id, slug, title, body, author, [], created_at, updated_at, unix⟩, ?_, rfl⟩
  exact Row.article_columns.mpr ⟨⟨rfl, slug_cell, title_cell, body_cell,
    ⟨created, created_cell, created_read⟩, ⟨updated, updated_cell, updated_read⟩, unix_cell⟩,
    shows_, rfl⟩

/-- A tag is read from a row with a name. -/
theorem TagRow.read {row : TagRow} {name : String} (named : row.name = .text name) :
    Row.tag row.columns = .ok ⟨row.id, name⟩ := by
  simp only [Row.tag, bind_ok_iff, Row.text_eq_ok, Row.integer_eq_ok, pure_ok_iff]
  exact ⟨row.id, ⟨_, rfl, rfl⟩, name, ⟨_, rfl, named⟩, rfl⟩

/-- No text is read from a column that holds none. -/
theorem Row.text?_eq_none {row : Row} {index : Nat} {column : Column}
    (there : row[index]? = some column) (empty : column.cell = .null) :
    Row.text? index row = .ok none := by
  simp only [Row.text?, bind_ok_iff, Row.column_eq_ok]
  exact ⟨column, there, by rw [empty]; rfl⟩

/-- A comment that has not been deleted is read from a row that has been written as one and its
author's row. -/
theorem CommentRow.Written.read {shown : Instant → Prop} {row : CommentRow} {account : AccountRow}
    (written : row.Written Instant.ReadsBack) (author_written : account.Written shown)
    (live : row.deletedAt = .null) :
    ∃ comment, Row.comment (row.columns account) = .ok comment := by
  obtain ⟨created, created_at, created_cell, created_read⟩ := written.createdAt.read
  obtain ⟨updated, updated_at, updated_cell, updated_read⟩ := written.updatedAt.read
  obtain ⟨body, body_cell⟩ := written.body
  obtain ⟨slug, slug_cell⟩ := written.slug
  obtain ⟨author, shows_⟩ := author_written.shows
  have deleted : Row.text? 5 (row.columns account) = .ok none := Row.text?_eq_none rfl live
  refine ⟨⟨row.id, body, slug, author, created_at, updated_at, none⟩, ?_⟩
  simp only [Row.comment, Row.author, bind_ok_iff, Row.text_eq_ok, Row.integer_eq_ok,
    Row.instant_eq_ok, pure_ok_iff]
  exact ⟨created, ⟨_, rfl, created_cell⟩, updated, ⟨_, rfl, updated_cell⟩, none, deleted, row.id,
    ⟨_, rfl, rfl⟩, body, ⟨_, rfl, body_cell⟩, slug, ⟨_, rfl, slug_cell⟩, author,
    ⟨author.id, ⟨_, rfl, by rw [shows_.id]⟩, author.username, ⟨_, rfl, shows_.username⟩,
      author.bio, ⟨_, rfl, shows_.bio⟩, author.image, ⟨_, rfl, shows_.image⟩, rfl⟩,
    created_at, created_read, updated_at, updated_read, none, rfl, rfl⟩

end Reading

namespace Tables

/-- Empty tables hold no other rows. -/
theorem written_empty (shown : Instant → Prop) : Written shown {} where
  accounts := by simp
  articles := by simp
  tags := by simp
  comments := by simp

namespace Written

variable {shown : Instant → Prop} {before after : Tables} {triggers : List Trigger}
  {stamp : Instant}

/-- Inserting an account writes a row as an account is written. -/
theorem insertAccount {account : NewAccount} (written : before.Written shown) (dated : shown stamp)
    (done : Tables.insertAccount triggers account (.text stamp.stored) before = .ok after) :
    after.Written shown := by
  obtain ⟨id, -, -, rfl⟩ := insertAccount_eq_ok done
  exact { written with
    accounts := List.forall_mem_append.mpr ⟨written.accounts, List.forall_mem_singleton.mpr
      (account.written_row id dated)⟩ }

/-- A patch writes texts and a stamp. -/
theorem patchRow {row : AccountRow} (written : row.Written shown) (patch : AccountPatch)
    (dated : shown stamp) : (Tables.patchRow patch (.text stamp.stored) row).Written shown := by
  have patched (given : Option String) {old : Cell} (text : old.IsText) :
      ((given.map Cell.text).getD old).IsText := by
    cases given with
    | none => exact text
    | some value => exact Cell.isText_text value
  exact { written with
    username := patched _ written.username
    password := patched _ written.password
    bio := patched _ written.bio
    image := patched _ written.image
    updatedAt := Cell.stamped_text dated }

/-- Updating an account leaves its row as an account is written. -/
theorem updateAccount {email : String} {patch : AccountPatch} {count : Nat}
    (written : before.Written shown) (dated : shown stamp)
    (done : Tables.updateAccount triggers email patch (.text stamp.stored) before =
      .ok (count, after)) : after.Written shown := by
  rcases updateAccount_eq_ok done with ⟨-, rfl, -⟩ | ⟨-, -, -, rfl⟩
  · exact written
  · refine { written with accounts := List.forall_mem_map.mpr ?_ }
    intro row present
    unfold AccountRow.patched
    split
    · exact patchRow (written.accounts row present) patch dated
    · exact written.accounts row present

/-- Asking for a tag writes a name. -/
theorem upsertTag {name : String} (written : before.Written shown)
    (done : Tables.upsertTag triggers name before = .ok after) : after.Written shown := by
  obtain ⟨id, -, ⟨-, rfl⟩ | ⟨-, rfl⟩⟩ := upsertTag_eq_ok done
  · exact { written with }
  · exact { written with
      tags := List.forall_mem_append.mpr ⟨written.tags, List.forall_mem_singleton.mpr
        (Cell.isText_text name)⟩ }

/-- Inserting an article writes a row as an article is written. -/
theorem insertArticle {article : NewArticle} {id : Int64} (written : before.Written shown)
    (dated : shown stamp)
    (done : Tables.insertArticle triggers article (.text stamp.stored) before = .ok (id, after)) :
    after.Written shown := by
  obtain ⟨-, -, -, rfl⟩ := insertArticle_eq_ok done
  exact { written with
    articles := List.forall_mem_append.mpr ⟨written.articles, List.forall_mem_singleton.mpr
      (article.written_row id dated)⟩ }

/-- Attaching a tag changes no row that holds texts or stamps. -/
theorem insertLink {articleId tagId : Int64} (written : before.Written shown)
    (done : Tables.insertLink triggers articleId tagId before = .ok after) : after.Written shown := by
  obtain ⟨-, -, -, rfl⟩ := insertLink_eq_ok done
  exact { written with }

/-- Marking an article as deleted leaves its row as an article is written. -/
theorem tombstoneArticle {authorId unix : Int64} {slug : String} {chosen : Option Int64}
    (written : before.Written shown) (dated : shown stamp)
    (done : Tables.tombstoneArticle triggers authorId slug (.integer unix) (.text stamp.stored)
      before = .ok (chosen, after)) : after.Written shown := by
  rcases tombstoneArticle_eq_ok done with ⟨-, rfl, -⟩ | ⟨-, -, -, -, rfl⟩
  · exact written
  · refine { written with articles := List.forall_mem_map.mpr ?_ }
    intro row present
    have was := written.articles row present
    unfold ArticleRow.marked
    split
    · exact { was with updatedAt := Cell.stamped_text dated, deletedAtUnix := ⟨unix, rfl⟩ }
    · exact was

/-- Detaching tags changes no row that holds texts or stamps. -/
theorem deleteLinks {articleId : Int64} (written : before.Written shown)
    (done : Tables.deleteLinks triggers articleId before = .ok after) : after.Written shown := by
  obtain rfl := deleteLinks_eq_ok done
  exact { written with }

/-- Inserting a comment writes a row as a comment is written. -/
theorem insertComment {slug : String} {comment : NewComment} {id : Int64}
    (written : before.Written shown) (dated : shown stamp)
    (done : Tables.insertComment triggers slug comment (.text stamp.stored) before =
      .ok (id, after)) : after.Written shown := by
  obtain ⟨-, -, rfl⟩ := insertComment_eq_ok done
  exact { written with
    comments := List.forall_mem_append.mpr ⟨written.comments, List.forall_mem_singleton.mpr
      (comment.written_row id dated slug)⟩ }

/-- Marking comments as deleted leaves their rows as comments are written. -/
theorem tombstoneComments {chosen : CommentRow → Bool} {count : Nat}
    (written : before.Written shown) (dated : shown stamp)
    (done : Tables.tombstoneComments triggers chosen (.text stamp.stored) before =
      .ok (count, after)) : after.Written shown := by
  obtain ⟨-, -, rfl⟩ := tombstoneComments_eq_ok done
  refine { written with comments := List.forall_mem_map.mpr ?_ }
  intro row present
  have was := written.comments row present
  unfold CommentRow.marked
  split
  · exact { was with deletedAt := .inr (Cell.stamped_text dated) }
  · exact was

end Written

end Tables

end Gazette
