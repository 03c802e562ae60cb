import Gazette.Storage.Row

/-!
# Tables

The five tables are lists of rows in ascending order of their ids.  A table that numbers its
rows remembers the largest id that it has ever given out, so an id is never used twice.
All other columns hold stored values of any kind, also those that refer to rows.
-/

set_option autoImplicit false

namespace Gazette

/-- A row of the accounts. -/
structure AccountRow where
  id : Int64
  username : Cell
  email : Cell
  password : Cell
  bio : Cell
  image : Cell
  disabled : Cell
  createdAt : Cell
  updatedAt : Cell
  deriving DecidableEq

/-- A row of the articles. -/
structure ArticleRow where
  id : Int64
  slug : Cell
  title : Cell
  body : Cell
  authorId : Cell
  createdAt : Cell
  updatedAt : Cell
  deletedAtUnix : Cell
  deriving DecidableEq

/-- A row of the tags. -/
structure TagRow where
  id : Int64
  name : Cell
  deriving DecidableEq

/-- A row that attaches a tag to an article. -/
structure LinkRow where
  id : Int64
  articleId : Cell
  tagId : Cell
  deriving DecidableEq

/-- A row of the comments. -/
structure CommentRow where
  id : Int64
  body : Cell
  slug : Cell
  authorId : Cell
  createdAt : Cell
  updatedAt : Cell
  deletedAt : Cell
  deriving DecidableEq

/-- The contents of the database.  The last ids are those that the numbered tables have given
out most recently. -/
structure Tables where
  accounts : List AccountRow := []
  articles : List ArticleRow := []
  tags : List TagRow := []
  links : List LinkRow := []
  comments : List CommentRow := []
  lastAccount : Int64 := 0
  lastArticle : Int64 := 0
  lastTag : Int64 := 0
  lastComment : Int64 := 0
  deriving DecidableEq

/-- The names of the tables. -/
inductive TableName where
  | accounts
  | articles
  | tags
  | articleTags
  | comments
  deriving DecidableEq

/-- The name of a table in statements. -/
def TableName.text : TableName → String
  | .accounts => "accounts"
  | .articles => "articles"
  | .tags => "tags"
  | .articleTags => "article_tags"
  | .comments => "comments"

/-- Whether the article has not been deleted, which its zero tombstone tells. -/
def ArticleRow.isActive (row : ArticleRow) : Bool :=
  row.deletedAtUnix = .integer 0

/-- Whether the comment has not been deleted. -/
def CommentRow.isLive (row : CommentRow) : Bool :=
  row.deletedAt = .null

/-- The columns of an account in the order of its reader. -/
def AccountRow.columns (row : AccountRow) : Row :=
  [⟨"id", .integer row.id⟩, ⟨"username", row.username⟩, ⟨"email", row.email⟩,
    ⟨"password", row.password⟩, ⟨"bio", row.bio⟩, ⟨"image", row.image⟩,
    ⟨"disabled", row.disabled⟩, ⟨"created_at", row.createdAt⟩, ⟨"updated_at", row.updatedAt⟩]

/-- The columns that an account shows as an author. -/
def AccountRow.authorColumns (row : AccountRow) : Row :=
  [⟨"id", .integer row.id⟩, ⟨"username", row.username⟩, ⟨"bio", row.bio⟩, ⟨"image", row.image⟩]

/-- The columns of an article with its author. -/
def ArticleRow.columns (row : ArticleRow) (author : AccountRow) : Row :=
  [⟨"id", .integer row.id⟩, ⟨"slug", row.slug⟩, ⟨"title", row.title⟩, ⟨"body", row.body⟩,
    ⟨"created_at", row.createdAt⟩, ⟨"updated_at", row.updatedAt⟩,
    ⟨"deleted_at_unix", row.deletedAtUnix⟩] ++ author.authorColumns

/-- The columns of a tag. -/
def TagRow.columns (row : TagRow) : Row :=
  [⟨"id", .integer row.id⟩, ⟨"name", row.name⟩]

/-- The columns of a tag with the article that it is attached to. -/
def LinkRow.columns (row : LinkRow) (tag : TagRow) : Row :=
  ⟨"article_id", row.articleId⟩ :: tag.columns

/-- The columns of a comment with its author. -/
def CommentRow.columns (row : CommentRow) (author : AccountRow) : Row :=
  [⟨"id", .integer row.id⟩, ⟨"body", row.body⟩, ⟨"slug", row.slug⟩,
    ⟨"created_at", row.createdAt⟩, ⟨"updated_at", row.updatedAt⟩,
    ⟨"deleted_at", row.deletedAt⟩] ++ author.authorColumns

namespace Tables

/-- The account that a value refers to. -/
def account? (tables : Tables) (reference : Cell) : Option AccountRow :=
  tables.accounts.find? fun row => .integer row.id = reference

/-- The tag that a value refers to. -/
def tag? (tables : Tables) (reference : Cell) : Option TagRow :=
  tables.tags.find? fun row => .integer row.id = reference

/-- The articles that have not been deleted and have a slug. -/
def activeWithSlug (tables : Tables) (slug : String) : List ArticleRow :=
  tables.articles.filter fun row => row.slug = .text slug && row.isActive

/-- An article's columns joined with its author's.  Without the author there is no row. -/
def articleColumns? (tables : Tables) (row : ArticleRow) : Option Row :=
  (tables.account? row.authorId).map row.columns

/-- A comment's columns joined with its author's.  Without the author there is no row. -/
def commentColumns? (tables : Tables) (row : CommentRow) : Option Row :=
  (tables.account? row.authorId).map row.columns

/-- The columns of a link joined with its tag's.  Without the tag there is no row. -/
def linkColumns? (tables : Tables) (row : LinkRow) : Option Row :=
  (tables.tag? row.tagId).map row.columns

/-- A list of rows in ascending order of ids with another row in its place. -/
def place {α : Type} (id : α → Int64) (row : α) (rows : List α) : List α :=
  rows.takeWhile (fun other => id other < id row) ++
    row :: rows.dropWhile fun other => id other < id row

/-- The largest id up to a bound that no link has, given the links from the last one down. -/
def freeBelow (id : Int64) : List LinkRow → Int64
  | [] => id
  | row :: rows => if row.id = id then freeBelow (id - 1) rows else id

/-- The id of the next link: one above the last that is present, or the largest that is free
if there is none above. -/
def nextLink (tables : Tables) : Int64 :=
  match tables.links.getLast? with
  | some row =>
    if row.id = Int64.maxValue then freeBelow row.id tables.links.reverse else row.id + 1
  | none => 1

end Tables

end Gazette
