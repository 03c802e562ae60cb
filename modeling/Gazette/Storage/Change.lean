import Gazette.Storage.Tables

/-!
# Changes of the tables

Each change below is one statement.  It either gives the new tables or refuses and leaves no
trace.  An insertion lets the triggers of the table speak first, then takes the next id, then
looks for taken keys, and at last looks for the rows that it refers to.  A change of rows that
are present lets the triggers speak if there is a row to change.  A refusal may also end the
unit of work that the statement belongs to.
-/

set_option autoImplicit false

namespace Gazette

/-- Why a statement has been refused, and whether that ends the open unit of work. -/
structure Refusal where
  error : EngineError
  endsWork : Bool := false
  deriving DecidableEq

/-- What a statement does to a row. -/
inductive RowEvent where
  | insert
  | update
  | delete
  deriving DecidableEq

/-- A trigger that refuses every statement that does something to a row of a table. -/
structure Trigger where
  table : TableName
  event : RowEvent
  endsWork : Bool
  text : String
  deriving DecidableEq

namespace Refusal

/-- A unique column is taken. -/
def taken : Refusal :=
  ⟨.failure EngineError.uniqueCode none, false⟩

/-- A primary key is taken. -/
def takenKey : Refusal :=
  ⟨.failure EngineError.primaryKeyCode none, false⟩

/-- A row refers to a row that does not exist. -/
def dangling : Refusal :=
  ⟨.failure EngineError.foreignKeyCode (some "FOREIGN KEY constraint failed"), false⟩

/-- All ids of a table have been given out. -/
def full : Refusal :=
  ⟨.failure EngineError.fullCode (some "database or disk is full"), true⟩

end Refusal

/-- Lets the triggers of a table speak about an event; the first one that applies refuses. -/
def Trigger.fire (triggers : List Trigger) (table : TableName) (event : RowEvent) :
    Except Refusal Unit :=
  match triggers.find? fun trigger => trigger.table = table && trigger.event = event with
  | some trigger =>
    .error ⟨.failure EngineError.triggerCode (some trigger.text), trigger.endsWork⟩
  | none => .ok ()

/-- The id after the last one. -/
def nextId (last : Int64) : Except Refusal Int64 :=
  if last = Int64.maxValue then .error .full else .ok (last + 1)

namespace Tables

/-- Adds an account. -/
def insertAccount (triggers : List Trigger) (account : NewAccount) (stamp : Cell)
    (tables : Tables) : Except Refusal Tables := do
  Trigger.fire triggers .accounts .insert
  let id ← nextId tables.lastAccount
  let row : AccountRow :=
    { id, username := .text account.username, email := .text account.email
      password := .text account.password, bio := .text account.bio
      image := .text account.image, disabled := .integer 0, createdAt := stamp
      updatedAt := stamp }
  if tables.accounts.any fun other => other.username = row.username || other.email = row.email then
    throw .taken
  return { tables with accounts := tables.accounts ++ [row], lastAccount := id }

/-- A row with the fields of a patch written over it. -/
def patchRow (patch : AccountPatch) (stamp : Cell) (row : AccountRow) : AccountRow :=
  { row with
    username := (patch.username.map Cell.text).getD row.username
    password := (patch.password.map Cell.text).getD row.password
    bio := (patch.bio.map Cell.text).getD row.bio
    image := (patch.image.map Cell.text).getD row.image
    updatedAt := stamp }

/-- Writes a patch over the account with an email, and tells how many rows have changed. -/
def updateAccount (triggers : List Trigger) (email : String) (patch : AccountPatch)
    (stamp : Cell) (tables : Tables) : Except Refusal (Nat × Tables) := do
  let matching := tables.accounts.filter fun row => row.email = .text email
  if matching = [] then return (0, tables)
  Trigger.fire triggers .accounts .update
  let claims (row : AccountRow) : Bool :=
    match patch.username with
    | some username => row.username = .text username && row.email ≠ .text email
    | none => false
  if tables.accounts.any claims then throw .taken
  let accounts := tables.accounts.map fun row =>
    if row.email = .text email then patchRow patch stamp row else row
  return (matching.length, { tables with accounts })

/-- Adds a tag unless there is one with the name.  The next id is used up in both cases. -/
def upsertTag (triggers : List Trigger) (name : String) (tables : Tables) :
    Except Refusal Tables := do
  Trigger.fire triggers .tags .insert
  let id ← nextId tables.lastTag
  if tables.tags.any fun row => row.name = .text name then
    return { tables with lastTag := id }
  return { tables with tags := tables.tags ++ [⟨id, .text name⟩], lastTag := id }

/-- Adds an active article and gives its id. -/
def insertArticle (triggers : List Trigger) (article : NewArticle) (stamp : Cell)
    (tables : Tables) : Except Refusal (Int64 × Tables) := do
  Trigger.fire triggers .articles .insert
  let id ← nextId tables.lastArticle
  if tables.activeWithSlug article.slug ≠ [] then throw .taken
  if (tables.account? (.integer article.authorId)).isNone then throw .dangling
  let row : ArticleRow :=
    { id, slug := .text article.slug, title := .text article.title, body := .text article.body
      authorId := .integer article.authorId, createdAt := stamp, updatedAt := stamp
      deletedAtUnix := .integer 0 }
  return (id, { tables with articles := tables.articles ++ [row], lastArticle := id })

/-- Attaches a tag to an article. -/
def insertLink (triggers : List Trigger) (articleId tagId : Int64) (tables : Tables) :
    Except Refusal Tables := do
  Trigger.fire triggers .articleTags .insert
  let row : LinkRow :=
    { id := tables.nextLink, articleId := .integer articleId, tagId := .integer tagId }
  if tables.links.any fun other => other.articleId = row.articleId && other.tagId = row.tagId then
    throw .takenKey
  let known := tables.articles.any fun article => article.id = articleId
  if !known || (tables.tag? row.tagId).isNone then throw .dangling
  return { tables with links := place LinkRow.id row tables.links }

/-- Marks the author's active article with a slug as deleted, and gives its id. -/
def tombstoneArticle (triggers : List Trigger) (authorId : Int64) (slug : String)
    (unix stamp : Cell) (tables : Tables) : Except Refusal (Option Int64 × Tables) := do
  let owned (row : ArticleRow) : Bool :=
    row.slug = .text slug && row.authorId = .integer authorId && row.isActive
  match tables.articles.find? owned with
  | none => return (none, tables)
  | some row =>
    Trigger.fire triggers .articles .update
    let articles := tables.articles.map fun row =>
      if owned row then { row with deletedAtUnix := unix, updatedAt := stamp } else row
    return (some row.id, { tables with articles })

/-- Detaches all tags from an article. -/
def deleteLinks (triggers : List Trigger) (articleId : Int64) (tables : Tables) :
    Except Refusal Tables := do
  if tables.links.any fun row => row.articleId = .integer articleId then
    Trigger.fire triggers .articleTags .delete
  let links := tables.links.filter fun row => row.articleId ≠ .integer articleId
  return { tables with links }

/-- Adds a comment and gives its id. -/
def insertComment (triggers : List Trigger) (slug : String) (comment : NewComment)
    (stamp : Cell) (tables : Tables) : Except Refusal (Int64 × Tables) := do
  Trigger.fire triggers .comments .insert
  let id ← nextId tables.lastComment
  if (tables.account? (.integer comment.authorId)).isNone then throw .dangling
  let row : CommentRow :=
    { id, body := .text comment.body, slug := .text slug
      authorId := .integer comment.authorId
      createdAt := stamp, updatedAt := stamp, deletedAt := .null }
  return (id, { tables with comments := tables.comments ++ [row], lastComment := id })

/-- Marks the live comments that are chosen as deleted, and tells how many there are. -/
def tombstoneComments (triggers : List Trigger) (chosen : CommentRow → Bool) (stamp : Cell)
    (tables : Tables) : Except Refusal (Nat × Tables) := do
  let leaves (row : CommentRow) : Bool := chosen row && row.isLive
  let count := tables.comments.countP leaves
  if count = 0 then return (0, tables)
  Trigger.fire triggers .comments .update
  let comments := tables.comments.map fun row =>
    if leaves row then { row with deletedAt := stamp } else row
  return (count, { tables with comments })

end Tables

end Gazette
