import Gazette.Storage.Articles

/-!
# Comments in the database

A comment belongs to a slug that an active article has when the comment is written.  Only
its author can delete it.
-/

set_option autoImplicit false

namespace Gazette.Database

/-- How errors call a comment. -/
def commentEntity : String := "Comment"

/-- Adds a comment to the active article with a slug. -/
def saveComment (slug : String) (comment : NewComment) : Session Database Comment := do
  let active ← Engine.about (query [.articles] fun tables =>
    .ok (tables.activeWithSlug slug).length) articleEntity slug
  if active = 0 then throw (.notFound articleEntity slug)
  let stamp ← now
  let id ← Engine.about (statement [.itself .comments, .referred .accounts] fun triggers =>
    Tables.insertComment triggers slug comment (.text stamp.stored)) commentEntity slug
  Engine.about (query [.comments, .accounts] fun tables =>
    firstRow Row.comment
      ((tables.comments.filter fun row => row.id = id).filterMap tables.commentColumns?))
    commentEntity (toString id.toInt)

/-- The live comments on a slug, the newest first. -/
def findComments (slug : String) : Session Database (List Comment) :=
  Engine.about (query [.comments, .accounts] fun tables =>
    (((tables.comments.filter fun row => row.slug = .text slug && row.isLive).reverse).filterMap
      tables.commentColumns?).mapM Row.comment) commentEntity slug

/-- Deletes the author's comment with an id. -/
def removeComment (authorId : Int64) (slug : String) (id : Int64) : Session Database Unit := do
  let stamp ← now
  let removed ← Engine.about (statement [.itself .comments] fun triggers =>
    Tables.tombstoneComments triggers
      (fun row => row.id = id && row.slug = .text slug && row.authorId = .integer authorId)
      (.text stamp.stored)) commentEntity (toString id.toInt)
  if removed = 0 then throw (.notFound commentEntity (toString id.toInt))

/-- Deletes all comments of an author on a slug, and tells how many there were. -/
def removeComments (authorId : Int64) (slug : String) : Session Database Nat := do
  let stamp ← now
  Engine.about (statement [.itself .comments] fun triggers =>
    Tables.tombstoneComments triggers
      (fun row => row.slug = .text slug && row.authorId = .integer authorId)
      (.text stamp.stored)) commentEntity slug

end Gazette.Database
