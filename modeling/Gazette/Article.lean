import Gazette.Json.Record
import Gazette.Text.Slug

/-!
# Articles, tags and comments

An article is found by its slug as long as it is active; a deleted article keeps its row
with a tombstone.  Articles and comments carry a public projection of their author's
account.  Listings are filtered by tags and author and cut into pages.
-/

set_option autoImplicit false

namespace Gazette

/-- The public projection of an account. -/
structure Author where
  id : Int64
  username : String
  bio : String := ""
  image : String := ""
  deriving DecidableEq

/-- A tag with its stored id. -/
structure Tag where
  id : Int64
  name : String
  deriving DecidableEq

/-- A published article.  The tombstone `deletedAtUnix` is zero while the article is active.  Its other
stamps are instants unless another type is given for them. -/
structure Article (Stamp : Type := Instant) where
  id : Int64
  slug : String
  title : String
  body : String
  author : Author
  tags : List Tag
  createdAt : Stamp
  updatedAt : Stamp
  deletedAtUnix : Int64
  deriving DecidableEq

/-- What a caller gives to publish an article. -/
structure NewArticle where
  slug : String
  title : String
  body : String
  authorId : Int64
  tags : List String
  deriving DecidableEq

/-- A comment on an article, which it names by slug.  Its stamps are instants unless another type is
given for them. -/
structure Comment (Stamp : Type := Instant) where
  id : Int64
  body : String
  slug : String
  author : Author
  createdAt : Stamp
  updatedAt : Stamp
  deletedAt : Option Stamp
  deriving DecidableEq

/-- What a caller gives to comment on an article. -/
structure NewComment where
  body : String
  authorId : Int64
  deriving DecidableEq

/-- The number of articles on a page when the caller does not say. -/
def defaultPageLimit : UInt32 := 20

/-- The filter and the page of a listing.  An article passes if it carries any of the tags, in
case there are some, and has the author, in case there is one. -/
structure ArticleCriteria where
  tags : List String := []
  author : Option String := none
  offset : UInt32 := 0
  limit : UInt32 := defaultPageLimit
  deriving DecidableEq

/-- A page of a listing together with the number of articles that pass its filter. -/
structure Listing where
  articles : List Article
  total : Nat
  deriving DecidableEq

/-- Authors in payloads. -/
def Author.codec : Codec Author :=
  (Codec.record "Author"
    (.cons "id" .int64 <| .cons "username" .text <| .cons "bio" .text <|
      .cons "image" .text .nil)).imap
    (fun (id, username, bio, image, ()) => ⟨id, username, bio, image⟩)
    (fun a => (a.id, a.username, a.bio, a.image, ()))

/-- Tags in payloads. -/
def Tag.codec : Codec Tag :=
  (Codec.record "Tag" (.cons "id" .int64 <| .cons "name" .text .nil)).imap
    (fun (id, name, ()) => ⟨id, name⟩) (fun t => (t.id, t.name, ()))

namespace Article

/-- Whether the article has not been deleted. -/
def isActive (article : Article) : Bool :=
  article.deletedAtUnix == 0

/-- The names of the tags, in the order in which they were attached. -/
def tagNames (article : Article) : List String :=
  article.tags.map Tag.name

/-- Articles in payloads. -/
def codec : Codec Article :=
  (Codec.record "Article"
    (.cons "id" .int64 <| .cons "slug" .text <| .cons "title" .text <| .cons "body" .text <|
      .cons "author" Author.codec <| .cons "tags" (.list Tag.codec) <|
      .cons "created_at" .instant <| .cons "updated_at" .instant <|
      .cons "deleted_at_unix" .int64 .nil)).imap
    (fun (id, slug, title, body, author, tags, createdAt, updatedAt, deletedAtUnix, ()) =>
      ⟨id, slug, title, body, author, tags, createdAt, updatedAt, deletedAtUnix⟩)
    (fun a =>
      (a.id, a.slug, a.title, a.body, a.author, a.tags, a.createdAt, a.updatedAt,
        a.deletedAtUnix, ()))

end Article

namespace NewArticle

/-- An article without tags whose slug is made from its title. -/
def ofTitle (title body : String) (authorId : Int64) : NewArticle :=
  ⟨slugify title, title, body, authorId, []⟩

/-- The texts without repetitions: of equal ones the first stays. -/
def firstOccurrences (names : List String) : List String :=
  names.foldl (fun kept name => if name ∈ kept then kept else kept ++ [name]) []

/-- The article with the given tag names, each once. -/
def withTags (article : NewArticle) (names : List String) : NewArticle :=
  { article with tags := firstOccurrences names }

/-- The article under another slug. -/
def withSlug (article : NewArticle) (slug : String) : NewArticle :=
  { article with slug }

/-- New articles in payloads. -/
def codec : Codec NewArticle :=
  (Codec.record "NewArticle"
    (.cons "slug" .text <| .cons "title" .text <| .cons "body" .text <|
      .cons "author_id" .int64 <| .cons "tags" (.list .text) .nil)).imap
    (fun (slug, title, body, authorId, tags, ()) => ⟨slug, title, body, authorId, tags⟩)
    (fun a => (a.slug, a.title, a.body, a.authorId, a.tags, ()))

end NewArticle

/-- Comments in payloads. -/
def Comment.codec : Codec Comment :=
  (Codec.record "Comment"
    (.cons "id" .int64 <| .cons "body" .text <| .cons "slug" .text <|
      .cons "author" Author.codec <| .cons "created_at" .instant <|
      .cons "updated_at" .instant <| .cons "deleted_at" (.optional .instant) .nil)).imap
    (fun (id, body, slug, author, createdAt, updatedAt, deletedAt, ()) =>
      ⟨id, body, slug, author, createdAt, updatedAt, deletedAt⟩)
    (fun c => (c.id, c.body, c.slug, c.author, c.createdAt, c.updatedAt, c.deletedAt, ()))

/-- New comments in payloads. -/
def NewComment.codec : Codec NewComment :=
  (Codec.record "NewComment" (.cons "body" .text <| .cons "author_id" .int64 .nil)).imap
    (fun (body, authorId, ()) => ⟨body, authorId⟩) (fun c => (c.body, c.authorId, ()))

/-- Criteria in payloads. -/
def ArticleCriteria.codec : Codec ArticleCriteria :=
  (Codec.record "ArticleCriteria"
    (.cons "tags" (.list .text) <| .cons "author" (.optional .text) <|
      .cons "offset" .uint32 <| .cons "limit" .uint32 .nil)).imap
    (fun (tags, author, offset, limit, ()) => ⟨tags, author, offset, limit⟩)
    (fun c => (c.tags, c.author, c.offset, c.limit, ()))

end Gazette
