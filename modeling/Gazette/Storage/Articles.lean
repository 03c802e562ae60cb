import Gazette.Storage.Accounts

/-!
# Articles in the database

An article is saved in several statements: its tags are added where they are new, then the
article, then its links to the tags.  A listing is read in two phases: first the ids of the
page, then the articles with these ids and, batch by batch, their tags.
-/

set_option autoImplicit false

namespace Gazette

namespace Tables

/-- The tags of an article, in the order in which they were attached. -/
def tagRows (tables : Tables) (articleId : Int64) : List Row :=
  (tables.links.filter fun row => row.articleId = .integer articleId).filterMap fun row =>
    (tables.tag? row.tagId).map TagRow.columns

/-- The links of some articles with their tags, in the order in which they were attached. -/
def linkRows (tables : Tables) (articleIds : List Int64) : List Row :=
  let wanted := articleIds.map Cell.integer
  (tables.links.filter fun row => row.articleId ∈ wanted).filterMap tables.linkColumns?

/-- Whether an article carries one of some tags. -/
def carriesAny (tables : Tables) (names : List String) (row : ArticleRow) : Bool :=
  tables.links.any fun link => link.articleId = .integer row.id &&
    tables.tags.any fun tag =>
      link.tagId = .integer tag.id && names.any fun name => tag.name = .text name

/-- Whether an article's author has a username. -/
def writtenBy (tables : Tables) (username : String) (row : ArticleRow) : Bool :=
  tables.accounts.any fun account =>
    row.authorId = .integer account.id && account.username = .text username

/-- Whether an article passes the filter of a listing. -/
def passes (tables : Tables) (criteria : ArticleCriteria) (row : ArticleRow) : Bool :=
  row.isActive && (criteria.tags = [] || tables.carriesAny criteria.tags row) &&
    match criteria.author with
    | some username => tables.writtenBy username row
    | none => true

/-- The ids of the articles that pass the filter of a listing, the newest first. -/
def matchingIds (tables : Tables) (criteria : ArticleCriteria) : List Int64 :=
  ((tables.articles.filter (tables.passes criteria)).map ArticleRow.id).reverse

end Tables

namespace Database

/-- How errors call an article. -/
def articleEntity : String := "Article"

/-- How errors call a tag. -/
def tagEntity : String := "Tag"

/-- The tag with a name, which is added if it is new. -/
def saveTag (name : String) : Session Database Tag := do
  Engine.about (execute [.itself .tags] fun triggers => Tables.upsertTag triggers name)
    tagEntity name
  Engine.about (query [.tags] fun tables =>
    firstRow Row.tag
      ((tables.tags.filter fun row => row.name = .text name).map TagRow.columns)) tagEntity name

/-- The tags of an article. -/
def findTags (articleId : Int64) : Session Database (List Tag) :=
  Engine.about (query [.tags, .articleTags] fun tables =>
    (tables.tagRows articleId).mapM Row.tag) tagEntity (toString articleId.toInt)

/-- Finds the active article with a slug. -/
def findArticle (slug : String) : Session Database Article := do
  let article ← Engine.about (query [.articles, .accounts] fun tables =>
    firstRow Row.article ((tables.activeWithSlug slug).filterMap tables.articleColumns?))
    articleEntity slug
  let tags ← findTags article.id
  return { article with tags }

/-- Saves an article in a unit of work that is already open. -/
def insertArticle (article : NewArticle) : Session Database Article := do
  if article.slug = "" then
    throw (.invalidData ("title " ++ quoted article.title ++ " yields an empty slug"))
  let tags ← article.tags.mapM saveTag
  let stamp ← now
  let id ← Engine.about (statement [.itself .articles, .referred .accounts] fun triggers =>
    Tables.insertArticle triggers article (.text stamp.stored)) articleEntity article.slug
  for tag in tags do
    Engine.about (execute [.itself .articleTags, .referred .tags, .referred .articles]
      fun triggers => Tables.insertLink triggers id tag.id) tagEntity tag.name
  findArticle article.slug

/-- Deletes the author's article with a slug in a unit of work that is already open. -/
def removeArticle (authorId : Int64) (slug : String) : Session Database Unit := do
  let stamp ← now
  let removed ← Engine.about (statement [.itself .articles] fun triggers =>
    Tables.tombstoneArticle triggers authorId slug (.integer (Int64.ofInt stamp.unix))
      (.text stamp.stored)) articleEntity slug
  match removed with
  | none => throw (.notFound articleEntity slug)
  | some id =>
    Engine.about (execute [.itself .articleTags, .referred .tags, .referred .articles]
      fun triggers => Tables.deleteLinks triggers id) articleEntity slug

/-- A list cut into batches of the given size, which counts as one if it is zero. -/
def batches {α : Type} (size : Nat) (items : List α) : List (List α) :=
  match items with
  | [] => []
  | item :: rest =>
    (item :: rest.take (size - 1)) :: batches size (rest.drop (size - 1))
termination_by items.length

/-- Attaches a tag to the article with an id. -/
def attachTag (articles : List Article) (link : Int64 × Tag) : List Article :=
  articles.map fun article =>
    if article.id = link.1 then { article with tags := article.tags ++ [link.2] } else article

/-- An engine operation as part of reading a listing. -/
def inListing {α : Type} (operation : Engine α) : Session Database α :=
  Engine.about operation articleEntity "list"

/-- The tables that the filter of a listing reads. -/
def filterTables (criteria : ArticleCriteria) : List TableName :=
  [.articles] ++ (if criteria.tags = [] then [] else [.articleTags, .tags]) ++
    (if criteria.author.isSome then [.accounts] else [])

/-- Lists the articles that the criteria choose, with the number of all that pass the filter. -/
def listArticles (tagBatch : Nat) (criteria : ArticleCriteria) : Session Database Listing := do
  let total ← inListing (query (filterTables criteria) fun tables =>
    .ok (tables.matchingIds criteria).length)
  let ids ← inListing (query (filterTables criteria) fun tables =>
    .ok (((tables.matchingIds criteria).drop criteria.offset.toNat).take criteria.limit.toNat))
  if ids = [] then return ⟨[], total⟩
  let bare ← inListing (query [.articles, .accounts] fun tables =>
    (((tables.articles.filter fun row => row.id ∈ ids).reverse).filterMap
      tables.articleColumns?).mapM Row.article)
  let links ← (batches tagBatch ids).mapM fun batch =>
    inListing (query [.articleTags, .tags] fun tables =>
      (tables.linkRows batch).mapM Row.articleTag)
  return ⟨links.flatten.foldl attachTag bare, total⟩

end Database

end Gazette
