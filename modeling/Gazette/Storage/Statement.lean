import Gazette.Article

/-!
# Statement texts

The statements whose text depends on the input: partial updates, filtered listings and
lists of ids.  Values never become part of a text; they are passed as parameters, and a text
depends only on how many there are.
-/

set_option autoImplicit false

namespace Gazette.Statement

/-- The update of an account by email.  The given columns come first, then the update stamp;
the email is the last parameter. -/
def updateAccount (columns : List String) : String :=
  let sets := columns.zipIdx.map fun (column, i) => column ++ " = ?" ++ toString (i + 1)
  let stamp := "updated_at = ?" ++ toString (columns.length + 1)
  "UPDATE accounts SET " ++ ", ".intercalate (sets ++ [stamp]) ++ " WHERE email = ?" ++
    toString (columns.length + 2)

/-- Placeholders for a list of values. -/
def placeholders (count : Nat) : String :=
  ", ".intercalate (List.replicate count "?")

/-- The joins and conditions of a listing together with the parameters that they take. -/
structure Filter where
  text : String
  parameters : List String
  deriving DecidableEq

/-- The filter of a listing.  Tables are joined only for the conditions in use. -/
def articleFilter (criteria : ArticleCriteria) : Filter :=
  let tagJoin :=
    if criteria.tags = [] then ""
    else " JOIN article_tags ats ON ats.article_id = a.id JOIN tags t ON t.id = ats.tag_id"
  let tagCondition :=
    if criteria.tags = [] then []
    else ["t.name IN (" ++ placeholders criteria.tags.length ++ ")"]
  let authorJoin :=
    if criteria.author.isSome then " JOIN accounts au ON au.id = a.author_id" else ""
  let authorCondition := if criteria.author.isSome then ["au.username = ?"] else []
  { text := "FROM articles a" ++ tagJoin ++ authorJoin ++ " WHERE " ++
      " AND ".intercalate ("a.deleted_at_unix = 0" :: (tagCondition ++ authorCondition))
    parameters := criteria.tags ++ criteria.author.toList }

/-- The count of the distinct articles that pass a filter. -/
def countArticles (filter : String) : String :=
  "SELECT COUNT(DISTINCT a.id) " ++ filter

/-- One page of the ids of the articles that pass a filter, the newest first. -/
def selectArticleIds (filter : String) : String :=
  "SELECT DISTINCT a.id " ++ filter ++ " ORDER BY a.id DESC LIMIT ? OFFSET ?"

/-- The columns of an article with its author. -/
def articleColumns : String :=
  "a.id, a.slug, a.title, a.body, a.created_at, a.updated_at, a.deleted_at_unix, u.id, " ++
    "u.username, u.bio, u.image"

/-- The articles with the given number of ids. -/
def selectArticlesByIds (count : Nat) : String :=
  "SELECT " ++ articleColumns ++ " FROM articles a JOIN accounts u ON u.id = a.author_id " ++
    "WHERE a.id IN (" ++ placeholders count ++ ") ORDER BY a.id DESC"

/-- The tags of the articles with the given number of ids. -/
def selectTagsByArticleIds (count : Nat) : String :=
  "SELECT ats.article_id, t.id, t.name FROM article_tags ats JOIN tags t ON t.id = ats.tag_id " ++
    "WHERE ats.article_id IN (" ++ placeholders count ++ ") ORDER BY ats.rowid"

end Gazette.Statement
