import Gazette.Number.Layout
import Gazette.Number.Numeral
import Gazette.Number.Rounded
import Gazette.Storage.Tables

/-!
# Restoring rows

A row that comes from elsewhere is put into its table as it is, whether its references and
its values make sense or not.  A column has a preferred kind of value, and turns into it what
can be turned into it without loss.  Columns that are left out take their defaults.
-/

set_option autoImplicit false

namespace Gazette

/-- The columns that are given for a row. -/
abbrev GivenColumns := List (String × Cell)

namespace Cell

/-- Real numbers become texts of at most fifteen digits, positional while the leading digit
stands between the fourth place after the point and the fifteenth before it. -/
def realLayout : NumberLayout := ⟨-4, 14, 2, true⟩

/-- The text of a real number. -/
def realText (bits : UInt64) : String :=
  if Binary.isZero bits then "0.0"
  else
    let digits := realLayout.decimal ((Binary.ofBits bits).rounded 15)
    String.ofList (if Binary.isNegative bits then '-' :: digits else digits)

/-- A real number, or the integer that it is if that is neither the least nor the greatest of
64 bits. -/
def ofReal (value : Float) : Cell :=
  if value.floor == value && value.abs < 9223372036854775808.0 then .integer value.toInt64
  else .real value.toBits

/-- The number that a text spells, or the text. -/
def ofSpelling (text : String) : Cell :=
  match Numeral.read? text.toList with
  | some numeral => (numeral.int64?.map Cell.integer).getD (ofReal numeral.double)
  | none => .text text

/-- What a column of texts makes of a value. -/
def inTextColumn : Cell → Cell
  | .integer value => .text (toString value.toInt)
  | .real bits => .text (realText bits)
  | cell => cell

/-- What a column of integers makes of a value. -/
def inIntegerColumn : Cell → Cell
  | .text value => ofSpelling value
  | .real bits => ofReal (Float.ofBits bits)
  | cell => cell

end Cell

namespace GivenColumns

/-- A column of texts. -/
def text (given : GivenColumns) (name : String) (standard : Cell) : Cell :=
  ((given.lookup name).getD standard).inTextColumn

/-- A column of integers. -/
def integer (given : GivenColumns) (name : String) (standard : Int64) : Cell :=
  ((given.lookup name).getD (.integer standard)).inIntegerColumn

/-- The column that gives the id of the row itself. -/
def id (given : GivenColumns) (name : String) (standard : Int64) : Int64 :=
  match given.integer name standard with
  | .integer value => value
  | _ => standard

end GivenColumns

namespace Tables

/-- Puts a row with the given columns into a table. -/
def restore (tables : Tables) (name : TableName) (given : GivenColumns) : Tables :=
  match name with
  | .accounts =>
    let row : AccountRow :=
      { id := given.id "id" (tables.lastAccount + 1)
        username := given.text "username" .null
        email := given.text "email" .null
        password := given.text "password" .null
        bio := given.text "bio" (.text "")
        image := given.text "image" (.text "")
        disabled := given.integer "disabled" 0
        createdAt := given.text "created_at" .null
        updatedAt := given.text "updated_at" .null }
    { tables with
      accounts := place AccountRow.id row tables.accounts
      lastAccount := max tables.lastAccount row.id }
  | .articles =>
    let row : ArticleRow :=
      { id := given.id "id" (tables.lastArticle + 1)
        slug := given.text "slug" .null
        title := given.text "title" .null
        body := given.text "body" .null
        authorId := given.integer "author_id" 0
        createdAt := given.text "created_at" .null
        updatedAt := given.text "updated_at" .null
        deletedAtUnix := given.integer "deleted_at_unix" 0 }
    { tables with
      articles := place ArticleRow.id row tables.articles
      lastArticle := max tables.lastArticle row.id }
  | .tags =>
    let row : TagRow :=
      { id := given.id "id" (tables.lastTag + 1), name := given.text "name" .null }
    { tables with
      tags := place TagRow.id row tables.tags
      lastTag := max tables.lastTag row.id }
  | .articleTags =>
    let row : LinkRow :=
      { id := given.id "rowid" tables.nextLink
        articleId := given.integer "article_id" 0
        tagId := given.integer "tag_id" 0 }
    { tables with links := place LinkRow.id row tables.links }
  | .comments =>
    let row : CommentRow :=
      { id := given.id "id" (tables.lastComment + 1)
        body := given.text "body" .null
        slug := given.text "slug" .null
        authorId := given.integer "author_id" 0
        createdAt := given.text "created_at" .null
        updatedAt := given.text "updated_at" .null
        deletedAt := given.text "deleted_at" .null }
    { tables with
      comments := place CommentRow.id row tables.comments
      lastComment := max tables.lastComment row.id }

end Tables

end Gazette
