import Gazette.Text.Transliteration

/-!
# Slugs

A slug names an article inside a link.  It is made from the title: every character
is first spelled in ASCII, then letters and digits are kept in lower case, and each
run of anything else becomes one hyphen between two kept characters.  No hyphen
stands at either end, so a title without letters and digits has the empty slug.
-/

set_option autoImplicit false

namespace Gazette.Slug

/-- A character that a slug keeps: an ASCII letter or digit. -/
def keeps (c : Char) : Bool :=
  c.isAlphanum

/-- The ASCII spelling of one character.  A character without a spelling counts as one
separator. -/
def spell (c : Char) : List Char :=
  if c.toNat < 128 then [c]
  else match Transliteration.ascii? c with
    | some text => text.toList
    | none => ['-']

/-- The kept characters in lower case, with one hyphen for each run of others between two
of them.  The flag tells that such a run has been passed since the last kept character. -/
def join : Bool → List Char → List Char
  | _, [] => []
  | gap, c :: rest =>
    if keeps c then
      if gap then '-' :: c.toLower :: join false rest else c.toLower :: join false rest
    else join true rest

/-- The slug of an ASCII spelling: what stands before the first kept character is dropped. -/
def ofSpelling (spelling : List Char) : List Char :=
  join false (spelling.dropWhile fun c => !keeps c)

end Gazette.Slug

namespace Gazette

/-- The slug of a title. -/
def slugify (title : String) : String :=
  String.ofList (Slug.ofSpelling (title.toList.flatMap Slug.spell))

end Gazette
