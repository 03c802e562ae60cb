/-!
# Texts cut at a separator

A text is cut at every place where a separator stands, or only at the first one.  The
separators themselves are left out.
-/

set_option autoImplicit false

namespace Gazette.Parts

/-- The parts of a text between its separators.  There is always at least one part. -/
def all (separator : Char) : List Char → List (List Char)
  | [] => [[]]
  | c :: rest =>
    if c = separator then [] :: all separator rest
    else
      match all separator rest with
      | [] => [[c]]
      | part :: parts => (c :: part) :: parts

/-- The text before the first separator, and the text after it if there is a separator. -/
def first (separator : Char) (text : List Char) : List Char × Option (List Char) :=
  let front := text.takeWhile (· ≠ separator)
  match text.drop front.length with
  | [] => (front, none)
  | _ :: rest => (front, some rest)

/-- The text before the last separator, if there is a separator, and the text after it. -/
def last (separator : Char) (text : List Char) : Option (List Char) × List Char :=
  let (back, front) := first separator text.reverse
  (front.map List.reverse, back.reverse)

end Gazette.Parts
