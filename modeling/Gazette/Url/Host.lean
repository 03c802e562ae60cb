import Gazette.Number.Decimal
import Gazette.Text.Parts

/-!
# Hosts

A host is a name, which only has to avoid some characters, or a number in brackets: eight
groups of hexadecimal digits between colons.  Two colons without a group between them stand
for groups of zeros, and the last two groups can be written as four decimal numbers.
-/

set_option autoImplicit false

namespace Gazette.Host

/-- The characters that no name contains. -/
def forbidden : List Char :=
  ['\x00', '\t', '\n', '\r', ' ', '#', '/', ':', '<', '>', '?', '@', '[', '\\', ']', '^', '|']

/-- Whether a text is a name. -/
def isName (text : List Char) : Bool :=
  text.all fun c => c ∉ forbidden

/-- Whether a text is a group of one to four hexadecimal digits. -/
def isGroup (text : List Char) : Bool :=
  text ≠ [] && text.length ≤ 4 &&
    text.all fun c => c.isDigit || ('a' ≤ c.toLower && c.toLower ≤ 'f')

/-- Whether a text is a decimal number below 256 without needless zeros. -/
def isOctet (text : List Char) : Bool :=
  match Decimal.digits? text with
  | some n => n < 256 && (text.length = 1 || text.head? ≠ some '0')
  | none => false

/-- Whether a text consists of four decimal numbers between points. -/
def isDotted (text : List Char) : Bool :=
  let octets := Parts.all '.' text
  octets.length = 4 && octets.all isOctet

/-- How many groups a text without a gap names, if it does.  The four decimal numbers that may
end it count as two. -/
def groups? (text : List Char) : Option Nat :=
  let groups := if text = [] then [] else Parts.all ':' text
  if groups.all isGroup then some groups.length
  else
    match groups.getLast? with
    | some last =>
      if groups.dropLast.all isGroup && isDotted last then some (groups.length + 1) else none
    | none => none

/-- The texts before and after the first gap between two colons. -/
def atGap? : List Char → Option (List Char × List Char)
  | ':' :: ':' :: rest => some ([], rest)
  | c :: rest => (atGap? rest).map fun (front, back) => (c :: front, back)
  | [] => none

/-- Whether a text is the number of a host. -/
def isNumber (text : List Char) : Bool :=
  match atGap? text with
  | none => groups? text = some 8
  | some (front, back) =>
    match groups? front, groups? back with
    | some before, some after => '.' ∉ front && before + after < 8
    | _, _ => false

/-- Whether a text names a host. -/
def isValid (text : List Char) : Bool :=
  match text with
  | '[' :: rest => rest.getLast? = some ']' && isNumber rest.dropLast
  | _ => isName text

/-- A host and what follows it, from the first colon that is not inside brackets on. -/
def cut (inside : Bool) : List Char → List Char × List Char
  | [] => ([], [])
  | c :: rest =>
    if c = ':' && !inside then ([], c :: rest)
    else
      let (host, after) := cut (c = '[' || (inside && c ≠ ']')) rest
      (c :: host, after)

end Gazette.Host
