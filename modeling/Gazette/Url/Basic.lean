import Gazette.Url.Host
import Gazette.Url.Percent

/-!
# URLs

A URL is a scheme, perhaps a host with a user and a service number, a path, and perhaps a
query.  The schemes meant here give the host and the path no meaning of their own.
-/

set_option autoImplicit false

namespace Gazette

/-- The parts of a URL as they are written.  A path that begins with a slash has no segments
that only stand for a place relative to another one. -/
structure Url where
  scheme : String
  username : List Char := []
  password : List Char := []
  host : Option (List Char) := none
  service : Option Nat := none
  path : List Char := []
  query : List Char := []
  deriving DecidableEq

namespace Url

/-- The largest service number. -/
def lastService : Nat := 65535

/-- Whether a character ends the part of a URL that names the host. -/
def endsAuthority (c : Char) : Bool :=
  c = '/' || c = '?' || c = '#'

/-- Whether a segment of a path stands for the place where it is. -/
def isHere (segment : List Char) : Bool :=
  String.ofList (segment.map Char.toLower) ∈ [".", "%2e"]

/-- Whether a segment of a path stands for the place above. -/
def isAbove (segment : List Char) : Bool :=
  String.ofList (segment.map Char.toLower) ∈ ["..", ".%2e", "%2e.", "%2e%2e"]

/-- The segments of a path in reverse order, after those in `done`, without the ones that stand
for a place relative to another one. -/
def settle (done : List (List Char)) : List (List Char) → List (List Char)
  | [] => done
  | [segment] =>
    if isAbove segment then [] :: done.drop 1
    else if isHere segment then [] :: done
    else segment :: done
  | segment :: rest =>
    if isAbove segment then settle (done.drop 1) rest
    else if isHere segment then settle done rest
    else settle (segment :: done) rest

/-- A path without the segments that stand for a place relative to another one. -/
def settled (path : List Char) : List Char :=
  match path with
  | '/' :: rest => (settle [] (Parts.all '/' rest)).reverse.flatMap fun segment => '/' :: segment
  | _ => path

/-- A URL with the path and the query that a text gives. -/
def withPath (url : Url) (text : List Char) : Url :=
  let (path, query) := Parts.first '?' (text.takeWhile (· ≠ '#'))
  { url with path := settled path, query := query.getD [] }

/-- The service number after a host, and what follows it.  Digits end where the part of the
URL ends, or at a backslash, with which a path begins. -/
def service? (text : List Char) : Option (Option Nat × List Char) :=
  match text with
  | ':' :: rest =>
    let digits := rest.takeWhile Char.isDigit
    let after := rest.drop digits.length
    let service := Decimal.digits? digits
    if (after = [] || after.head? = some '\\') && service.getD 0 ≤ lastService then
      some (service, if after = [] then [] else '/' :: after)
    else none
  | _ => some (none, [])

/-- A URL whose scheme is followed by two slashes. -/
def ofAuthority? (scheme : String) (text : List Char) : Option Url := do
  let authority := text.takeWhile fun c => !endsAuthority c
  let after := text.drop authority.length
  let (user, site) := Parts.last '@' authority
  if user = some [] && site = [] && after ≠ [] then none
  let (username, password) := Parts.first ':' (user.getD [])
  let named := username ≠ [] || password.getD [] ≠ []
  let (host, rest) := Host.cut false site
  if !Host.isValid host || (host = [] && (named || rest ≠ [])) then none
  let (service, path) ← service? rest
  let url : Url :=
    { scheme, username, password := password.getD [], service
      host := if host = [] then none else some host }
  return url.withPath (path ++ after)

/-- A text cut at its first colon, if what stands before is a scheme. -/
def scheme? (text : List Char) : Option (String × List Char) :=
  let scheme := text.takeWhile fun c => c.isAlphanum || c = '+' || c = '-' || c = '.'
  match scheme, text.drop scheme.length with
  | c :: _, ':' :: rest =>
    if c.isAlpha then some (String.ofList (scheme.map Char.toLower), rest) else none
  | _, _ => none

/-- The URL that a text is.  Blanks and controls around it do not count, and neither do tabs
and ends of lines inside it. -/
def read? (text : String) : Option Url := do
  let isBlank (c : Char) : Bool := c.toNat ≤ 0x20
  let trimmed := ((text.toList.dropWhile isBlank).reverse.dropWhile isBlank).reverse
  let (scheme, rest) ← scheme? (trimmed.filter fun c => c ≠ '\t' && c ≠ '\n' && c ≠ '\r')
  match rest with
  | '/' :: '/' :: rest => ofAuthority? scheme rest
  | _ => some (Url.withPath { scheme } rest)

/-- A name or a value of a query in plain text. -/
def parameterText (text : List Char) : String :=
  let spaced := text.map fun c => if c = '+' then ' ' else c
  Utf8.mended (Percent.decode (Utf8.bytes (String.ofList spaced)))

/-- The names and values that the query gives. -/
def parameters (url : Url) : List (String × String) :=
  ((Parts.all '&' url.query).filter (· ≠ [])).map fun part =>
    let (name, value) := Parts.first '=' part
    (parameterText name, parameterText (value.getD []))

/-- The value that the query gives to a name.  The last one counts. -/
def parameter? (url : Url) (name : String) : Option String :=
  url.parameters.reverse.lookup name

end Url

end Gazette
