import Gazette.Text.Parts
import Gazette.Url.Percent

/-!
# Locations of databases

A location is the path of a file, or a URI of the form `file:path?name=value&…`, whose
parameters tell how the file is used.  A database can also be private: it has no file and lives
as long as its connection.
-/

set_option autoImplicit false

namespace Gazette

/-- How a database is used: for reading, for reading and writing, with a file that is made if
there is none, or in memory. -/
inductive DatabaseAccess where
  | read
  | write
  | create
  | memory
  deriving DecidableEq

/-- Where a database is, and how it is used. -/
structure Location where
  file : String
  access : DatabaseAccess := .create
  fileSystem : String := "unix"
  deriving DecidableEq

/-- Why a location makes no sense. -/
inductive LocationFault where
  | nul (position : Nat)
  | authority (text : String)
  | unknown (kind text : String)
  | forbidden (access : String)
  deriving DecidableEq

/-- The wording of a fault. -/
def LocationFault.message : LocationFault → String
  | .nul position => "nul byte found in provided data at position: " ++ toString position
  | .authority text => "invalid uri authority: " ++ text
  | .unknown kind text => "no such " ++ kind ++ ": " ++ text
  | .forbidden access => "access mode not allowed: " ++ access

namespace DatabaseAccess

/-- The names of the ways to use a database. -/
def names : List (String × DatabaseAccess) :=
  [("ro", .read), ("rw", .write), ("rwc", .create), ("memory", .memory)]

/-- Whether one way can be chosen after another.  None can be widened, except that everything
is possible after and before the choice of memory. -/
def allows : DatabaseAccess → DatabaseAccess → Bool
  | _, .memory | .memory, _ | .create, _ | _, .read | .write, .write => true
  | .read, _ | .write, .create => false

end DatabaseAccess

namespace Location

/-- The file systems that are known. -/
def fileSystems : List String :=
  ["unix", "unix-none", "unix-dotfile", "unix-excl", "memdb"]

/-- The file system that keeps its files in memory. -/
def memorySystem : String := "memdb"

/-- The ways to share what has been read. -/
def cacheModes : List String := ["shared", "private"]

/-- Whether a database has no file. -/
def isPrivate (location : Location) : Bool :=
  location.access = .memory || location.file = "" || location.file = ":memory:" ||
    location.fileSystem = memorySystem

/-- A part of a URI in plain text.  It ends at a byte zero, if one is spelled in it. -/
def plain (part : List Char) : String :=
  let payload := Percent.decode (Utf8.bytes (String.ofList part))
  Utf8.mended (payload.takeWhile (· ≠ 0))

/-- A location after a parameter of its URI. -/
def withParameter (location : Location) (name value : String) : Except LocationFault Location :=
  match name with
  | "vfs" => .ok { location with fileSystem := value }
  | "cache" =>
    if value ∈ cacheModes then .ok location else .error (.unknown "cache mode" value)
  | "mode" =>
    match DatabaseAccess.names.lookup value with
    | some access =>
      if location.access.allows access then .ok { location with access }
      else .error (.forbidden value)
    | none => .error (.unknown "access mode" value)
  | _ => .ok location

/-- The parameters that the query of a URI gives.  Those without a name do not count. -/
def parameters (query : List Char) : List (String × String) :=
  let pairs := (Parts.all '&' query).map fun part =>
    let (name, value) := Parts.first '=' part
    (plain name, plain (value.getD []))
  pairs.filter fun pair => pair.1 ≠ ""

/-- A URI without its authority, which can only be this machine. -/
def afterAuthority (text : List Char) : Except LocationFault (List Char) :=
  match text with
  | '/' :: '/' :: rest =>
    let authority := String.ofList (rest.takeWhile (· ≠ '/'))
    if authority = "" ∨ authority = "localhost" then .ok (rest.dropWhile (· ≠ '/'))
    else .error (.authority authority)
  | _ => .ok text

/-- The location that the text of a URI after `file:` names. -/
def ofUri (text : List Char) : Except LocationFault Location := do
  let site ← afterAuthority text
  let (path, query) := Parts.first '?' (site.takeWhile (· ≠ '#'))
  let location ← (parameters (query.getD [])).foldlM
    (fun location (name, value) => withParameter location name value) { file := plain path }
  if location.fileSystem ∉ fileSystems then throw (.unknown "vfs" location.fileSystem)
  return location

/-- Reads a location. -/
def read (text : String) : Except LocationFault Location :=
  let payload := Utf8.bytes text
  if 0 ∈ payload then .error (.nul (payload.takeWhile (· ≠ 0)).length)
  else
    match text.toList with
    | 'f' :: 'i' :: 'l' :: 'e' :: ':' :: rest => ofUri rest
    | _ => .ok { file := text }

end Location

end Gazette
