import Gazette.Storage.Location
import Gazette.Storage.Repository

/-!
# Opening a database

A database is opened at a location.  A private one is always new; any other is a file, which
may be made if it does not exist, in a directory that has to exist.
-/

set_option autoImplicit false

namespace Gazette

/-- What is known of the file system: the working directory, further directories, directories
in which no files can be made, and the files that are there but hold no database. -/
structure FileTree where
  working : List String := ["home", "work"]
  directories : List (List String) :=
    [["bin"], ["boot"], ["dev", "shm"], ["etc"], ["home"], ["lib"], ["media"], ["mnt"], ["opt"],
      ["root"], ["run"], ["sbin"], ["srv"], ["tmp"], ["usr", "bin"], ["usr", "lib"],
      ["usr", "local", "bin"], ["usr", "local", "lib"], ["usr", "sbin"], ["usr", "share"],
      ["var", "lib"], ["var", "log"], ["var", "tmp"]]
  sealedDirectories : List (List String) := [["proc"], ["sys"]]
  strangers : List (List String) := [["etc", "passwd"], ["etc", "hosts"], ["etc", "group"]]

namespace FileTree

/-- The largest size of a name in bytes. -/
def largestName : Nat := 255

/-- The largest size of a path in bytes. -/
def largestPath : Nat := 504

/-- The names on the way from the root to a file. -/
def names (files : FileTree) (path : String) : List String :=
  let start := if path.startsWith "/" then [] else files.working
  (Parts.all '/' path.toList).foldl
    (fun names part =>
      match String.ofList part with
      | "" | "." => names
      | ".." => names.dropLast
      | name => names ++ [name]) start

/-- Whether a directory exists. -/
def hasDirectory (files : FileTree) (names : List String) : Bool :=
  (files.working :: files.directories ++ files.sealedDirectories).any names.isPrefixOf

/-- Whether a file has names that are short enough. -/
def isShort (names : List String) : Bool :=
  names.all (·.utf8ByteSize ≤ largestName) &&
    names.foldl (fun size name => size + 1 + name.utf8ByteSize) 0 ≤ largestPath

/-- Whether a file can be made. -/
def canMake (files : FileTree) (names : List String) : Bool :=
  !files.hasDirectory names && files.hasDirectory names.dropLast && isShort names &&
    !files.sealedDirectories.any (·.isPrefixOf names)

end FileTree

namespace Database

/-- How the driver of the engine shows an error. -/
def driverText (text : String) : String :=
  "Rusqlite(\"" ++ text ++ "\")"

/-- The error of a file that cannot be opened. -/
def cannotOpen (path : String) : StorageError :=
  .connectionFailed (driverText ("unable to open database file: " ++ path))

/-- The error of a directory that is read like a file. -/
def cannotRead : StorageError :=
  .connectionFailed (driverText "disk I/O error")

/-- The error of a file that is not a database. -/
def notDatabase : StorageError :=
  .queryFailed (driverText "file is not a database")

/-- The error of a new database that must not be written. -/
def cannotWrite : StorageError :=
  .queryFailed (driverText "attempt to write a readonly database")

/-- Opens the database at a path.  A new database is empty. -/
def openAt (files : FileTree) (clock : Nat → Instant) (path : String) :
    Except StorageError Database :=
  match Location.read path with
  | .error fault => .error (.connectionFailed (driverText fault.message))
  | .ok location =>
    let names := files.names location.file
    if location.isPrivate then
      if location.access = .read then .error cannotWrite else .ok { clock }
    else if names ∈ files.strangers then .error notDatabase
    else if location.access = .read && names ≠ [] && files.hasDirectory names then
      .error cannotRead
    else if location.access = .create && files.canMake names then .ok { clock }
    else .error (cannotOpen path)

end Database

end Gazette
