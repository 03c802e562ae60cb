import Gazette.Cache.Remote
import Gazette.Url.Basic

/-!
# Addresses of cache servers

The address of a server is a URL.  A server in the network has a host, perhaps the number of
the service on the host, and perhaps the number of a database as its path.  A server on the
same machine has the path of a file, and its query may give the number of a database.
-/

set_option autoImplicit false

namespace Gazette

/-- Where a server listens: at a service number of a host, or at a file. -/
inductive RemoteSite where
  | network (host : String) (service : Nat)
  | file (path : String)
  deriving DecidableEq

/-- The address of a server. -/
structure RemoteAddress where
  site : RemoteSite
  database : Int64 := 0
  username : Option String := none
  password : Option String := none
  version : Nat := 2
  deriving DecidableEq

namespace RemoteAddress

/-- The refusal of an address. -/
def refusal (text : String) (detail : Option String := none) : RemoteFailure :=
  .described "InvalidClientConfig" text detail

/-- The schemes of servers in the network.  The second one asks for encryption. -/
def networkSchemes : List String := ["redis", "rediss"]

/-- The scheme that asks for encryption. -/
def encryptedScheme : String := "rediss"

/-- The schemes of servers on the same machine. -/
def fileSchemes : List String := ["redis+unix", "unix"]

/-- The service number of servers that listen where servers usually do. -/
def usualService : Nat := 6379

/-- The number of a database. -/
def readDatabase (text : List Char) : Except RemoteFailure Int64 :=
  match Decimal.int64? text with
  | some value => .ok value
  | none => .error (refusal "Invalid database number")

/-- The number of the database that a path names. -/
def databaseOfPath (path : List Char) : Except RemoteFailure Int64 :=
  match ((path.dropWhile (· = '/')).reverse.dropWhile (· = '/')).reverse with
  | [] => .ok 0
  | name => readDatabase name

/-- A part of the user's credentials, which may be empty. -/
def credential (kind : String) (text : List Char) : Except RemoteFailure (Option String) :=
  match text, Utf8.text? (Percent.decode (Utf8.bytes (String.ofList text))) with
  | [], _ => .ok none
  | _, some text => .ok (some text)
  | _, none => .error (refusal (kind ++ " is not valid UTF-8 string"))

/-- The version of the protocol that a URL asks for. -/
def protocolVersion (url : Url) : Except RemoteFailure Nat :=
  match url.parameter? "protocol" with
  | none => .ok 2
  | some text =>
    if text = "2" ∨ text = "resp2" then .ok 2
    else if text = "3" ∨ text = "resp3" then .ok 3
    else .error (refusal "Invalid protocol version" (some text))

/-- The address of a server in the network. -/
def ofNetwork (url : Url) : Except RemoteFailure RemoteAddress := do
  let host ← match url.host with
    | some host => pure (String.ofList host)
    | none => throw (refusal "Missing hostname")
  if url.scheme = encryptedScheme then
    throw (refusal "can't connect with TLS, the feature is not enabled")
  let database ← databaseOfPath url.path
  let username ← credential "Username" url.username
  let password ← credential "Password" url.password
  let version ← protocolVersion url
  return { site := .network host (url.service.getD usualService), database, username, password
           version }

/-- Whether a URL can name a file: it has a path from the root, and no other host. -/
def namesFile (url : Url) : Bool :=
  url.path.head? = some '/' && (url.host.map String.ofList).getD "localhost" = "localhost"

/-- The address of a server on the same machine. -/
def ofFile (url : Url) : Except RemoteFailure RemoteAddress := do
  if !namesFile url then throw (refusal "Missing path")
  let database ← match url.parameter? "db" with
    | some text => readDatabase text.toList
    | none => pure 0
  let version ← protocolVersion url
  return { site := .file (Utf8.mended (Percent.decode (Utf8.bytes (String.ofList url.path))))
           database, username := url.parameter? "user", password := url.parameter? "pass"
           version }

/-- Reads an address. -/
def read (text : String) : Except RemoteFailure RemoteAddress :=
  match Url.read? text with
  | some url =>
    if url.scheme ∈ networkSchemes then ofNetwork url
    else if url.scheme ∈ fileSchemes then ofFile url
    else .error (refusal "Redis URL did not parse")
  | none => .error (refusal "Redis URL did not parse")

end RemoteAddress

end Gazette
