import Gazette.Cache.Backend
import Gazette.Number.Decimal
import Gazette.Text.Parts
import Gazette.Text.Quoted

/-!
# The cache on a server

A cache can live on a server that is spoken to by commands and answers with replies.  Each
operation of the cache is one command.  Lengths of time are rounded down to thousandths of a
second, but never to zero, which the server would refuse.
-/

set_option autoImplicit false

namespace Gazette

/-- A command to the server. -/
inductive RemoteCommand where
  | get (key : String)
  | set (key : String) (value : Payload)
  | setFor (key : String) (millis : Nat) (value : Payload)
  | contains (key : String)
  | delete (key : String)
  deriving DecidableEq

/-- The words of a command as they are sent. -/
def RemoteCommand.words : RemoteCommand → List Payload
  | .get key => [Utf8.bytes "GET", Utf8.bytes key]
  | .set key value => [Utf8.bytes "SET", Utf8.bytes key, value]
  | .setFor key millis value =>
    [Utf8.bytes "PSETEX", Utf8.bytes key, Utf8.bytes (toString millis), value]
  | .contains key => [Utf8.bytes "EXISTS", Utf8.bytes key]
  | .delete key => [Utf8.bytes "DEL", Utf8.bytes key]

/-- A reply of the server. -/
inductive RemoteReply where
  | nothing
  | bulk (payload : Payload)
  | integer (value : Int)
  | status (text : String)
  | error (text : String)
  deriving DecidableEq

/-- What can go wrong with the transport to the server. -/
inductive TransportFault where
  | refused
  | notFound
  | timedOut
  | wouldBlock
  | brokenPipe
  | reset
  | endOfInput
  | other
  deriving DecidableEq

/-- A failure in dealing with the server: of the transport, or of a kind that has a name and a
description and may have details, or one that the server has named itself. -/
inductive RemoteFailure where
  | transport (fault : TransportFault) (text : String)
  | described (kind text : String) (detail : Option String)
  | named (code text : String)
  deriving DecidableEq

namespace RemoteFailure

/-- The wording of a failure. -/
def message : RemoteFailure → String
  | .transport _ text => text
  | .described kind text none => text ++ "- " ++ kind
  | .described kind text (some detail) => text ++ " - " ++ kind ++ ": " ++ detail
  | .named code text => code ++ ": " ++ text

/-- Whether the server could not be reached, did not answer in time, or has gone. -/
def isConnectionFailure : RemoteFailure → Bool
  | .transport .other _ => false
  | .transport _ _ => true
  | _ => false

/-- The cache error for a failure. -/
def cacheError (failure : RemoteFailure) : CacheError :=
  if failure.isConnectionFailure then .connectionFailed failure.message
  else .operationFailed failure.message

/-- The codes of error replies that have a name. -/
def kinds : List (String × String) :=
  [("ERR", "ResponseError"), ("EXECABORT", "ExecAbortError"), ("LOADING", "BusyLoadingError"),
    ("NOSCRIPT", "NoScriptError"), ("MOVED", "Moved"), ("ASK", "Ask"), ("TRYAGAIN", "TryAgain"),
    ("CLUSTERDOWN", "ClusterDown"), ("CROSSSLOT", "CrossSlot"), ("MASTERDOWN", "MasterDown"),
    ("READONLY", "ReadOnly"), ("NOTBUSY", "NotBusy")]

/-- The failure that the text of an error reply tells: a code and what follows the first
space. -/
def ofReply (text : String) : RemoteFailure :=
  let (code, rest) := Parts.first ' ' text.toList
  let code := String.ofList code
  let detail := rest.map String.ofList
  match kinds.lookup code with
  | some kind => .described kind "An error was signalled by the server" detail
  | none => .named code (detail.getD "Unknown extension error encountered")

end RemoteFailure

namespace RemoteReply

/-- A description of a reply. -/
def describe : RemoteReply → String
  | .nothing => "nil"
  | .bulk payload =>
    match Utf8.text? payload with
    | some text => "bulk-string('" ++ quoted text ++ "')"
    | none => "binary-data([" ++ ", ".intercalate (payload.map fun b => toString b.toNat) ++ "])"
  | .integer value => "int(" ++ toString value ++ ")"
  | .status text => if text = "OK" then "ok" else "simple-string(" ++ quoted text ++ ")"
  | .error text => "error(" ++ quoted text ++ ")"

/-- The refusal of a reply of the wrong type. -/
def unexpected (reply : RemoteReply) (text : String) : RemoteFailure :=
  .described "TypeError" "Response was of incompatible type"
    (some (quoted text ++ " (response was " ++ reply.describe ++ ")"))

/-- The reply as the payload of an entry that may be missing. -/
def payload? (reply : RemoteReply) : Except RemoteFailure (Option Payload) :=
  match reply with
  | .nothing => .ok none
  | .bulk payload => .ok (some payload)
  | .error text => .error (.ofReply text)
  | .integer _ | .status _ => .error (reply.unexpected "Response type not vector compatible.")

/-- The reply as a truth value. -/
def boolean (reply : RemoteReply) : Except RemoteFailure Bool :=
  match reply with
  | .nothing => .ok false
  | .integer value => .ok (value ≠ 0)
  | .error text => .error (.ofReply text)
  | .status text =>
    if text = "OK" ∨ text = "1" then .ok true
    else if text = "0" then .ok false
    else .error (reply.unexpected "Response status not valid boolean")
  | .bulk payload =>
    if payload = Utf8.bytes "1" then .ok true
    else if payload = Utf8.bytes "0" then .ok false
    else .error (reply.unexpected "Response type not bool compatible.")

/-- The reply as a confirmation. -/
def confirmation : RemoteReply → Except RemoteFailure Unit
  | .error text => .error (.ofReply text)
  | _ => .ok ()

end RemoteReply

/-- A time to live in thousandths of a second, as commands tell it.  It never exceeds 64 bits. -/
def ttlMillis (ttl : Duration) : Nat :=
  max 1 (min largestUInt64 (ttl / Duration.milli))

/-- The command that puts a payload under a key. -/
def RemoteCommand.put (key : String) (value : Payload) (ttl : Option Duration) : RemoteCommand :=
  match ttl with
  | some ttl => .setFor key (ttlMillis ttl) value
  | none => .set key value

/-- How a server with the given states answers commands. -/
abbrev RemoteServer (ρ : Type) := RemoteCommand → ρ → RemoteReply × ρ

namespace RemoteServer

variable {ρ α : Type}

/-- Sends a command and understands the reply. -/
def ask (server : RemoteServer ρ) (command : RemoteCommand)
    (understand : RemoteReply → Except RemoteFailure α) : Task ρ (Except CacheError α) :=
  Task.ofState fun state =>
    let (reply, state) := server command state
    ((understand reply).mapError RemoteFailure.cacheError, state)

/-- The cache on a server as a backend. -/
def backend (server : RemoteServer ρ) : Backend ρ where
  get key := server.ask (.get key) RemoteReply.payload?
  set key value ttl := server.ask (.put key value ttl) RemoteReply.confirmation
  contains key := server.ask (.contains key) RemoteReply.boolean
  delete key := server.ask (.delete key) RemoteReply.confirmation

end RemoteServer

end Gazette
