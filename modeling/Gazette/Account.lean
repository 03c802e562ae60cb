import Gazette.Json.Record

/-!
# Accounts

An account is found by its email.  Its password field holds a credential hash, which no
description shows and no cached copy keeps: what goes into a cache is the redacted account.
-/

set_option autoImplicit false

namespace Gazette

/-- A registered account.  Its stamps are instants unless another type is given for them. -/
structure Account (Stamp : Type := Instant) where
  id : Int64
  username : String
  email : String
  password : String
  bio : String
  image : String
  disabled : Bool
  createdAt : Stamp
  updatedAt : Stamp
  deriving DecidableEq

/-- What a caller gives to open an account. -/
structure NewAccount where
  username : String
  email : String
  password : String
  bio : String := ""
  image : String := ""
  deriving DecidableEq

/-- A change of an account.  A field without a value stays as it is; an empty text clears it. -/
structure AccountPatch where
  username : Option String := none
  password : Option String := none
  bio : Option String := none
  image : Option String := none
  deriving DecidableEq

/-- The text that stands in place of a credential. -/
def hiddenCredential : String := quoted "<redacted>"

/-- A description of a value: its type name and its fields in braces. -/
def describeRecord (name : String) (fields : List (String × String)) : String :=
  name ++ " \x7b " ++ ", ".intercalate (fields.map fun field => field.1 ++ ": " ++ field.2) ++
    " \x7d"

/-- A description of a value that may be missing. -/
def describeOptional : Option String → String
  | none => "None"
  | some text => "Some(" ++ text ++ ")"

namespace Account

/-- The account without its credential hash. -/
def redacted (account : Account) : Account :=
  { account with password := "" }

/-- The description of an account, which hides the credential. -/
def describe (account : Account) : String :=
  describeRecord "Account"
    [("id", toString account.id.toInt), ("username", quoted account.username),
      ("email", quoted account.email), ("password", hiddenCredential),
      ("bio", quoted account.bio), ("image", quoted account.image),
      ("disabled", if account.disabled then "true" else "false"),
      ("created_at", account.createdAt.text), ("updated_at", account.updatedAt.text)]

/-- Accounts in payloads. -/
def codec : Codec Account :=
  (Codec.record "Account"
    (.cons "id" .int64 <| .cons "username" .text <| .cons "email" .text <|
      .cons "password" .text <| .cons "bio" .text <| .cons "image" .text <|
      .cons "disabled" .boolean <| .cons "created_at" .instant <|
      .cons "updated_at" .instant .nil)).imap
    (fun (id, username, email, password, bio, image, disabled, createdAt, updatedAt, ()) =>
      ⟨id, username, email, password, bio, image, disabled, createdAt, updatedAt⟩)
    (fun a =>
      (a.id, a.username, a.email, a.password, a.bio, a.image, a.disabled, a.createdAt,
        a.updatedAt, ()))

end Account

namespace NewAccount

/-- The description of a new account, which hides the credential. -/
def describe (account : NewAccount) : String :=
  describeRecord "NewAccount"
    [("username", quoted account.username), ("email", quoted account.email),
      ("password", hiddenCredential), ("bio", quoted account.bio),
      ("image", quoted account.image)]

/-- New accounts in payloads. -/
def codec : Codec NewAccount :=
  (Codec.record "NewAccount"
    (.cons "username" .text <| .cons "email" .text <| .cons "password" .text <|
      .cons "bio" .text <| .cons "image" .text .nil)).imap
    (fun (username, email, password, bio, image, ()) => ⟨username, email, password, bio, image⟩)
    (fun a => (a.username, a.email, a.password, a.bio, a.image, ()))

end NewAccount

namespace AccountPatch

/-- Whether the patch changes no field. -/
def isEmpty (patch : AccountPatch) : Bool :=
  patch.username.isNone && patch.password.isNone && patch.bio.isNone && patch.image.isNone

/-- The description of a patch, which hides the credential. -/
def describe (patch : AccountPatch) : String :=
  describeRecord "AccountPatch"
    [("username", describeOptional (patch.username.map quoted)),
      ("password", describeOptional (patch.password.map fun _ => hiddenCredential)),
      ("bio", describeOptional (patch.bio.map quoted)),
      ("image", describeOptional (patch.image.map quoted))]

/-- Patches in payloads. -/
def codec : Codec AccountPatch :=
  (Codec.record "AccountPatch"
    (.cons "username" (.optional .text) <| .cons "password" (.optional .text) <|
      .cons "bio" (.optional .text) <| .cons "image" (.optional .text) .nil)).imap
    (fun (username, password, bio, image, ()) => ⟨username, password, bio, image⟩)
    (fun p => (p.username, p.password, p.bio, p.image, ()))

end AccountPatch

end Gazette
