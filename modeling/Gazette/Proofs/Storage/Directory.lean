import Mathlib.Data.List.Basic
import Mathlib.Logic.Function.Basic
import Gazette.Proofs.Cached.Operations

/-!
# Directories

Whoever works with accounts need not know of rows and statements.  To a caller the accounts are a
directory, which gives the account with an email, and each operation asks something of it or adds or
changes one entry.  It is told here what every operation answers and what it makes of the directory,
and that an entry always stands under its own email while no two entries share a username or an id.
Accounts in a list make a directory as long as their emails differ.
-/

set_option autoImplicit false

namespace Gazette

/-- An account that has just been opened. -/
def NewAccount.opened (new : NewAccount) (id : Int64) (stamp : Instant) : Account where
  id := id
  username := new.username
  email := new.email
  password := new.password
  bio := new.bio
  image := new.image
  disabled := false
  createdAt := stamp
  updatedAt := stamp

/-- An account with the given fields of a patch written over it. -/
def Account.patched (patch : AccountPatch) (stamp : Instant) (account : Account) : Account :=
  { account with
    username := patch.username.getD account.username
    password := patch.password.getD account.password
    bio := patch.bio.getD account.bio
    image := patch.image.getD account.image
    updatedAt := stamp }

/-- The account with an email after a patch for an email has been written. -/
def Account.revised (email : String) (patch : AccountPatch) (stamp : Instant) (account : Account) :
    Account :=
  if account.email = email then account.patched patch stamp else account

/-- A patch does not change the email of an account. -/
@[simp]
theorem Account.revised_email (email : String) (patch : AccountPatch) (stamp : Instant)
    (account : Account) : (account.revised email patch stamp).email = account.email := by
  unfold revised
  split <;> rfl

/-- A patch does not change the id of an account. -/
@[simp]
theorem Account.revised_id (email : String) (patch : AccountPatch) (stamp : Instant)
    (account : Account) : (account.revised email patch stamp).id = account.id := by
  unfold revised
  split <;> rfl

/-- The accounts by their emails. -/
abbrev Directory := String → Option Account

namespace Directory

variable {read : Account → Except StorageError Account} {stamp : Instant}
  {directory before after : Directory} {email : String}

/-- The directory of nobody. -/
def empty : Directory :=
  fun _ => none

/-- Whether somebody has a username. -/
def HasUsername (directory : Directory) (username : String) : Prop :=
  ∃ email account, directory email = some account ∧ account.username = username

/-- Whether somebody has an id. -/
def HasId (directory : Directory) (id : Int64) : Prop :=
  ∃ email account, directory email = some account ∧ account.id = id

/-- Whether the email or the username of a new account is taken. -/
def Refuses (directory : Directory) (new : NewAccount) : Prop :=
  directory new.email ≠ none ∨ directory.HasUsername new.username

/-- Whether a patch for the account with an email gives it the username of another one. -/
def Contests (directory : Directory) (email : String) (patch : AccountPatch) : Prop :=
  ∃ other account, directory other = some account ∧ other ≠ email ∧
    patch.username = some account.username

/-- Whether no positive id is left, which takes 2⁶³ - 1 accounts. -/
def IsFull (directory : Directory) : Prop :=
  ∀ id, 0 < id → directory.HasId id

/-- What is answered when an account is looked for.  It may matter how accounts are read. -/
def lookup (directory : Directory) (read : Account → Except StorageError Account) (email : String) :
    Except StorageError Account :=
  match directory email with
  | some account => read account
  | none => .error (.notFound Database.accountEntity email)

/-- What an operation at a moment answers and makes of a directory.  Every operation that fails
leaves the directory as it is. -/
inductive Performs (read : Account → Except StorageError Account) (stamp : Instant)
    (before : Directory) : (operation : AccountOperation) → operation.Answer → Directory → Prop where
  /-- A new account gets an id that nobody has. -/
  | saved {new : NewAccount} {id : Int64} : ¬ before.Refuses new → 0 < id → ¬ before.HasId id →
    Performs read stamp before (.save new) (read (new.opened id stamp))
      (Function.update before new.email (some (new.opened id stamp)))
  | taken {new : NewAccount} : ¬ before.IsFull → before.Refuses new →
    Performs read stamp before (.save new)
      (.error (.keyConflict Database.accountEntity new.email)) before
  | full {new : NewAccount} : before.IsFull →
    Performs read stamp before (.save new) (.error (.queryFailed "database or disk is full")) before
  | updated {email : String} {patch : AccountPatch} {account : Account} :
    before email = some account → ¬ before.Contests email patch →
    Performs read stamp before (.update email patch) (.ok ())
      (Function.update before email (some (account.patched patch stamp)))
  | contested {email : String} {patch : AccountPatch} {account : Account} :
    before email = some account → before.Contests email patch →
    Performs read stamp before (.update email patch)
      (.error (.keyConflict Database.accountEntity email)) before
  | unknown {email : String} {patch : AccountPatch} : before email = none →
    Performs read stamp before (.update email patch)
      (.error (.notFound Database.accountEntity email)) before
  | found {email : String} :
    Performs read stamp before (.find email) (before.lookup read email) before
  | foundFresh {email : String} :
    Performs read stamp before (.findFresh email) (before.lookup read email) before

/-- Whether no two accounts have the same value in a field. -/
def Unique {α : Type} (directory : Directory) (field : Account → α) : Prop :=
  ∀ email other first second, directory email = some first → directory other = some second →
    field first = field second → email = other

/-- Whether each account stands under its own email, and no two of them share a username or an
id. -/
structure Lawful (directory : Directory) : Prop where
  keyed : ∀ email account, directory email = some account → account.email = email
  username : directory.Unique Account.username
  id : directory.Unique Account.id

/-- The empty directory is in order. -/
theorem lawful_empty : empty.Lawful where
  keyed _ _ never := by cases never
  username _ _ _ _ never := by cases never
  id _ _ _ _ never := by cases never

/-- What stands in a directory after an entry has been written is the entry or has stood there. -/
theorem update_eq_some {entry account : Account} {other : String} :
    Function.update directory email (some entry) other = some account ↔
      other = email ∧ entry = account ∨ other ≠ email ∧ directory other = some account := by
  by_cases same : other = email
  · subst same
    simp
  · simp [same]

/-- A field stays unique if an entry has a value in it that no other one has. -/
theorem Unique.update {α : Type} {field : Account → α} {entry : Account}
    (unique : directory.Unique field)
    (new : ∀ other account, other ≠ email → directory other = some account →
      field account ≠ field entry) :
    Unique (Function.update directory email (some entry)) field := by
  intro one other first second here there same
  rcases update_eq_some.mp here with ⟨rfl, rfl⟩ | ⟨first_other, first_old⟩ <;>
    rcases update_eq_some.mp there with ⟨rfl, rfl⟩ | ⟨second_other, second_old⟩
  · rfl
  · exact absurd same.symm (new other second second_other second_old)
  · exact absurd same (new one first first_other first_old)
  · exact unique one other first second first_old second_old same

/-- An entry is written under its own email. -/
theorem keyed_update {entry : Account}
    (keyed : ∀ email account, directory email = some account → account.email = email)
    (own : entry.email = email) :
    ∀ other account, Function.update directory email (some entry) other = some account →
      account.email = other := by
  intro other account present
  rcases update_eq_some.mp present with ⟨rfl, rfl⟩ | ⟨-, old⟩
  · exact own
  · exact keyed other account old

namespace Performs

variable {operation : AccountOperation} {answer : operation.Answer}

/-- Every operation keeps a directory lawful. -/
theorem lawful (performs : before.Performs read stamp operation answer after)
    (was : before.Lawful) : after.Lawful := by
  cases performs with
  | saved accepted positive fresh =>
    exact ⟨keyed_update was.keyed rfl,
      was.username.update fun other account _ old same => accepted (.inr ⟨other, account, old, same⟩),
      was.id.update fun other account _ old same => fresh ⟨other, account, old, same⟩⟩
  | @updated email patch account present free =>
    refine ⟨keyed_update was.keyed (was.keyed email account present), was.username.update ?_,
      was.id.update fun other rival apart old same =>
        apart (was.id other email rival account old present same)⟩
    intro other rival apart old same
    cases given : patch.username with
    | none =>
      rw [Account.patched, given] at same
      exact apart (was.username other email rival account old present same)
    | some username =>
      rw [Account.patched, given] at same
      exact free ⟨other, rival, old, apart, given.trans (congrArg some same.symm)⟩
  | _ => exact was

/-- The entries that an operation makes are stamped with its moment. -/
theorem dated {shown : Instant → Prop} (performs : before.Performs read stamp operation answer after)
    (now : shown stamp)
    (were : ∀ email account, before email = some account →
      shown account.createdAt ∧ shown account.updatedAt) :
    ∀ email account, after email = some account →
      shown account.createdAt ∧ shown account.updatedAt := by
  cases performs with
  | saved =>
    intro other account present
    rcases update_eq_some.mp present with ⟨-, rfl⟩ | ⟨-, old⟩
    · exact ⟨now, now⟩
    · exact were other account old
  | updated known =>
    intro other account present
    rcases update_eq_some.mp present with ⟨-, rfl⟩ | ⟨-, old⟩
    · exact ⟨(were _ _ known).1, now⟩
    · exact were other account old
  | _ => exact were

/-- How accounts are read matters for those in the directory only. -/
theorem congr {readAlike : Account → Except StorageError Account}
    (performs : before.Performs read stamp operation answer after)
    (alike : ∀ email account, after email = some account → read account = readAlike account) :
    before.Performs readAlike stamp operation answer after := by
  have lookups (same : after = before) (email : String) :
      before.lookup read email = before.lookup readAlike email := by
    unfold lookup
    split
    · rename_i account present
      exact alike email account (same ▸ present)
    · rfl
  cases performs with
  | saved accepted positive fresh =>
    rw [alike _ _ (Function.update_self ..)]
    exact .saved accepted positive fresh
  | taken room refused => exact .taken room refused
  | full all => exact .full all
  | updated present free => exact .updated present free
  | contested present claimed => exact .contested present claimed
  | unknown absent => exact .unknown absent
  | found =>
    rw [lookups rfl]
    exact .found
  | foundFresh =>
    rw [lookups rfl]
    exact .foundFresh

end Performs

section Lists

variable {accounts : List Account} {email : String} {account : Account}

/-- The directory of the accounts in a list. -/
def of (accounts : List Account) : Directory :=
  fun email => accounts.find? fun account => account.email = email

/-- The directory of a list has those accounts that are in the list, each under its email. -/
theorem of_eq_some (emails : (accounts.map Account.email).Nodup) :
    of accounts email = some account ↔ account ∈ accounts ∧ account.email = email := by
  constructor
  · intro found
    exact ⟨List.mem_of_find?_eq_some found, by simpa using List.find?_some found⟩
  · rintro ⟨there, rfl⟩
    cases found : of accounts account.email with
    | none =>
      have nobody := List.find?_eq_none.mp found account there
      simp at nobody
    | some other =>
      have same : other.email = account.email := by simpa using List.find?_some found
      rw [List.inj_on_of_nodup_map emails (List.mem_of_find?_eq_some found) there same]

/-- The directory of a list has nothing under an email that no account in the list has. -/
theorem of_eq_none : of accounts email = none ↔ ∀ account ∈ accounts, account.email ≠ email := by
  unfold of
  rw [List.find?_eq_none]
  simp

/-- Something holds of an entry of the directory if and only if it holds of an account in the
list. -/
theorem exists_of (emails : (accounts.map Account.email).Nodup) {holds : Account → Prop} :
    (∃ email account, of accounts email = some account ∧ holds account) ↔
      ∃ account ∈ accounts, holds account := by
  constructor
  · rintro ⟨email, account, found, there⟩
    exact ⟨account, ((of_eq_some emails).mp found).1, there⟩
  · rintro ⟨account, there, held⟩
    exact ⟨account.email, account, (of_eq_some emails).mpr ⟨there, rfl⟩, held⟩

/-- The directory of a list refuses a new account if one in the list has its username or its
email. -/
theorem refuses_of (emails : (accounts.map Account.email).Nodup) {new : NewAccount} :
    (of accounts).Refuses new ↔
      ∃ account ∈ accounts, account.username = new.username ∨ account.email = new.email := by
  have email_taken : of accounts new.email ≠ none ↔
      ∃ account ∈ accounts, account.email = new.email := by
    simp [of_eq_none]
  rw [Refuses, HasUsername, exists_of emails, email_taken, or_comm, ← exists_or]
  simp only [and_or_left]

/-- The directory of a list contests a patch if another account in the list has the new username. -/
theorem contests_of (emails : (accounts.map Account.email).Nodup) {patch : AccountPatch} :
    (of accounts).Contests email patch ↔
      ∃ account ∈ accounts, account.email ≠ email ∧ patch.username = some account.username := by
  constructor
  · rintro ⟨other, account, found, apart, claimed⟩
    obtain ⟨there, rfl⟩ := (of_eq_some emails).mp found
    exact ⟨account, there, apart, claimed⟩
  · rintro ⟨account, there, apart, claimed⟩
    exact ⟨account.email, account, (of_eq_some emails).mpr ⟨there, rfl⟩, apart, claimed⟩

/-- Another account in the list is another entry of the directory. -/
theorem of_append (new : of accounts account.email = none) :
    of (accounts ++ [account]) = Function.update (of accounts) account.email (some account) := by
  funext email
  by_cases same : email = account.email
  · subst same
    unfold of at new ⊢
    rw [List.find?_append, new, Function.update_self]
    simp
  · have other : ¬ account.email = email := fun eq => same eq.symm
    rw [Function.update_of_ne same]
    unfold of
    rw [List.find?_append]
    simp [other]

/-- A patch for an email changes the entry under the email. -/
theorem of_revised {patch : AccountPatch} {stamp : Instant}
    (present : of accounts email = some account) :
    of (accounts.map (Account.revised email patch stamp)) =
      Function.update (of accounts) email (some (account.patched patch stamp)) := by
  funext other
  have emails : (fun account : Account => decide (account.email = other)) ∘
      Account.revised email patch stamp = fun account => decide (account.email = other) := by
    funext account
    simp
  have through : of (accounts.map (Account.revised email patch stamp)) other =
      (of accounts other).map (Account.revised email patch stamp) := by
    unfold of
    rw [List.find?_map, emails]
  rw [through]
  by_cases same : other = email
  · subst same
    have own : account.email = other := by simpa using List.find?_some present
    rw [present, Function.update_self, Option.map_some, Account.revised, if_pos own]
  · rw [Function.update_of_ne same]
    cases found : of accounts other with
    | none => rfl
    | some entry =>
      have apart : ¬ entry.email = email := by
        have own : entry.email = other := by simpa using List.find?_some found
        rw [own]
        exact same
      rw [Option.map_some, Account.revised, if_neg apart]

end Lists

end Directory

end Gazette
