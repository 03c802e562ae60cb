import Mathlib.Data.List.Basic
import Gazette.Proofs.Storage.Assembled
import Gazette.Proofs.Storage.Directory
import Gazette.Proofs.Storage.Holders
import Gazette.Proofs.Storage.Reachable
import Gazette.Proofs.Time.Reading

/-!
# The accounts of the tables are a directory

The rows of the accounts store the entries of a directory.  Each statement on the rows does to them
what the operation does to the directory, so that from empty tables on all answers are those of a
directory.
-/

set_option autoImplicit false

namespace Gazette

open Tables Session Database

/-- The row of an account. -/
def Account.row (account : Account) : AccountRow where
  id := account.id
  username := .text account.username
  email := .text account.email
  password := .text account.password
  bio := .text account.bio
  image := .text account.image
  disabled := .integer (if account.disabled then 1 else 0)
  createdAt := .text account.createdAt.stored
  updatedAt := .text account.updatedAt.stored

/-- An account as it is read from its row, which fails if there is a sign before the year of one of
its stamps. -/
def Account.reread (account : Account) : Except StorageError Account :=
  if account.createdAt.IsNear ∧ account.updatedAt.IsNear then .ok account
  else .error (.queryFailed
    "Conversion error from type Text at index: 0, input contains invalid characters")

/-- A stored instant is read back if there is no sign before its year, and is an error otherwise. -/
theorem Row.instant_stored (i : Instant) :
    Row.instant i.stored =
      if i.IsNear then .ok i else .error (.conversion 0 .text InstantFault.invalid.message) := by
  rw [Row.instant, Instant.readStrict_stored]
  by_cases near : i.IsNear
  · simp only [if_pos near]
  · simp only [if_neg near]

/-- Apart from its stamps an account is read back from its row in any case. -/
theorem Row.account_row (account : Account) :
    Row.account account.row.columns = (do
      let createdAt ← Row.instant account.createdAt.stored
      let updatedAt ← Row.instant account.updatedAt.stored
      return { account with createdAt, updatedAt }) := by
  have text (index : Nat) {name value : String}
      (there : account.row.columns[index]? = some ⟨name, .text value⟩) :
      Row.text index account.row.columns = .ok value :=
    Row.text_eq_ok.mpr ⟨_, there, rfl⟩
  have id : Row.integer 0 account.row.columns = .ok account.id :=
    Row.integer_eq_ok.mpr ⟨_, rfl, rfl⟩
  have disabled : Row.boolean 6 account.row.columns = .ok account.disabled := by
    refine Row.boolean_eq_ok.mpr ⟨_, Row.integer_eq_ok.mpr ⟨_, rfl, rfl⟩, ?_⟩
    cases account.disabled <;> rfl
  rw [Row.account, text 7 rfl, text 8 rfl, id, text 1 rfl, text 2 rfl, text 3 rfl, text 4 rfl,
    text 5 rfl, disabled]
  simp only [bind, Except.bind]

/-- A row of an account is read as the account, whatever is being worked on. -/
theorem Account.mapError_row (account : Account) (entity id : String) :
    (Row.account account.row.columns).mapError (EngineError.about entity id) = account.reread := by
  rw [Row.account_row, Row.instant_stored, Row.instant_stored, Account.reread]
  by_cases created : account.createdAt.IsNear
  · by_cases updated : account.updatedAt.IsNear
    · simp only [if_pos created, if_pos updated, if_pos (And.intro created updated)]
      rfl
    · rw [if_pos created, if_neg updated, if_neg (mt And.right updated)]
      rfl
  · rw [if_neg created, if_neg (mt And.left created)]
    rfl

/-- A patch does to the row of an account what it does to the account. -/
theorem Account.row_revised (email : String) (patch : AccountPatch) (stamp : Instant)
    (account : Account) :
    (account.revised email patch stamp).row =
      account.row.patched email patch (.text stamp.stored) := by
  by_cases here : account.email = email
  · simp [Account.revised, AccountRow.patched, here, Account.row, patchRow, Account.patched]
  · simp [Account.revised, AccountRow.patched, here, Account.row]

/-- Whether the rows of the accounts store the accounts in a list, to which all ids have gone that
have been given out. -/
structure Tables.Lists (tables : Tables) (accounts : List Account) : Prop where
  rows : tables.accounts = accounts.map Account.row
  begun : 0 ≤ tables.lastAccount
  ids : ∀ id, (∃ account ∈ accounts, account.id = id) ↔ 0 < id ∧ id ≤ tables.lastAccount

namespace Tables.Lists

variable {tables after : Tables} {accounts : List Account} {new : NewAccount} {email : String}
  {patch : AccountPatch} {stamp : Instant}

/-- Empty tables list no accounts. -/
theorem empty : Lists {} [] where
  rows := rfl
  begun := by decide
  ids := by
    intro id
    simp only [List.not_mem_nil, false_and, exists_false, false_iff, not_and]
    intro positive small
    exact Int64.lt_irrefl (Int64.lt_of_lt_of_le positive small)

/-- The accounts have different emails. -/
theorem emails (lists : tables.Lists accounts) (sane : tables.Integrity) :
    (accounts.map Account.email).Nodup := by
  have distinct := sane.emails
  rw [lists.rows, List.map_map] at distinct
  have same : AccountRow.email ∘ Account.row = Cell.text ∘ Account.email := rfl
  rw [same, ← List.map_map] at distinct
  exact distinct.of_map _

/-- The first row with an email is that of the entry of the directory. -/
theorem head?_withEmail (lists : tables.Lists accounts) (email : String) :
    (tables.withEmail email).head? = (Directory.of accounts email).map Account.row := by
  have same : (fun row : AccountRow => decide (row.email = .text email)) ∘ Account.row =
      fun account => decide (account.email = email) := by
    funext account
    simp [Account.row]
  rw [withEmail, List.head?_filter, lists.rows, List.find?_map, same, Directory.of]

/-- What is found under an email is the entry of the directory. -/
theorem holder_eq (lists : tables.Lists accounts) (email : String) :
    tables.holder email = (Directory.of accounts).lookup Account.reread email := by
  have first := lists.head?_withEmail email
  rw [Directory.lookup]
  cases found : Directory.of accounts email with
  | none =>
    rw [found, Option.map_none, List.head?_eq_none_iff] at first
    rw [holder, first]
    rfl
  | some account =>
    rw [found, Option.map_some] at first
    rw [holder_of_head? first, account.mapError_row]

/-- There is an entry under an email if a row has it. -/
theorem exists_entry (lists : tables.Lists accounts)
    (somebody : ∃ row ∈ tables.accounts, row.email = .text email) :
    ∃ account, Directory.of accounts email = some account := by
  obtain ⟨row, there, named⟩ := somebody
  rw [lists.rows] at there
  obtain ⟨account, present, rfl⟩ := List.mem_map.mp there
  apply Option.ne_none_iff_exists'.mp
  intro nobody
  exact Directory.of_eq_none.mp nobody account present (Cell.text.inj named)

/-- The next id is positive, and nobody has it. -/
theorem fresh (lists : tables.Lists accounts) (sane : tables.Integrity) {id : Int64}
    (next : nextId tables.lastAccount = .ok id) :
    0 < id ∧ ¬ (Directory.of accounts).HasId id := by
  refine ⟨Int64.lt_of_le_of_lt lists.begun (nextId_ok next), ?_⟩
  rw [Directory.HasId, Directory.exists_of (lists.emails sane), lists.ids]
  rintro ⟨-, given⟩
  exact Int64.lt_irrefl (Int64.lt_of_lt_of_le (nextId_ok next) given)

/-- A new account is added to the list, under an id that nobody has. -/
theorem insertAccount (lists : tables.Lists accounts) (sane : tables.Integrity)
    (done : Tables.insertAccount [] new (.text stamp.stored) tables = .ok after) :
    ∃ id, ¬ (Directory.of accounts).Refuses new ∧ 0 < id ∧ ¬ (Directory.of accounts).HasId id ∧
      after.Lists (accounts ++ [new.opened id stamp]) := by
  obtain ⟨id, next, free, rfl⟩ := insertAccount_eq_ok done
  obtain ⟨positive, unused⟩ := lists.fresh sane next
  refine ⟨id, ?_, positive, unused, ?_, Int64.le_of_lt positive, ?_⟩
  · rw [Directory.refuses_of (lists.emails sane)]
    rintro ⟨account, there, same⟩
    obtain ⟨username, email⟩ := free account.row (lists.rows ▸ List.mem_map_of_mem there)
    rcases same with same | same
    · exact username (congrArg Cell.text same)
    · exact email (congrArg Cell.text same)
  · rw [lists.rows, List.map_append]
    rfl
  · intro other
    have begun := Int64.le_iff_toInt_le.mp lists.begun
    have above := toInt_nextId next
    have zero : (0 : Int64).toInt = 0 := by decide
    have own : (new.opened id stamp).id = id := rfl
    simp only [List.mem_append, List.mem_singleton, or_and_right, exists_or, exists_eq_left, own]
    rw [lists.ids other]
    -- the ids that have been given out are one more
    simp only [Int64.lt_iff_toInt_lt, Int64.le_iff_toInt_le, ← Int64.toInt_inj]
    omega

/-- A new account is refused if all ids have been given out, or else for its email or username. -/
theorem insertAccount_refused {refusal : Refusal} (lists : tables.Lists accounts)
    (sane : tables.Integrity)
    (refused : Tables.insertAccount [] new (.text stamp.stored) tables = .error refusal) :
    refusal = .full ∧ (Directory.of accounts).IsFull ∨
      refusal = .taken ∧ ¬ (Directory.of accounts).IsFull ∧
        (Directory.of accounts).Refuses new := by
  have emails := lists.emails sane
  rcases insertAccount_error refused with ⟨rfl, all⟩ | ⟨rfl, more, row, there, taken⟩
  · refine .inl ⟨rfl, ?_⟩
    intro id positive
    rw [Directory.HasId, Directory.exists_of emails, lists.ids, all]
    exact ⟨positive, Int64.le_maxValue id⟩
  · refine .inr ⟨rfl, ?_, ?_⟩
    · intro everyone
      obtain ⟨positive, unused⟩ := lists.fresh sane (if_neg more)
      exact unused (everyone _ positive)
    · rw [lists.rows] at there
      obtain ⟨account, present, rfl⟩ := List.mem_map.mp there
      exact (Directory.refuses_of emails).mpr ⟨account, present, by simpa [Account.row] using taken⟩

/-- A patch changes the account in the list. -/
theorem updateAccount {count : Nat} (lists : tables.Lists accounts) (sane : tables.Integrity)
    (done : Tables.updateAccount [] email patch (.text stamp.stored) tables = .ok (count, after)) :
    count = 0 ∧ Directory.of accounts email = none ∧ after.Lists accounts ∨
      count ≠ 0 ∧ (∃ account, Directory.of accounts email = some account) ∧
        ¬ (Directory.of accounts).Contests email patch ∧
        after.Lists (accounts.map (Account.revised email patch stamp)) := by
  rcases updateAccount_eq_ok done with ⟨none, rfl, nobody⟩ | ⟨some_, somebody, free, rfl⟩
  · refine .inl ⟨none, Directory.of_eq_none.mpr ?_, lists⟩
    rintro account there rfl
    exact nobody account.row (lists.rows ▸ List.mem_map_of_mem there) rfl
  · rw [lists.rows] at free
    refine .inr ⟨some_, lists.exists_entry somebody, ?_, ?_, lists.begun, ?_⟩
    · rw [Directory.contests_of (lists.emails sane)]
      rintro ⟨account, there, apart, claimed⟩
      exact apart (Cell.text.inj (free _ claimed account.row (List.mem_map_of_mem there) rfl))
    · rw [lists.rows, List.map_map, List.map_map]
      exact List.map_congr_left fun account _ => (account.row_revised email patch stamp).symm
    · intro id
      rw [← lists.ids id]
      simp

/-- A patch is refused only if it gives the account the username of another one. -/
theorem updateAccount_refused {refusal : Refusal} (lists : tables.Lists accounts)
    (sane : tables.Integrity)
    (refused : Tables.updateAccount [] email patch (.text stamp.stored) tables = .error refusal) :
    refusal = .taken ∧ (∃ account, Directory.of accounts email = some account) ∧
      (Directory.of accounts).Contests email patch := by
  obtain ⟨rfl, somebody, username, claimed, row, there, taken, apart⟩ :=
    updateAccount_error refused
  rw [lists.rows] at there
  obtain ⟨rival, present, rfl⟩ := List.mem_map.mp there
  refine ⟨rfl, lists.exists_entry somebody,
    (Directory.contests_of (lists.emails sane)).mpr ⟨rival, present, ?_, ?_⟩⟩
  · exact fun same => apart (congrArg Cell.text same)
  · rw [claimed]
    exact congrArg some (Cell.text.inj taken).symm

end Tables.Lists

/-- A session that is all there is to an operation answers for it. -/
theorem Session.outcome_of_run {α : Type} {session : Session Database α} {db after : Database}
    {answer : Except StorageError α} (ran : session.run db = (answer, after)) :
    (Activity.ofTask session.task).run.outcome db = (.ok answer, after) := by
  have same : (Activity.ofTask session.task).run.outcome db =
      (.ok (session.run db).1, (session.run db).2) := rfl
  rw [same, ran]

namespace Database

variable {db : Database} {accounts : List Account}

/-- Opening an account on a healthy database outside of a unit of work. -/
theorem run_saveAccount (healthy : db.Healthy) (closed : db.beforeWork = none) (new : NewAccount) :
    (saveAccount new).run db =
      match Tables.insertAccount [] new (.text (db.clock db.readings).stored) db.tables with
      | .ok tables => (tables.holder new.email, { db with tables, readings := db.readings + 1 })
      | .error refusal =>
        (.error (refusal.error.about accountEntity new.email),
          { db with readings := db.readings + 1 }) := by
  have nothing_undone : undone { db with readings := db.readings + 1 } =
      { db with readings := db.readings + 1 } := undone_of_closed closed
  unfold saveAccount execute
  rw [run_bind, run_now]
  dsimp only
  rw [run_bind, run_statement healthy.read]
  dsimp only
  cases Tables.insertAccount [] new (.text (db.clock db.readings).stored) db.tables with
  | error refusal =>
    simp only [Except.map]
    rw [nothing_undone, ite_self]
  | ok tables =>
    have still : Healthy { db with tables, readings := db.readings + 1 } :=
      ⟨healthy.triggers, healthy.missing, healthy.locked⟩
    exact findAccount_eq still new.email

/-- Changing an account on a healthy database outside of a unit of work. -/
theorem run_updateAccount (healthy : db.Healthy) (closed : db.beforeWork = none) (email : String)
    (patch : AccountPatch) :
    (updateAccount email patch).run db =
      match Tables.updateAccount [] email patch (.text (db.clock db.readings).stored) db.tables with
      | .ok (count, tables) =>
        (if count = 0 then .error (.notFound accountEntity email) else .ok (),
          { db with tables, readings := db.readings + 1 })
      | .error refusal =>
        (.error (refusal.error.about accountEntity email),
          { db with readings := db.readings + 1 }) := by
  have nothing_undone : undone { db with readings := db.readings + 1 } =
      { db with readings := db.readings + 1 } := undone_of_closed closed
  unfold updateAccount
  rw [run_bind, run_now]
  dsimp only
  rw [run_bind, run_statement healthy.read]
  dsimp only
  cases Tables.updateAccount [] email patch (.text (db.clock db.readings).stored) db.tables with
  | error refusal =>
    dsimp only
    rw [nothing_undone, ite_self]
  | ok changed =>
    obtain ⟨count, tables⟩ := changed
    dsimp only
    split <;> rfl

/-- What an operation answers and makes of the accounts is what it answers and makes of their
directory. -/
theorem performs_effect (reachable : db.Reachable) (lists : db.tables.Lists accounts)
    (operation : AccountOperation) :
    ∃ next, (Directory.of accounts).Performs Account.reread (db.clock db.readings) operation
        (operation.effect db).1 (Directory.of next) ∧
      (operation.effect db).2.tables.Lists next := by
  have healthy := reachable.orderly.toHealthy
  have closed := reachable.ready.closed
  have sane := reachable.orderly.tables.toIntegrity
  have looked (email : String) :
      (findAccount email).run db = ((Directory.of accounts).lookup Account.reread email, db) := by
    rw [findAccount_eq healthy, lists.holder_eq]
  cases operation with
  | save new =>
    simp only [AccountOperation.effect, run_saveAccount healthy closed]
    split
    · rename_i tables done
      obtain ⟨id, accepted, positive, fresh, listed⟩ := lists.insertAccount sane done
      have absent : Directory.of accounts new.email = none :=
        Decidable.not_not.mp fun taken => accepted (.inl taken)
      -- the email was free, so it is the new entry that is read back
      generalize opened : new.opened id (db.clock db.readings) = account at listed
      have own : new.email = account.email := by rw [← opened, NewAccount.opened]
      have added := Directory.of_append (own ▸ absent)
      refine ⟨_, ?_, listed⟩
      rw [listed.holder_eq, Directory.lookup, added, ← own, Function.update_self, ← opened]
      exact .saved accepted positive fresh
    · rename_i refusal refused
      refine ⟨accounts, ?_, lists⟩
      rcases lists.insertAccount_refused sane refused with ⟨rfl, all⟩ | ⟨rfl, room, taken⟩
      · exact .full all
      · exact .taken room taken
  | update email patch =>
    simp only [AccountOperation.effect, run_updateAccount healthy closed]
    split
    · rename_i count tables done
      rcases lists.updateAccount sane done with
        ⟨none, absent, listed⟩ | ⟨some_, ⟨account, found⟩, free, listed⟩
      · rw [if_pos none]
        exact ⟨accounts, .unknown absent, listed⟩
      · rw [if_neg some_]
        refine ⟨_, ?_, listed⟩
        rw [Directory.of_revised found]
        exact .updated found free
    · rename_i refusal refused
      obtain ⟨rfl, ⟨account, found⟩, contested⟩ := lists.updateAccount_refused sane refused
      exact ⟨accounts, .contested found contested, lists⟩
  | find email =>
    simp only [AccountOperation.effect, looked]
    exact ⟨accounts, .found, lists⟩
  | findFresh email =>
    simp only [AccountOperation.effect, looked]
    exact ⟨accounts, .foundFresh, lists⟩

/-- An operation on accounts leaves the clock alone. -/
theorem clock_effect (reachable : db.Reachable) (operation : AccountOperation) :
    (operation.effect db).2.clock = db.clock :=
  (operation.within_effect (lasting_orderly ⟨ShownBy db.clock, True⟩)
    (Orderly.iff_within.mp reachable.orderly)).same_clock

end Database

/-- Whether operations on a database, one after the other, all answer, and answer what they do on a
directory, which stays lawful. -/
def Directory.Explains (read : Account → Except StorageError Account) :
    Directory → Database → List AccountOperation → Prop
  | directory, _, [] => directory.Lawful
  | directory, db, operation :: rest =>
    directory.Lawful ∧ ∃ answer after next,
      (operation.perform accountRepository).run.outcome db = (.ok answer, after) ∧
        directory.Performs read (db.clock db.readings) operation answer next ∧
        next.Explains read after rest

namespace Database

variable {db : Database} {accounts : List Account}

/-- If the tables list the entries of a directory, then all answers are those of the directory.  How
its entries are read must be agreed on for the stamps that the clock can give. -/
theorem explains_of_lists {read : Account → Except StorageError Account} (shown : Instant → Prop)
    (agreed : ∀ account : Account, shown account.createdAt → shown account.updatedAt →
      account.reread = read account)
    (operations : List AccountOperation) (reachable : db.Reachable)
    (dates : ∀ reading, shown (db.clock reading)) (lists : db.tables.Lists accounts)
    (lawful : (Directory.of accounts).Lawful)
    (dated : ∀ email account, Directory.of accounts email = some account →
      shown account.createdAt ∧ shown account.updatedAt) :
    (Directory.of accounts).Explains read db operations := by
  induction operations generalizing db accounts with
  | nil => exact lawful
  | cons operation operations ih =>
    obtain ⟨next, performs, listed⟩ := performs_effect reachable lists operation
    have still_dated := performs.dated (dates db.readings) dated
    have as_agreed := performs.congr fun email account there =>
      agreed account (still_dated email account there).1 (still_dated email account there).2
    have reached := reachable.account operation
    rw [operation.outcome_effect] at reached
    refine ⟨lawful, _, _, Directory.of next, operation.outcome_effect db, as_agreed, ?_⟩
    refine ih reached ?_ listed (performs.lawful lawful) still_dated
    rw [clock_effect reachable operation]
    exact dates

/-- The accounts behave as a directory of emails in which no two accounts share a username or an id.
Whatever operations are performed from empty tables on, each of them answers, and it answers and makes
of the accounts what it does with a directory.  The one thing that a directory does not know of is how
stamps are written: an account with a sign before the year of a stamp cannot be read back.  As long as
the clock shows no such year, each account is answered with as it is.  An update is assembled from the
fields that its patch gives, and whatever these are, the assembled text does to a row what is told of
the change of the tables. -/
theorem accounts_form_directory (clock : Nat → Instant) (operations : List AccountOperation) :
    Directory.empty.Explains Account.reread { clock } operations ∧
      ((∀ reading, (clock reading).IsNear) →
        Directory.empty.Explains .ok { clock } operations) ∧
      ∀ (patch : AccountPatch) (stamp email : String) (row : AccountRow),
        (Statement.Update.read? (Statement.updateAccount patch.columns)).map
            (fun update => update.perform (patch.parameters stamp email) row) =
          some (row.patched email patch (.text stamp)) := by
  have nobody : ∀ email account, Directory.of [] email ≠ some account := by
    intro email account never
    cases never
  refine ⟨?_, ?_, Statement.updateAccount_performs⟩
  · exact explains_of_lists (fun _ => True) (fun _ _ _ => rfl) operations (.empty clock)
      (fun _ => trivial) .empty Directory.lawful_empty fun _ _ _ => ⟨trivial, trivial⟩
  · intro near
    exact explains_of_lists Instant.IsNear
      (fun account created updated => if_pos ⟨created, updated⟩) operations (.empty clock) near
      .empty Directory.lawful_empty fun email account there => absurd there (nobody email account)

end Database

namespace Sample

/-- Two accounts are opened, of which the second cannot take the username of the first one until that
has given it up. -/
def handover : List AccountOperation :=
  [.save ⟨"u", "u@x.com", "p", "bio", "img"⟩, .save ⟨"v", "v@x.com", "p", "", ""⟩,
    .update "v@x.com" { username := some "u" }, .update "u@x.com" { username := some "w", bio := some "" },
    .update "v@x.com" { username := some "u" }, .find "u@x.com", .find "ghost@x.com"]

end Sample

/-- A clock in one of our years, and a run in which a username changes hands. -/
theorem accounts_form_directory_handover :
    (∀ reading, (Sample.database.clock reading).IsNear) ∧
      Directory.empty.Explains .ok Sample.database Sample.handover := by
  have near : ∀ reading, (Sample.database.clock reading).IsNear := by
    intro reading
    have year : (0 : Int) ≤ 2023 ∧ (2023 : Int) ≤ 9999 := by decide
    exact year
  obtain ⟨-, whole, -⟩ := accounts_form_directory Sample.database.clock Sample.handover
  exact ⟨near, whole near⟩

/-- When all ids have been given out no account is added, whoever it is for. -/
theorem Tables.insertAccount_of_spent {account : NewAccount} {stamp : Cell} {tables : Tables}
    (spent : tables.lastAccount = Int64.maxValue) :
    Tables.insertAccount [] account stamp tables = .error .full := by
  have unnumbered : nextId tables.lastAccount = .error .full := if_pos spent
  rw [Tables.insertAccount, Trigger.fire_nil, unnumbered]
  rfl

namespace Sample

/-- The name of the settler with a number, which is also their email. -/
def settlerName (number : Nat) : String :=
  String.ofList (List.replicate number 'u')

/-- No two settlers have the same name. -/
theorem settlerName_injective : Function.Injective settlerName := by
  intro number other same
  have lengths := congrArg (fun name : String => name.toList.length) same
  simpa [settlerName] using lengths

/-- A name with another letter in it is no settler's. -/
theorem settlerName_ne {name : String} {letter : Char} (there : letter ∈ name.toList)
    (other : letter ≠ 'u') (number : Nat) : settlerName number ≠ name := by
  rintro rfl
  rw [settlerName, String.toList_ofList] at there
  exact other (List.eq_of_mem_replicate there)

/-- The account that the settler with a number opens. -/
def settler (number : Nat) : NewAccount :=
  ⟨settlerName number, settlerName number, "p", "", ""⟩

/-- The database on which so many settlers have opened accounts, one after the other. -/
def populated : Nat → Database
  | 0 => database
  | count + 1 =>
    (((AccountOperation.save (settler count)).perform accountRepository).run.outcome
      (populated count)).2

/-- The populated database is built by operations. -/
theorem reachable_populated (count : Nat) : (populated count).Reachable := by
  induction count with
  | zero => exact .empty _
  | succ count ih => exact ih.account (.save (settler count))

/-- Whether the accounts are those of so many settlers, each of whom has used up an id. -/
structure Populated (count : Nat) (tables : Tables) : Prop where
  names : ∀ row ∈ tables.accounts, ∃ number < count,
    row.username = .text (settlerName number) ∧ row.email = .text (settlerName number)
  last : tables.lastAccount.toInt = count

/-- No settler has a username or an email with another letter in it. -/
theorem Populated.free {count : Nat} {tables : Tables} (begun : Populated count tables)
    {username email : String} {letter : Char} (in_username : letter ∈ username.toList)
    (in_email : letter ∈ email.toList) (other : letter ≠ 'u') :
    ∀ row ∈ tables.accounts, row.username ≠ .text username ∧ row.email ≠ .text email := by
  intro row there
  obtain ⟨number, -, named, reached⟩ := begun.names row there
  rw [named, reached]
  exact ⟨fun same => settlerName_ne in_username other number (Cell.text.inj same),
    fun same => settlerName_ne in_email other number (Cell.text.inj same)⟩

/-- As long as there are ids, the next settler is not refused. -/
theorem Populated.insertAccount {count : Nat} {tables : Tables} (stamp : Cell)
    (begun : Populated count tables) (room : (count : Int) < Int64.maxValue.toInt) :
    ∃ after, Tables.insertAccount [] (settler count) stamp tables = .ok after ∧
      Populated (count + 1) after := by
  cases ran : Tables.insertAccount [] (settler count) stamp tables with
  | error refusal =>
    rcases insertAccount_error ran with ⟨-, all⟩ | ⟨-, -, row, there, taken⟩
    · have last := begun.last
      rw [all] at last
      omega
    · obtain ⟨number, earlier, username, email⟩ := begun.names row there
      have same : settlerName number = settlerName count := by
        rcases taken with taken | taken
        · exact Cell.text.inj (username.symm.trans taken)
        · exact Cell.text.inj (email.symm.trans taken)
      exact absurd (settlerName_injective same) (Nat.ne_of_lt earlier)
  | ok after =>
    obtain ⟨id, next, -, rfl⟩ := insertAccount_eq_ok ran
    refine ⟨_, rfl, ?_, ?_⟩
    · intro row there
      rcases List.mem_append.mp there with old | new
      · obtain ⟨number, earlier, named⟩ := begun.names row old
        exact ⟨number, Nat.lt_succ_of_lt earlier, named⟩
      · rw [List.mem_singleton.mp new]
        exact ⟨count, Nat.lt_succ_self count, rfl, rfl⟩
    · exact (toInt_nextId next).trans (congrArg (· + 1) begun.last)

/-- Up to the last id every settler opens an account. -/
theorem populated_populated (count : Nat) (room : (count : Int) ≤ Int64.maxValue.toInt) :
    Populated count (populated count).tables := by
  induction count with
  | zero => exact ⟨by rintro row ⟨⟩, rfl⟩
  | succ count ih =>
    have before := ih (by omega)
    have reachable := reachable_populated count
    obtain ⟨after, inserted, populated_after⟩ := before.insertAccount
      (.text ((populated count).clock (populated count).readings).stored) (by omega)
    have opened : (populated (count + 1)).tables = after := by
      rw [populated, (AccountOperation.save (settler count)).outcome_effect]
      simp only [AccountOperation.effect,
        run_saveAccount reachable.orderly.toHealthy reachable.ready.closed, inserted]
    rw [opened]
    exact populated_after

/-- A database without accounts whose clock stands still in the year 10000. -/
def distant : Database where
  clock _ := ⟨⟨10000, 3, 4, by decide, by decide, by decide⟩,
    ⟨9, 26, 53, 125000000, by decide, by decide, by decide, by decide⟩⟩

end Sample

/-- An account whose email and username are free is not always answered with.  When all ids have been
given out it is refused for that reason, and when the clock shows a sign before the year it is there
but cannot be read. -/
theorem accounts_not_form_directory :
    let late : NewAccount := ⟨"late", "late@x.com", "p", "", ""⟩
    let full := Sample.populated 9223372036854775807
    (full.Reachable ∧
      (∀ row ∈ full.tables.accounts,
        row.username ≠ .text late.username ∧ row.email ≠ .text late.email) ∧
      ∃ after, (accountRepository.save late).run.outcome full =
        (.ok (.error (.queryFailed "database or disk is full")), after)) ∧
    Sample.distant.Reachable ∧ Sample.distant.tables.accounts = [] ∧
      ∃ after, (accountRepository.save late).run.outcome Sample.distant =
          (.ok (.error (.queryFailed
            "Conversion error from type Text at index: 0, input contains invalid characters")),
            after) ∧
        after.tables.accounts.length = 1 := by
  intro late full
  have reachable : full.Reachable := Sample.reachable_populated 9223372036854775807
  have largest : Int64.maxValue.toInt = ((9223372036854775807 : Nat) : Int) := by decide
  have populated : Sample.Populated 9223372036854775807 full.tables :=
    Sample.populated_populated 9223372036854775807 largest.symm.le
  have spent : full.tables.lastAccount = Int64.maxValue :=
    Int64.toInt_inj.mp (populated.last.trans largest.symm)
  have refused (stamp : Cell) : Tables.insertAccount [] late stamp full.tables = .error .full :=
    Tables.insertAccount_of_spent spent
  have ran := run_saveAccount reachable.orderly.toHealthy reachable.ready.closed late
  rw [refused] at ran
  have initial : 'l' ≠ 'u' := by decide
  exact ⟨⟨reachable, populated.free (by decide) (by decide) initial, _, outcome_of_run ran⟩, .empty _,
    rfl, _, rfl, rfl⟩

end Gazette
