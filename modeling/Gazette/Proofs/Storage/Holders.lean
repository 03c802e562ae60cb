import Mathlib.Data.List.Basic
import Gazette.Cached.Articles
import Gazette.Proofs.Storage.Transactions

/-!
# What statements leave of the accounts

An account is looked up by its email.  No statement takes an account away from its email, and the
only statement that changes what is found under an email is an update of that very account.
-/

set_option autoImplicit false

namespace Gazette

open Tables Session Database

namespace Tables

variable {tables before after later : Tables} {email : String} {account : Account}
  {exempt : List String}

/-- The rows of the accounts with an email. -/
def withEmail (tables : Tables) (email : String) : List AccountRow :=
  tables.accounts.filter fun row => row.email = .text email

/-- The account that the tables hold under an email, or why there is none. -/
def holder (tables : Tables) (email : String) : Except StorageError Account :=
  (firstRow Row.account ((tables.withEmail email).map AccountRow.columns)).mapError
    (EngineError.about accountEntity email)

/-- What is found under an email is read from the first row with that email. -/
theorem holder_of_head? {row : AccountRow} (first : (tables.withEmail email).head? = some row) :
    tables.holder email =
      (Row.account row.columns).mapError (EngineError.about accountEntity email) := by
  unfold holder
  cases same : tables.withEmail email with
  | nil =>
    rw [same] at first
    cases first
  | cons other rows =>
    rw [same] at first
    cases first
    rfl

/-- If an account is found under an email, there is a first row with that email. -/
theorem head?_of_holder (held : tables.holder email = .ok account) :
    ∃ row, (tables.withEmail email).head? = some row := by
  cases same : tables.withEmail email with
  | nil =>
    rw [holder, same] at held
    cases held
  | cons row rows => exact ⟨row, rfl⟩

/-- A row that is chosen for its email has that email. -/
theorem email_of_mem_withEmail {row : AccountRow} (there : row ∈ tables.withEmail email) :
    row.email = .text email := by
  have named := (List.mem_filter.mp there).2
  simpa using named

/-- The account is found under its own email. -/
theorem email_of_holder (held : tables.holder email = .ok account) : account.email = email := by
  obtain ⟨row, first⟩ := head?_of_holder held
  have named : row.email = .text email := email_of_mem_withEmail (List.mem_of_mem_head? first)
  rw [holder_of_head? first, mapError_ok_iff] at held
  simp only [Row.account, bind_ok_iff, pure_ok_iff, Row.text_eq_ok] at held
  obtain ⟨_, -, _, -, _, -, _, -, read, ⟨column, there, cell⟩, -, -, -, -, -, -, -, -, -, -, -, -,
    rfl⟩ := held
  cases there
  rw [named] at cell
  exact (Cell.text.inj cell).symm

/-- Two states of the tables between which no account has been taken away from its email, and what
is found has not changed except under the emails in the list. -/
def Retains (exempt : List String) (before after : Tables) : Prop :=
  ∀ email, email ∉ exempt → ∀ row, (before.withEmail email).head? = some row →
    (after.withEmail email).head? = some row

namespace Retains

/-- Nothing has been taken away between a state of the tables and itself. -/
theorem refl (exempt : List String) (tables : Tables) : Retains exempt tables tables :=
  fun _ _ _ first => first

/-- What each of two steps retains is retained by both together. -/
theorem trans (first : Retains exempt before after) (second : Retains exempt after later) :
    Retains exempt before later :=
  fun email other row found => second email other row (first email other row found)

/-- More emails may be left out. -/
theorem mono {more : List String} (h : Retains exempt before after)
    (less : ∀ email, email ∈ exempt → email ∈ more) : Retains more before after :=
  fun email other => h email fun there => other (less email there)

/-- Where the accounts have been left alone, all of them have been retained. -/
theorem of_same (same : SameAccounts before after) : Retains exempt before after := by
  intro email _ row first
  unfold withEmail at first ⊢
  rw [same]
  exact first

/-- An account that has been found is found again. -/
theorem holder (h : Retains exempt before after) (other : email ∉ exempt)
    (held : before.holder email = .ok account) : after.holder email = .ok account := by
  obtain ⟨row, first⟩ := head?_of_holder held
  rw [holder_of_head? (h email other row first), ← holder_of_head? first]
  exact held

end Retains

/-- Opening an account changes nothing under the emails that are taken. -/
theorem retains_insertAccount {triggers : List Trigger} {new : NewAccount} {stamp : Cell}
    (done : insertAccount triggers new stamp tables = .ok after) : Retains [] tables after := by
  simp only [insertAccount, bind_ok_iff, unless_ok_iff, pure_ok_iff] at done
  obtain ⟨_, -, id, -, -, rfl⟩ := done
  intro email _ row first
  unfold withEmail at first ⊢
  rw [List.filter_append, List.head?_append, first]
  rfl

/-- Updating an account changes what is found under its own email only, and not even that if there
is no such account. -/
theorem retains_updateAccount {triggers : List Trigger} {patch : AccountPatch} {stamp : Cell}
    {count : Nat} (done : updateAccount triggers email patch stamp tables = .ok (count, after)) :
    Retains [email] tables after ∧ (count = 0 → after = tables) := by
  unfold updateAccount at done
  dsimp only at done
  split at done
  · cases pure_ok_iff.mp done
    exact ⟨Retains.refl _ _, fun _ => rfl⟩
  · rename_i some_match
    simp only [bind_ok_iff, unless_ok_iff, pure_ok_iff, Prod.mk.injEq] at done
    obtain ⟨_, -, -, rfl, rfl⟩ := done
    refine ⟨?_, fun none => absurd (List.length_eq_zero_iff.mp none) some_match⟩
    intro other different row first
    unfold withEmail at first ⊢
    have apart : other ≠ email := by simpa using different
    -- the rows with another email are neither patched nor joined by patched ones
    have same : ∀ rows : List AccountRow,
        (rows.map fun row =>
            if row.email = .text email then patchRow patch stamp row else row).filter
          (fun row => row.email = .text other) =
            rows.filter fun row => row.email = .text other := by
      intro rows
      induction rows with
      | nil => rfl
      | cons row rows ih =>
        have changed : (patchRow patch stamp row).email = row.email := rfl
        by_cases here : row.email = .text email
        · have elsewhere : Cell.text email ≠ Cell.text other := fun same =>
            apart (Cell.text.inj same).symm
          simp [here, changed, elsewhere, ih]
        · simp [here, List.filter_cons, ih]
    rw [same]
    exact first

end Tables

/-- Looking for an account on a healthy database. -/
theorem Database.findAccount_eq {db : Database} (healthy : db.Healthy) (email : String) :
    (findAccount email).run db = (db.tables.holder email, db) := by
  unfold findAccount
  rw [run_query healthy]
  rfl

/-- An account that has been found is held by the tables. -/
theorem Database.holder_of_find {db after : Database} {email : String} {account : Account}
    (ran : (findAccount email).run db = (.ok account, after)) :
    after.tables.holder email = .ok account := by
  obtain ⟨found, rfl⟩ := query_eq_ok ran
  rw [holder, mapError_ok_iff]
  exact found

/-- An account that has been saved is held by the tables. -/
theorem Database.holder_of_save {db after : Database} {new : NewAccount} {account : Account}
    (ran : (saveAccount new).run db = (.ok account, after)) :
    after.tables.holder new.email = .ok account := by
  obtain ⟨stamp, ready, -, ran⟩ := run_bind_eq_ok ran
  obtain ⟨_, written, -, ran⟩ := run_bind_eq_ok ran
  exact holder_of_find ran

/-- An update of an account changes what is found under its email only, and only if it succeeds. -/
theorem Database.leaves_updateAccount (email : String) (patch : AccountPatch) (db : Database) :
    Leaves (fun result before after =>
        Retains (updatedEmails [⟨.updateAccount email patch, result⟩]) before after ∧
          (result.toBool = false → after = before)) db
      ((updateAccount email patch).run db) := by
  unfold updateAccount
  rw [run_bind, run_now]
  dsimp only
  rw [run_bind]
  have left := leaves_statement [.itself .accounts] accountEntity email (fun triggers =>
    Tables.updateAccount triggers email patch (.text (db.clock db.readings).stored))
    { db with readings := db.readings + 1 }
  generalize (Engine.about _ accountEntity email).run _ = outcome at left ⊢
  cases left with
  | lost alike opened gone back =>
    exact .lost ⟨alike.triggers, alike.missing, alike.locked, alike.clock⟩ opened gone back
  | @kept result after alike same_work told =>
    have from_start : db.Alike after := ⟨alike.triggers, alike.missing, alike.locked, alike.clock⟩
    have unchanged {result : Except StorageError Unit} (same : after.tables = db.tables) :
        Retains (updatedEmails [⟨.updateAccount email patch, result⟩]) db.tables after.tables ∧
          (result.toBool = false → after.tables = db.tables) := by
      rw [same]
      exact ⟨Retains.refl _ _, fun _ => rfl⟩
    cases result with
    | error error => exact .kept from_start same_work (unchanged (told.2 error rfl))
    | ok count =>
      obtain ⟨retains, nothing⟩ := retains_updateAccount (told.1 count rfl)
      dsimp only
      split
      · rename_i none
        exact .kept from_start same_work (unchanged (nothing none))
      · exact .kept from_start same_work ⟨retains, nofun⟩

/-- A step of a unit of work changes nothing under an email but that of an account that it is
reported to have updated. -/
theorem Step.leaves_retains (tagBatch : Nat) (step : Step) (db : Database) :
    Leaves (fun result => Retains (updatedEmails [⟨step, result⟩])) db
      ((step.perform tagBatch).run db) := by
  have same {α : Type} {session : Session Database α} {exempt : Except StorageError α → List String}
      (composed : Composed SameAccounts session) :
      Leaves (fun result => Retains (exempt result)) db (session.run db) :=
    (composed.leaves SameAccounts.refl SameAccounts.trans db).mono
      fun _ _ _ accounts => .of_same accounts
  have fewer {α : Type} {session : Session Database α}
      {exempt : Except StorageError α → List String} (composed : Composed Removes session) :
      Leaves (fun result => Retains (exempt result)) db (session.run db) :=
    same (composed.mono fun _ _ removes => removes.accounts)
  cases step with
  | updateAccount email patch =>
    exact (leaves_updateAccount email patch db).mono fun _ _ _ changed => changed.1
  | saveAccount account =>
    have composed : Composed (Retains []) (Database.saveAccount account) :=
      composed_saveAccount (Retains.refl _) account fun _ _ _ _ done => retains_insertAccount done
    exact composed.leaves (Retains.refl _) Retains.trans db
  | findAccount email => exact same (composed_findAccount SameAccounts.refl email)
  | saveArticle article => exact same (composed_insertArticle article)
  | findArticle slug => exact same (composed_findArticle SameAccounts.refl slug)
  | listArticles criteria => exact same (composed_listArticles SameAccounts.refl tagBatch criteria)
  | deleteArticle authorId slug => exact fewer (composed_removeArticle authorId slug)
  | saveComment slug comment => exact same (composed_saveComment slug comment)
  | findComments slug => exact same (composed_findComments SameAccounts.refl slug)
  | deleteComment authorId slug id => exact fewer (composed_removeComment authorId slug id)
  | deleteComments authorId slug => exact fewer (composed_removeComments authorId slug)

/-- The emails that a record has updated are those of its first step and those of the others. -/
theorem updatedEmails_cons (performed : Performed) (record : List Performed) :
    updatedEmails (performed :: record) = updatedEmails [performed] ++ updatedEmails record := by
  unfold updatedEmails
  rw [← List.filterMap_append]
  rfl

/-- The emails under which a unit of work has changed an account, unless all of it has been
undone. -/
def refreshedByWork (answer : Except StorageError Unit × Option (List Performed)) : List String :=
  if answer.1.toBool then updatedEmails (answer.2.getD []) else []

/-- A unit of work that has not been ended by one of its steps changes nothing under an email but
those of the accounts that it has updated. -/
theorem Database.retains_carryOut (tagBatch : Nat) (work : Work) {db : Database}
    (unlocked : db.locked = false) (unbroken : work.Unbroken tagBatch db) :
    Retains (refreshedByWork (Database.carryOut tagBatch work db).1) db.tables
      (Database.carryOut tagBatch work db).2.tables := by
  have through := Database.run_carryOut tagBatch work db
  have more {performed : Performed} {record : List Performed} {before between after : Tables}
      (first : Retains (updatedEmails [performed]) before between)
      (rest : Retains (updatedEmails record) between after) :
      Retains (updatedEmails (performed :: record)) before after := by
    rw [updatedEmails_cons]
    exact (first.mono fun email there => List.mem_append_left _ there).trans
      (rest.mono fun email there => List.mem_append_right _ there)
  obtain ⟨-, open_or_not⟩ :=
    @Work.leaves_carryOut tagBatch (fun record => Retains (updatedEmails record))
    (Retains.refl _) more (Step.leaves_retains tagBatch) work
    { db with beforeWork := some db.tables }
  unfold Work.Unbroken at unbroken
  rw [through]
  cases ran : work.carryOut tagBatch { db with beforeWork := some db.tables } with
  | mk answer after =>
    obtain ⟨outcome, record⟩ := answer
    rw [ran] at unbroken open_or_not
    obtain ⟨opened, retains⟩ := open_or_not.resolve_left unbroken
    cases outcome with
    | ok value =>
      rw [unitOfWork_commit unlocked ran opened]
      exact retains
    | error cause =>
      rw [unitOfWork_rollback unlocked ran opened, undone, opened]
      exact Retains.refl _ _

end Gazette
