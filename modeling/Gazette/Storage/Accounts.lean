import Gazette.Storage.Database

/-!
# Accounts in the database

Opening, changing and finding accounts.  The same operations serve alone and inside a unit
of work.
-/

set_option autoImplicit false

namespace Gazette

/-- The first row that a query has found. -/
def firstRow {α : Type} (read : Row → Except EngineError α) (rows : List Row) :
    Except EngineError α :=
  match rows with
  | [] => .error .noRows
  | row :: _ => read row

namespace Database

/-- How errors call an account. -/
def accountEntity : String := "Account"

/-- Finds the account with an email. -/
def findAccount (email : String) : Session Database Account :=
  Engine.about (query [.accounts] fun tables =>
    firstRow Row.account
      ((tables.accounts.filter fun row => row.email = .text email).map AccountRow.columns))
    accountEntity email

/-- Opens an account. -/
def saveAccount (account : NewAccount) : Session Database Account := do
  let stamp ← now
  Engine.about (execute [.itself .accounts] fun triggers =>
    Tables.insertAccount triggers account (.text stamp.stored)) accountEntity account.email
  findAccount account.email

/-- Changes the account with an email. -/
def updateAccount (email : String) (patch : AccountPatch) : Session Database Unit := do
  let stamp ← now
  let changed ← Engine.about (statement [.itself .accounts] fun triggers =>
    Tables.updateAccount triggers email patch (.text stamp.stored)) accountEntity email
  if changed = 0 then throw (.notFound accountEntity email)

end Database

end Gazette
