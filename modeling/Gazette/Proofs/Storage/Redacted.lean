import Mathlib.Data.List.Basic
import Gazette.Proofs.Storage.Changes

/-!
# The storage without its credentials

The texts of passwords are stored and given back, but nothing else depends on them.  So whatever is
done on a database does the same on a database without them: the same statements are refused, the
same rows are changed, and what is answered is the same but for the passwords in it.
-/

set_option autoImplicit false

namespace Gazette

open Tables Session Database

section Redactions

/-- A stored password without its text. -/
def Cell.redacted : Cell → Cell
  | .text _ => .text ""
  | cell => cell

/-- A row of the accounts without the text of its password. -/
def AccountRow.redacted (row : AccountRow) : AccountRow :=
  { row with password := row.password.redacted }

/-- The tables without the texts of passwords. -/
def Tables.redacted (tables : Tables) : Tables :=
  { tables with accounts := tables.accounts.map AccountRow.redacted }

/-- A database without the texts of passwords. -/
def Database.redacted (db : Database) : Database :=
  { db with
    tables := db.tables.redacted
    beforeWork := db.beforeWork.map Tables.redacted }

/-- A new account without the text of its password. -/
def NewAccount.redacted (account : NewAccount) : NewAccount :=
  { account with password := "" }

/-- A patch without the text of its password, which it may still change. -/
def AccountPatch.redacted (patch : AccountPatch) : AccountPatch :=
  { patch with password := patch.password.map fun _ => "" }

/-- A unit of work is undone without looking at passwords. -/
theorem undone_redacted (db : Database) : db.redacted.undone = db.undone.redacted := by
  unfold undone
  cases opened : db.beforeWork with
  | none => simp [Database.redacted, opened]
  | some tables => simp [Database.redacted, opened]

end Redactions

/-- Whether an operation does on every state, as far as a view of the state shows, what another one
does on the view, with answers of which a part is shown as well. -/
def Mirrors {ε σ α τ : Type} (view : σ → σ) (shown : α → τ) (operation : ExceptT ε (StateM σ) α)
    (mirror : ExceptT ε (StateM σ) τ) : Prop :=
  ∀ state, mirror.run (view state) =
    ((operation.run state).1.map shown, view (operation.run state).2)

section Rules

variable {ε σ α β τ υ γ : Type} {view : σ → σ}

/-- An operation that only answers answers with what is shown of its value. -/
theorem mirrors_pure (shown : α → τ) (value : α) :
    Mirrors view shown (pure value : ExceptT ε (StateM σ) α) (pure (shown value)) :=
  fun _ => rfl

/-- An operation that only fails fails with the same error. -/
theorem mirrors_throw (shown : α → τ) (error : ε) :
    Mirrors view shown (throw error : ExceptT ε (StateM σ) α) (throw error) :=
  fun _ => rfl

/-- Two operations one after the other. -/
theorem mirrors_bind {seen : β → υ} {shown : α → τ} {operation : ExceptT ε (StateM σ) β}
    {mirror : ExceptT ε (StateM σ) υ} {next : β → ExceptT ε (StateM σ) α}
    {next_mirror : υ → ExceptT ε (StateM σ) τ} (first : Mirrors view seen operation mirror)
    (second : ∀ value, Mirrors view shown (next value) (next_mirror (seen value))) :
    Mirrors view shown (operation >>= next) (mirror >>= next_mirror) := by
  intro state
  have opened : (operation >>= next).run state =
      ExceptT.bindCont next (operation.run state).1 (operation.run state).2 := rfl
  have opened_mirror : (mirror >>= next_mirror).run (view state) =
      ExceptT.bindCont next_mirror (mirror.run (view state)).1 (mirror.run (view state)).2 := rfl
  rw [opened, opened_mirror, first state]
  cases (operation.run state).1 with
  | error error => rfl
  | ok value => exact second value (operation.run state).2

/-- One operation for each member of a list. -/
theorem mirrors_mapM {operation : γ → ExceptT ε (StateM σ) α}
    (h : ∀ item, Mirrors view id (operation item) (operation item)) (items : List γ) :
    Mirrors view id (items.mapM operation) (items.mapM operation) := by
  induction items with
  | nil =>
    rw [List.mapM_nil]
    exact mirrors_pure id []
  | cons item items ih =>
    rw [List.mapM_cons]
    exact mirrors_bind (h item) fun value => mirrors_bind ih fun values => mirrors_pure id _

/-- A loop over a list. -/
theorem mirrors_forIn {operation : γ → ExceptT ε (StateM σ) Unit}
    (h : ∀ item, Mirrors view id (operation item) (operation item)) (items : List γ) :
    Mirrors view id
      (ForIn.forIn items PUnit.unit fun item _ => do
        operation item
        pure (ForInStep.yield PUnit.unit))
      (ForIn.forIn items PUnit.unit fun item _ => do
        operation item
        pure (ForInStep.yield PUnit.unit)) := by
  induction items with
  | nil =>
    rw [List.forIn_nil]
    exact mirrors_pure id _
  | cons item items ih =>
    rw [List.forIn_cons]
    apply mirrors_bind
    · exact mirrors_bind (h item) fun _ => mirrors_pure id _
    · rintro (_ | _)
      · exact mirrors_pure id _
      · exact ih

end Rules

section Statements

variable {α τ : Type} {entity name : String}

/-- A statement whose change does the same without passwords. -/
theorem mirrors_statement {needs : List Need} {shown : α → τ}
    {change : List Trigger → Tables → Except Refusal (α × Tables)}
    {mirror : List Trigger → Tables → Except Refusal (τ × Tables)}
    (same : ∀ triggers tables, mirror triggers tables.redacted =
      (change triggers tables).map fun result => (shown result.1, result.2.redacted)) :
    Mirrors Database.redacted shown (Engine.about (Database.statement needs change) entity name)
      (Engine.about (Database.statement needs mirror) entity name) := by
  intro db
  rw [Engine.run_about, Engine.run_about]
  unfold Database.statement
  simp only [ExceptT.run_mk]
  have circumstances : db.redacted.locked = db.locked ∧ db.redacted.missing = db.missing ∧
      db.redacted.triggers = db.triggers ∧ db.redacted.tables = db.tables.redacted :=
    ⟨rfl, rfl, rfl, rfl⟩
  obtain ⟨locked, missing, triggers, tables⟩ := circumstances
  rw [locked, missing, triggers, tables, same]
  split
  · rfl
  · split
    · rfl
    · cases change db.triggers db.tables with
      | ok result => rfl
      | error refusal =>
        cases ends : refusal.endsWork with
        | false => simp [Except.map, Except.mapError, ends]
        | true => simp [Except.map, Except.mapError, ends, undone_redacted]

/-- A statement that gives the same value without passwords. -/
theorem mirrors_change {needs : List Need}
    {change mirror : List Trigger → Tables → Except Refusal (α × Tables)}
    (same : ∀ triggers tables, mirror triggers tables.redacted =
      (change triggers tables).map fun result => (result.1, result.2.redacted)) :
    Mirrors Database.redacted id (Engine.about (Database.statement needs change) entity name)
      (Engine.about (Database.statement needs mirror) entity name) :=
  mirrors_statement same

/-- A statement that gives no value and does the same without passwords. -/
theorem mirrors_execute {needs : List Need}
    {change mirror : List Trigger → Tables → Except Refusal Tables}
    (same : ∀ triggers tables, mirror triggers tables.redacted =
      (change triggers tables).map Tables.redacted) :
    Mirrors Database.redacted id (Engine.about (Database.execute needs change) entity name)
      (Engine.about (Database.execute needs mirror) entity name) := by
  apply mirrors_statement
  intro triggers tables
  rw [same]
  cases change triggers tables <;> rfl

/-- A query that answers the same without passwords, but for those in the answer. -/
theorem mirrors_query {needs : List TableName} {shown : α → τ}
    {read : Tables → Except EngineError α} {mirror : Tables → Except EngineError τ}
    (same : ∀ tables, mirror tables.redacted = (read tables).map shown) :
    Mirrors Database.redacted shown (Engine.about (Database.query needs read) entity name)
      (Engine.about (Database.query needs mirror) entity name) := by
  apply mirrors_statement
  intro _ tables
  rw [same]
  cases read tables <;> rfl

/-- A query that answers the same without passwords. -/
theorem mirrors_read {needs : List TableName} {read : Tables → Except EngineError α}
    (same : ∀ tables, read tables.redacted = read tables) :
    Mirrors Database.redacted id (Engine.about (Database.query needs read) entity name)
      (Engine.about (Database.query needs read) entity name) := by
  apply mirrors_query
  intro tables
  rw [same]
  cases read tables <;> rfl

/-- A reading of the clock. -/
theorem mirrors_now : Mirrors Database.redacted id Database.now Database.now :=
  fun _ => rfl

end Statements

section Changes

variable {triggers : List Trigger} {tables : Tables} {stamp : Cell}

/-- A property of rows that does not depend on their passwords. -/
theorem any_redacted {wanted : AccountRow → Bool}
    (blind : ∀ row, wanted row.redacted = wanted row) :
    tables.redacted.accounts.any wanted = tables.accounts.any wanted := by
  have same : wanted ∘ AccountRow.redacted = wanted := funext blind
  have rows : tables.redacted.accounts = tables.accounts.map AccountRow.redacted := rfl
  rw [rows, List.any_map, same]

/-- The rows with an email. -/
theorem filter_email_redacted (email : String) :
    (tables.redacted.accounts.filter fun row => row.email = .text email) =
      (tables.accounts.filter fun row => row.email = .text email).map AccountRow.redacted :=
  List.filter_map

/-- A reference leads to the same account without passwords. -/
theorem account?_redacted (reference : Cell) :
    tables.redacted.account? reference = (tables.account? reference).map AccountRow.redacted :=
  List.find?_map

/-- To show a part of what two steps end with is to show it of the second step. -/
theorem map_bind {ε α β γ : Type} (shown : β → γ) (first : Except ε α) (next : α → Except ε β) :
    (first >>= next).map shown = first >>= fun value => (next value).map shown := by
  cases first <;> rfl

/-- Inserting an account does without passwords what it does with them. -/
theorem insertAccount_redacted (account : NewAccount) :
    Tables.insertAccount triggers account.redacted stamp tables.redacted =
      (Tables.insertAccount triggers account stamp tables).map Tables.redacted := by
  have opened (account : NewAccount) (tables : Tables) :
      Tables.insertAccount triggers account stamp tables =
        (do
          Trigger.fire triggers .accounts .insert
          let id ← nextId tables.lastAccount
          if tables.accounts.any fun other =>
              other.username = .text account.username || other.email = .text account.email then
            throw .taken
          return { tables with
            accounts := tables.accounts ++ [account.row id stamp], lastAccount := id }) := rfl
  have inserted (id : Int64) : ({ tables.redacted with
        accounts := tables.redacted.accounts ++ [account.redacted.row id stamp]
        lastAccount := id } : Tables) =
      Tables.redacted { tables with
        accounts := tables.accounts ++ [account.row id stamp], lastAccount := id } := by
    simp only [Tables.redacted, List.map_append]
    rfl
  have taken : (tables.redacted.accounts.any fun other =>
        other.username = .text account.redacted.username ||
          other.email = .text account.redacted.email) =
      tables.accounts.any fun other =>
        other.username = .text account.username || other.email = .text account.email :=
    any_redacted fun _ => rfl
  rw [opened, opened]
  simp only [map_bind, apply_ite (Except.map _), inserted, taken]
  rfl

/-- A row over which a patch is written. -/
theorem patchRow_redacted (patch : AccountPatch) (row : AccountRow) :
    patchRow patch.redacted stamp row.redacted = (patchRow patch stamp row).redacted := by
  obtain ⟨username, password, bio, image⟩ := patch
  cases password <;> rfl

/-- Updating an account does without passwords what it does with them. -/
theorem updateAccount_redacted (email : String) (patch : AccountPatch) :
    Tables.updateAccount triggers email patch.redacted stamp tables.redacted =
      (Tables.updateAccount triggers email patch stamp tables).map fun result =>
        (result.1, result.2.redacted) := by
  have patched : (tables.redacted.accounts.map fun row =>
        if row.email = .text email then patchRow patch.redacted stamp row else row) =
      (tables.accounts.map fun row =>
        if row.email = .text email then patchRow patch stamp row else row).map
          AccountRow.redacted := by
    have rows : tables.redacted.accounts = tables.accounts.map AccountRow.redacted := rfl
    rw [rows, List.map_map, List.map_map]
    apply List.map_congr_left
    intro row _
    simp only [Function.comp_apply, ← patchRow_redacted, apply_ite AccountRow.redacted]
    rfl
  unfold Tables.updateAccount
  simp only [map_bind, apply_ite (Except.map _), filter_email_redacted, patched, List.length_map,
    List.map_eq_nil_iff]
  rw [any_redacted]
  · rfl
  · exact fun _ => rfl

/-- Asking for a tag does not look at passwords. -/
theorem upsertTag_redacted (name : String) :
    upsertTag triggers name tables.redacted =
      (upsertTag triggers name tables).map Tables.redacted := by
  unfold upsertTag
  simp only [map_bind, apply_ite (Except.map Tables.redacted)]
  rfl

/-- Inserting an article does not look at passwords. -/
theorem insertArticle_redacted (article : NewArticle) :
    Tables.insertArticle triggers article stamp tables.redacted =
      (Tables.insertArticle triggers article stamp tables).map fun result =>
        (result.1, result.2.redacted) := by
  unfold Tables.insertArticle
  simp only [account?_redacted, Option.isNone_map, map_bind, apply_ite (Except.map _)]
  rfl

/-- Attaching a tag does not look at passwords. -/
theorem insertLink_redacted (articleId tagId : Int64) :
    Tables.insertLink triggers articleId tagId tables.redacted =
      (Tables.insertLink triggers articleId tagId tables).map Tables.redacted := by
  unfold Tables.insertLink
  simp only [map_bind, apply_ite (Except.map _)]
  rfl

/-- Marking an article as deleted does not look at passwords. -/
theorem tombstoneArticle_redacted (authorId : Int64) (slug : String) (unix : Cell) :
    Tables.tombstoneArticle triggers authorId slug unix stamp tables.redacted =
      (Tables.tombstoneArticle triggers authorId slug unix stamp tables).map fun result =>
        (result.1, result.2.redacted) := by
  unfold Tables.tombstoneArticle
  have articles : tables.redacted.articles = tables.articles := rfl
  rw [articles]
  dsimp only
  split
  · rfl
  · simp only [map_bind]
    rfl

/-- Detaching tags does not look at passwords. -/
theorem deleteLinks_redacted (articleId : Int64) :
    Tables.deleteLinks triggers articleId tables.redacted =
      (Tables.deleteLinks triggers articleId tables).map Tables.redacted := by
  unfold Tables.deleteLinks
  simp only [map_bind, apply_ite (Except.map _)]
  rfl

/-- Inserting a comment does not look at passwords. -/
theorem insertComment_redacted (slug : String) (comment : NewComment) :
    Tables.insertComment triggers slug comment stamp tables.redacted =
      (Tables.insertComment triggers slug comment stamp tables).map fun result =>
        (result.1, result.2.redacted) := by
  unfold Tables.insertComment
  simp only [account?_redacted, Option.isNone_map, map_bind, apply_ite (Except.map _)]
  rfl

/-- Marking comments as deleted does not look at passwords. -/
theorem tombstoneComments_redacted (chosen : CommentRow → Bool) :
    Tables.tombstoneComments triggers chosen stamp tables.redacted =
      (Tables.tombstoneComments triggers chosen stamp tables).map fun result =>
        (result.1, result.2.redacted) := by
  unfold Tables.tombstoneComments
  simp only [map_bind, apply_ite (Except.map _)]
  rfl

end Changes

section Columns

/-- The account of a row is read without looking at its password. -/
theorem account_redacted (row : AccountRow) :
    Row.account row.redacted.columns = (Row.account row.columns).map Account.redacted := by
  obtain ⟨id, username, email, password, bio, image, disabled, created, updated⟩ := row
  unfold Row.account
  simp only [map_bind]
  cases password <;> rfl

/-- An article is joined with its author without looking at the password. -/
theorem articleColumns?_redacted (tables : Tables) :
    tables.redacted.articleColumns? = tables.articleColumns? := by
  funext row
  unfold articleColumns?
  rw [account?_redacted, Option.map_map]
  rfl

/-- The columns of a comment show nothing of passwords. -/
theorem commentColumns?_redacted (tables : Tables) :
    tables.redacted.commentColumns? = tables.commentColumns? := by
  funext row
  unfold commentColumns?
  rw [account?_redacted, Option.map_map]
  rfl

end Columns

end Gazette
