import Mathlib.Data.List.Basic
import Mathlib.Data.List.Sublists
import Gazette.Proofs.Storage.Changes
import Gazette.Storage.Statement

/-!
# The assembled update

The text of an update of an account names the columns that a patch gives values for, and its values
are bound by their positions.  Read as the engine reads it, the text writes each value into its own
column, the stamp into the column of the last change, and nothing else.
-/

set_option autoImplicit false

namespace Gazette

namespace AccountPatch

/-- The columns that a patch gives values for, with the values. -/
def fields (patch : AccountPatch) : List (String × String) :=
  [("username", patch.username), ("password", patch.password), ("bio", patch.bio),
    ("image", patch.image)].filterMap fun (column, value) => value.map fun value => (column, value)

/-- The columns that the text of an update names. -/
def columns (patch : AccountPatch) : List String :=
  patch.fields.map Prod.fst

/-- The values that are bound to the text of an update, from the first position on. -/
def parameters (patch : AccountPatch) (stamp email : String) : List String :=
  patch.fields.map Prod.snd ++ [stamp, email]

/-- The columns are some of the four that can be changed, in their order. -/
theorem columns_sublist (patch : AccountPatch) :
    patch.columns.Sublist ["username", "password", "bio", "image"] := by
  have fewer (candidates : List (String × Option String)) :
      ((candidates.filterMap fun (column, value) => value.map fun value => (column, value)).map
        Prod.fst).Sublist (candidates.map Prod.fst) := by
    induction candidates with
    | nil => exact .slnil
    | cons candidate candidates ih =>
      obtain ⟨column, _ | value⟩ := candidate
      · exact ih.cons column
      · exact ih.cons_cons column
  exact fewer _

end AccountPatch

/-- A row with a value in the column with a name. -/
def AccountRow.write (row : AccountRow) (column : String) (value : Cell) : AccountRow :=
  match column with
  | "username" => { row with username := value }
  | "email" => { row with email := value }
  | "password" => { row with password := value }
  | "bio" => { row with bio := value }
  | "image" => { row with image := value }
  | "disabled" => { row with disabled := value }
  | "created_at" => { row with createdAt := value }
  | "updated_at" => { row with updatedAt := value }
  | _ => row

namespace Statement

/-- An update of an account as the engine understands it: which positions are written into which
columns, and at which position the email stands. -/
structure Update where
  sets : List (String × Nat)
  email : Nat
  deriving DecidableEq

namespace Update

/-- The position that a placeholder names. -/
def position? : List Char → Option Nat
  | '?' :: digits =>
    if digits ≠ [] ∧ digits.all Char.isDigit then some (Nat.ofDigitChars 10 digits 0) else none
  | _ => none

/-- Reads the assignments and the condition.  A comma stands after each assignment but the last. -/
def clauses? : List (List Char) → Option Update
  | column :: ['='] :: placeholder :: rest =>
    match placeholder.reverse with
    | ',' :: reversed => do
      let position ← position? reversed.reverse
      let update ← clauses? rest
      return { update with sets := (String.ofList column, position) :: update.sets }
    | _ => do
      let position ← position? placeholder
      match rest with
      | [where_, key, ['='], last] =>
        if where_ = "WHERE".toList ∧ key = "email".toList then
          return ⟨[(String.ofList column, position)], ← position? last⟩
        else none
      | _ => none
  | _ => none

/-- Reads the text of an update of an account. -/
def read? (text : String) : Option Update :=
  match text.toList.splitOn ' ' with
  | update :: table :: set :: rest =>
    if update = "UPDATE".toList ∧ table = "accounts".toList ∧ set = "SET".toList then clauses? rest
    else none
  | _ => none

/-- The value at a position, counted from one. -/
def bound (parameters : List String) (position : Nat) : Cell :=
  match parameters[position - 1]? with
  | some value => .text value
  | none => .null

/-- What an update with bound values does to a row. -/
def perform (update : Update) (parameters : List String) (row : AccountRow) : AccountRow :=
  if row.email = bound parameters update.email then
    update.sets.foldl (fun row set => row.write set.1 (bound parameters set.2)) row
  else row

end Update

namespace Update

/-- The update that the text for some columns is meant to be: the columns take the first positions,
the column of the last change the next one, and the email the last. -/
def of (columns : List String) : Update where
  sets := columns.zipIdx 1 ++ [("updated_at", columns.length + 1)]
  email := columns.length + 2

/-- Whatever columns a patch gives values for, the text is read as it is meant. -/
theorem read?_updateAccount (patch : AccountPatch) :
    read? (updateAccount patch.columns) = some (of patch.columns) := by
  have all : ∀ columns ∈ ["username", "password", "bio", "image"].sublists,
      read? (updateAccount columns) = some (of columns) := by
    decide +kernel
  exact all _ (List.mem_sublists.mpr patch.columns_sublist)

/-- Each value goes into the column at the same place. -/
theorem foldl_bound (fields : List (String × String)) (earlier later : List String)
    (row : AccountRow) :
    ((fields.map Prod.fst).zipIdx (earlier.length + 1)).foldl (fun row set =>
        row.write set.1 (bound (earlier ++ (fields.map Prod.snd ++ later)) set.2)) row =
      fields.foldl (fun row field => row.write field.1 (.text field.2)) row := by
  induction fields generalizing earlier row with
  | nil => rfl
  | cons field fields ih =>
    have own : bound (earlier ++ field.2 :: (fields.map Prod.snd ++ later)) (earlier.length + 1) =
        .text field.2 := by
      simp [bound]
    have next := ih (earlier ++ [field.2]) (row.write field.1 (.text field.2))
    rw [List.length_append, List.length_singleton, List.append_assoc] at next
    rw [List.map_cons, List.map_cons, List.zipIdx_cons, List.foldl_cons, List.foldl_cons]
    rw [List.cons_append, own]
    exact next

end Update

/-- The values of a patch and the stamp are all that the patch writes. -/
theorem foldl_write (patch : AccountPatch) (stamp : Cell) (row : AccountRow) :
    (patch.fields.foldl (fun row field => row.write field.1 (.text field.2)) row).write
        "updated_at" stamp =
      Tables.patchRow patch stamp row := by
  obtain ⟨username, password, bio, image⟩ := patch
  cases username <;> cases password <;> cases bio <;> cases image <;> rfl

/-- The assembled text, with the values of a patch bound to its positions, does to a row what the
patch does. -/
theorem updateAccount_performs (patch : AccountPatch) (stamp email : String) (row : AccountRow) :
    (Update.read? (updateAccount patch.columns)).map
        (fun update => update.perform (patch.parameters stamp email) row) =
      some (row.patched email patch (.text stamp)) := by
  have key : Update.bound (patch.parameters stamp email) (patch.columns.length + 2) =
      .text email := by
    simp [Update.bound, AccountPatch.parameters, AccountPatch.columns]
  have last : Update.bound (patch.parameters stamp email) (patch.columns.length + 1) =
      .text stamp := by
    simp [Update.bound, AccountPatch.parameters, AccountPatch.columns]
  have values : (patch.columns.zipIdx 1).foldl (fun row set =>
        row.write set.1 (Update.bound (patch.parameters stamp email) set.2)) row =
      patch.fields.foldl (fun row field => row.write field.1 (.text field.2)) row :=
    Update.foldl_bound patch.fields [] [stamp, email] row
  rw [Update.read?_updateAccount, Option.map_some, Update.perform, AccountRow.patched]
  simp only [Update.of, key, List.foldl_append, List.foldl_cons, List.foldl_nil, last, values,
    foldl_write]

end Statement

end Gazette
