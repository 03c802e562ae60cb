import Mathlib.Data.List.Basic
import Gazette.Proofs.Storage.Atomicity
import Gazette.Proofs.Storage.Holders

/-!
# Reading back

A lookup leaves a database as it is, and gives what stands under the email or the slug that it was
asked for.  What a save answers is what a lookup right afterwards gives.  All this holds for every
database, in whatever circumstances it is.
-/

set_option autoImplicit false

namespace Gazette

open Tables Session

namespace Database

variable {α : Type} {db after : Database} {email slug : String} {account : Account}
  {article : Article}

/-- A query leaves the database as it is, also when it is refused. -/
theorem query_leaves (needs : List TableName) (read : Tables → Except EngineError α)
    (entity id : String) (db : Database) :
    ((Engine.about (query needs read) entity id).run db).2 = db := by
  rw [Engine.run_about]
  unfold query statement
  simp only [ExceptT.run_mk]
  split
  · rfl
  · split
    · rfl
    · cases read db.tables <;> rfl

/-- Two queries, one after the other, leave the database as it is. -/
theorem bind_leaves {β : Type} {first : Session Database β} {next : β → Session Database α}
    (begun : ∀ db, (first.run db).2 = db) (ended : ∀ middle db, ((next middle).run db).2 = db)
    (db : Database) : ((first >>= next).run db).2 = db := by
  have same := begun db
  rw [run_bind]
  rcases ran : first.run db with ⟨error | middle, between⟩
  · rw [ran] at same
    exact same
  · rw [ran] at same
    exact (ended middle between).trans same

/-- Looking for an account leaves the database as it is. -/
theorem findAccount_leaves (email : String) (db : Database) :
    ((findAccount email).run db).2 = db :=
  query_leaves _ _ _ _ db

/-- Looking for an article leaves the database as it is. -/
theorem findArticle_leaves (slug : String) (db : Database) :
    ((findArticle slug).run db).2 = db := by
  refine bind_leaves (query_leaves _ _ _ _) ?_ db
  intro article
  exact bind_leaves (query_leaves _ _ _ _) fun tags db => rfl

/-- An account that has been found has the email that it was looked for by. -/
theorem email_of_findAccount (ran : (findAccount email).run db = (.ok account, after)) :
    account.email = email :=
  email_of_holder (holder_of_find ran)

/-- An article that has been found is stored in an active row with the slug that it was looked for
by. -/
theorem stores_of_findArticle (ran : (findArticle slug).run db = (.ok article, after)) :
    ∃ row ∈ db.tables.activeWithSlug slug, row.Stores article := by
  obtain ⟨bare, between, found, ran⟩ := run_bind_eq_ok ran
  obtain ⟨tags, last, -, ran⟩ := run_bind_eq_ok ran
  cases ran
  obtain ⟨first, -⟩ := query_eq_ok found
  cases rows : (db.tables.activeWithSlug slug).filterMap db.tables.articleColumns? with
  | nil =>
    rw [rows] at first
    cases first
  | cons columns others =>
    rw [rows] at first
    have there : columns ∈ (db.tables.activeWithSlug slug).filterMap db.tables.articleColumns? :=
      rows ▸ List.mem_cons_self
    obtain ⟨row, active, joined⟩ := List.mem_filterMap.mp there
    obtain ⟨author, -, rfl⟩ := Option.map_eq_some_iff.mp joined
    have stores : row.Stores bare := (Row.article_columns.mp first).1
    exact ⟨row, active, { stores with }⟩

/-- An article that has been found has the slug that it was looked for by. -/
theorem slug_of_findArticle (ran : (findArticle slug).run db = (.ok article, after)) :
    article.slug = slug := by
  obtain ⟨row, active, stores⟩ := stores_of_findArticle ran
  have named : row.slug = .text slug := slug_of_mem_activeWithSlug active
  rw [stores.slug] at named
  exact Cell.text.inj named

/-- An article that has been saved has been found after everything else. -/
theorem find_of_insertArticle {new : NewArticle}
    (ran : (insertArticle new).run db = (.ok article, after)) :
    ∃ between, (findArticle new.slug).run between = (.ok article, after) := by
  unfold insertArticle at ran
  split at ran
  · cases ran
  · obtain ⟨tags, tagged, -, ran⟩ := run_bind_eq_ok ran
    obtain ⟨stamp, stamped, -, ran⟩ := run_bind_eq_ok ran
    obtain ⟨id, written, -, ran⟩ := run_bind_eq_ok ran
    obtain ⟨_, linked, -, ran⟩ := run_bind_eq_ok ran
    exact ⟨linked, ran⟩

/-- What has been found last is found again. -/
theorem found_again {session : Session Database α} {value : α}
    (leaves : ∀ db, (session.run db).2 = db) (ran : session.run db = (.ok value, after)) :
    session.run after = (.ok value, after) := by
  have same := leaves db
  rw [ran] at same
  subst same
  exact ran

/-- An account that has been saved is found under its email right afterwards. -/
theorem found_of_saveAccount {new : NewAccount}
    (ran : (saveAccount new).run db = (.ok account, after)) :
    account.email = new.email ∧ (findAccount new.email).run after = (.ok account, after) := by
  obtain ⟨stamp, ready, -, ran⟩ := run_bind_eq_ok ran
  obtain ⟨done, written, -, ran⟩ := run_bind_eq_ok ran
  exact ⟨email_of_findAccount ran, found_again (findAccount_leaves new.email) ran⟩

/-- An article that has been saved is found under its slug right afterwards. -/
theorem found_of_saveArticle {new : NewArticle}
    (ran : (transaction (insertArticle new)).run db = (.ok article, after)) :
    article.slug = new.slug ∧ (findArticle new.slug).run after = (.ok article, after) := by
  obtain ⟨closed, inside⟩ := transaction_elsewhere (composed_insertArticle new) ran
  -- the same statements outside of a unit of work end in the same database
  have alone := inside none
  have same_after : { after with beforeWork := none } = after := by
    rw [← closed]
  rw [same_after] at alone
  obtain ⟨between, found⟩ := find_of_insertArticle alone
  exact ⟨slug_of_findArticle found, found_again (findArticle_leaves new.slug) found⟩

end Database

end Gazette
