import Mathlib.Data.List.Basic
import Gazette.Proofs.Storage.Sessions

/-!
# Sessions as compositions of statements

Every session is composed of readings of the clock and of statements, one after the other, and it
goes on only after a success.  So three things hold for all sessions, in any circumstances of the
database.  The circumstances do not change.  What every statement does to the tables when it
succeeds, the session does.  And a session that has succeeded would have gone in the same way
outside of a unit of work, or in another one.
-/

set_option autoImplicit false

namespace Gazette

open Tables

variable {α β : Type}

/-- Two states of a database in the same circumstances. -/
structure Database.Alike (before after : Database) : Prop where
  triggers : after.triggers = before.triggers
  missing : after.missing = before.missing
  locked : after.locked = before.locked
  clock : after.clock = before.clock

namespace Database.Alike

variable {before between after : Database}

/-- A database is in the circumstances it is in. -/
theorem refl (db : Database) : Alike db db :=
  ⟨rfl, rfl, rfl, rfl⟩

/-- Circumstances that each of two steps keeps are kept by both together. -/
theorem trans (first : Alike before between) (second : Alike between after) : Alike before after :=
  ⟨second.triggers.trans first.triggers, second.missing.trans first.missing,
    second.locked.trans first.locked, second.clock.trans first.clock⟩

/-- A healthy database stays healthy. -/
theorem healthy (alike : Alike before after) (healthy : before.Healthy) : after.Healthy :=
  ⟨alike.triggers.trans healthy.triggers, alike.missing.trans healthy.missing,
    alike.locked.trans healthy.locked⟩

/-- Undoing a unit of work changes no circumstances. -/
theorem undone (alike : Alike before after) : Alike before after.undone := by
  unfold Database.undone
  split
  · exact ⟨alike.triggers, alike.missing, alike.locked, alike.clock⟩
  · exact alike

end Database.Alike

namespace Session

/-- A session that is composed of readings of the clock and of statements.  A statement that
succeeds makes one of the given changes. -/
inductive Composed (changes : Tables → Tables → Prop) : {α : Type} → Session Database α → Prop where
  | pure {α : Type} (value : α) : Composed changes (Pure.pure value)
  | throw {α : Type} (error : StorageError) :
    Composed changes (MonadExcept.throw error : Session Database α)
  | bind {α β : Type} {session : Session Database β} {next : β → Session Database α} :
    Composed changes session → (∀ value, Composed changes (next value)) →
      Composed changes (session >>= next)
  | now : Composed changes Database.now
  | statement {α : Type} {needs : List Need} {entity id : String}
      {change : List Trigger → Tables → Except Refusal (α × Tables)} :
    (∀ triggers tables value after, change triggers tables = .ok (value, after) →
      changes tables after) →
      Composed changes (Engine.about (Database.statement needs change) entity id)

/-- How a session has ended in any circumstances.  Either the unit of work that was open is open
still and the tables have been changed as told, or a statement has ended the unit of work, and with
it the session. -/
inductive Leaves (changes : Except StorageError α → Tables → Tables → Prop) (before : Database) :
    Except StorageError α × Database → Prop where
  | kept {result : Except StorageError α} {after : Database} : before.Alike after →
      after.beforeWork = before.beforeWork → changes result before.tables after.tables →
      Leaves changes before (result, after)
  | lost {error : StorageError} {after : Database} {start : Tables} : before.Alike after →
      before.beforeWork = some start → after.beforeWork = none → after.tables = start →
      Leaves changes before (.error error, after)

namespace Leaves

variable {changes more : Except StorageError α → Tables → Tables → Prop} {before : Database}
  {outcome : Except StorageError α × Database}

/-- However a session has ended, the circumstances have not changed. -/
theorem alike (h : Leaves changes before outcome) : before.Alike outcome.2 := by
  cases h with
  | kept alike _ _ => exact alike
  | lost alike _ _ _ => exact alike

/-- More changes may be told. -/
theorem mono (h : Leaves changes before outcome)
    (bound : ∀ result tables after, changes result tables after → more result tables after) :
    Leaves more before outcome := by
  cases h with
  | kept alike same_work changed => exact .kept alike same_work (bound _ _ _ changed)
  | lost alike opened closed back => exact .lost alike opened closed back

/-- Outside of a unit of work nothing is lost. -/
theorem outside (h : Leaves changes before outcome) (closed : before.beforeWork = none) :
    outcome.2.beforeWork = none ∧ changes outcome.1 before.tables outcome.2.tables := by
  cases h with
  | kept _ same_work changed => exact ⟨same_work.trans closed, changed⟩
  | lost _ opened _ _ =>
    rw [closed] at opened
    cases opened

/-- A session that has succeeded has lost nothing. -/
theorem done {value : α} {after : Database} (h : Leaves changes before (.ok value, after)) :
    changes (.ok value) before.tables after.tables := by
  cases h with
  | kept _ _ changed => exact changed

end Leaves

/-- A session that has succeeded has done so after a success of its first part. -/
theorem run_bind_eq_ok {session : Session Database β} {next : β → Session Database α}
    {db after : Database} {value : α} (ran : (session >>= next).run db = (.ok value, after)) :
    ∃ middle between, session.run db = (.ok middle, between) ∧
      (next middle).run between = (.ok value, after) := by
  rw [run_bind] at ran
  cases begun : session.run db with
  | mk result between =>
    rw [begun] at ran
    cases result with
    | error error => cases ran
    | ok middle => exact ⟨middle, between, rfl, ran⟩

/-- What a statement does in any circumstances: it is refused and leaves no trace, or it is refused
and ends the unit of work, or it makes its change. -/
theorem statement_cases (needs : List Need) (entity id : String)
    (change : List Trigger → Tables → Except Refusal (α × Tables)) (db : Database) :
    (∃ error, (Engine.about (Database.statement needs change) entity id).run db =
        (.error error, db)) ∨
      (∃ error, (Engine.about (Database.statement needs change) entity id).run db =
        (.error error, db.undone)) ∨
      ∃ value tables, change db.triggers db.tables = .ok (value, tables) ∧
        (Engine.about (Database.statement needs change) entity id).run db =
          (.ok value, { db with tables }) := by
  rw [Engine.run_about]
  unfold Database.statement
  simp only [ExceptT.run_mk]
  split
  · exact .inl ⟨_, rfl⟩
  · split
    · exact .inl ⟨_, rfl⟩
    · cases made : change db.triggers db.tables with
      | ok result => exact .inr (.inr ⟨result.1, result.2, rfl, rfl⟩)
      | error refusal =>
        cases ends : refusal.endsWork with
        | false => exact .inl ⟨refusal.error.about entity id, by simp [ends, Except.mapError]⟩
        | true => exact .inr (.inl ⟨refusal.error.about entity id, by simp [ends, Except.mapError]⟩)

/-- A statement makes its change, or is refused and leaves no trace or ends the unit of work. -/
theorem leaves_statement (needs : List Need) (entity id : String)
    (change : List Trigger → Tables → Except Refusal (α × Tables)) (db : Database) :
    Leaves (fun result before after =>
        (∀ value, result = .ok value → change db.triggers before = .ok (value, after)) ∧
          ∀ error, result = .error error → after = before)
      db ((Engine.about (Database.statement needs change) entity id).run db) := by
  have untouched (error : StorageError) : Leaves (fun result before after =>
      (∀ value, result = .ok value → change db.triggers before = .ok (value, after)) ∧
        ∀ error, result = .error error → after = before) db (.error error, db) :=
    .kept (.refl db) rfl ⟨by simp, fun _ _ => rfl⟩
  rcases statement_cases needs entity id change db with
    ⟨error, ran⟩ | ⟨error, ran⟩ | ⟨value, tables, done, ran⟩
  · rw [ran]
    exact untouched error
  · rw [ran]
    cases opened : db.beforeWork with
    | none =>
      rw [undone_of_closed opened]
      exact untouched error
    | some start =>
      have back : db.undone = { db with tables := start, beforeWork := none } := by
        simp [Database.undone, opened]
      rw [back]
      exact .lost ⟨rfl, rfl, rfl, rfl⟩ opened rfl rfl
  · rw [ran]
    refine .kept ⟨rfl, rfl, rfl, rfl⟩ rfl ⟨?_, by simp⟩
    intro other same
    cases same
    exact done

/-- A statement that has succeeded has made its change. -/
theorem statement_eq_ok {needs : List Need} {entity id : String}
    {change : List Trigger → Tables → Except Refusal (α × Tables)} {db after : Database} {value : α}
    (ran : (Engine.about (Database.statement needs change) entity id).run db = (.ok value, after)) :
    change db.triggers db.tables = .ok (value, after.tables) := by
  have left := leaves_statement needs entity id change db
  rw [ran] at left
  exact left.done.1 value rfl

/-- A query that succeeds answers from the tables and leaves the database as it is. -/
theorem query_eq_ok {needs : List TableName} {entity id : String}
    {read : Tables → Except EngineError α} {db after : Database} {value : α}
    (ran : (Engine.about (Database.query needs read) entity id).run db = (.ok value, after)) :
    read db.tables = .ok value ∧ after = db := by
  rcases statement_cases (needs.map .itself) entity id _ db with
    ⟨error, refused⟩ | ⟨error, refused⟩ | ⟨result, tables, made, done⟩
  · cases (refused.symm.trans ran)
  · cases (refused.symm.trans ran)
  · cases (done.symm.trans ran)
    split at made
    · rename_i found
      cases made
      exact ⟨found, rfl⟩
    · cases made

/-- A statement that has succeeded would have done the same in another unit of work. -/
theorem statement_elsewhere {needs : List Need} {entity id : String}
    {change : List Trigger → Tables → Except Refusal (α × Tables)} {db after : Database} {value : α}
    (ran : (Engine.about (Database.statement needs change) entity id).run db = (.ok value, after))
    (work : Option Tables) :
    (Engine.about (Database.statement needs change) entity id).run { db with beforeWork := work } =
      (.ok value, { after with beforeWork := work }) := by
  rw [Engine.run_about] at ran ⊢
  unfold Database.statement at ran ⊢
  simp only [ExceptT.run_mk] at ran ⊢
  split at ran
  · cases ran
  · rename_i unlocked
    rw [if_neg unlocked]
    split at ran
    · cases ran
    · rename_i present
      rw [present]
      dsimp only
      cases made : change db.triggers db.tables with
      | error refusal =>
        rw [made] at ran
        cases ran
      | ok result =>
        rw [made] at ran
        cases ran
        rfl

namespace Composed

variable {changes more : Tables → Tables → Prop} {session : Session Database α}

/-- More changes may be told. -/
theorem mono (composed : Composed changes session)
    (bound : ∀ before after, changes before after → more before after) :
    Composed more session := by
  induction composed with
  | pure value => exact .pure value
  | throw error => exact .throw error
  | bind _ _ first second => exact .bind first second
  | now => exact .now
  | statement fits =>
    exact .statement fun triggers tables value after done =>
      bound _ _ (fits triggers tables value after done)

/-- A statement that gives no value. -/
theorem execute {needs : List Need} {entity id : String}
    {change : List Trigger → Tables → Except Refusal Tables}
    (fits : ∀ triggers tables after, change triggers tables = .ok after → changes tables after) :
    Composed changes (Engine.about (Database.execute needs change) entity id) := by
  apply Composed.statement
  intro triggers tables value after done
  cases made : change triggers tables with
  | error refusal =>
    rw [made] at done
    cases done
  | ok result =>
    rw [made] at done
    cases done
    exact fits triggers tables after made

section Preorder

variable (refl : ∀ tables, changes tables tables)

include refl

/-- A query makes no change. -/
theorem query {needs : List TableName} {entity id : String} {read : Tables → Except EngineError α} :
    Composed changes (Engine.about (Database.query needs read) entity id) := by
  apply Composed.statement
  intro triggers tables value after done
  split at done
  · cases done
    exact refl tables
  · cases done

variable (trans : ∀ {before between after : Tables}, changes before between →
  changes between after → changes before after)

include trans

/-- A session changes the tables as its statements do. -/
theorem leaves (composed : Composed changes session) (db : Database) :
    Leaves (fun _ => changes) db (session.run db) := by
  induction composed generalizing db with
  | pure value => exact .kept (.refl db) rfl (refl _)
  | throw error => exact .kept (.refl db) rfl (refl _)
  | now => exact .kept ⟨rfl, rfl, rfl, rfl⟩ rfl (refl _)
  | statement fits =>
    apply (leaves_statement _ _ _ _ db).mono
    rintro (error | value) tables after told
    · rw [told.2 error rfl]
      exact refl _
    · exact fits _ _ _ _ (told.1 value rfl)
  | @bind α β session next _ _ first second =>
    rw [run_bind]
    have begun := first db
    generalize session.run db = outcome at begun
    cases begun with
    | lost alike opened closed back => exact .lost alike opened closed back
    | @kept result between alike same_work changed =>
      cases result with
      | error error => exact .kept alike same_work changed
      | ok value =>
        have ended := second value between
        dsimp only
        generalize (next value).run between = outcome at ended
        cases ended with
        | lost alike_last opened closed back =>
          exact .lost (alike.trans alike_last) (same_work ▸ opened) closed back
        | kept alike_last work_last changed_last =>
          exact .kept (alike.trans alike_last) (work_last.trans same_work)
            (trans changed changed_last)

end Preorder

/-- A session that has succeeded leaves the open unit of work open, and would have gone in the same
way in any other unit of work or outside of one. -/
theorem elsewhere (composed : Composed changes session) {db after : Database} {value : α}
    (ran : session.run db = (.ok value, after)) :
    after.beforeWork = db.beforeWork ∧ ∀ work, session.run { db with beforeWork := work } =
      (.ok value, { after with beforeWork := work }) := by
  induction composed generalizing db after with
  | pure result =>
    cases ran
    exact ⟨rfl, fun _ => rfl⟩
  | throw error => cases ran
  | now =>
    cases ran
    exact ⟨rfl, fun _ => rfl⟩
  | @statement α needs entity id change fits =>
    rcases statement_cases needs entity id change db with
      ⟨error, refused⟩ | ⟨error, refused⟩ | ⟨result, tables, made, done⟩
    · rw [refused] at ran
      cases ran
    · rw [refused] at ran
      cases ran
    · rw [done] at ran
      cases ran
      refine ⟨rfl, ?_⟩
      intro work
      exact statement_elsewhere done work
  | @bind α β session next _ _ first second =>
    obtain ⟨middle, between, begun, ran⟩ := run_bind_eq_ok ran
    obtain ⟨same_work, begins⟩ := first begun
    obtain ⟨same_last, ends⟩ := second middle ran
    refine ⟨same_last.trans same_work, ?_⟩
    intro work
    rw [run_bind, begins work]
    exact ends work

/-- Nothing comes after an error. -/
theorem throw_bind {error : StorageError} {next : β → Session Database α} :
    Composed changes (MonadExcept.throw error >>= next) := by
  have same : (MonadExcept.throw error >>= next : Session Database α) = MonadExcept.throw error :=
    rfl
  rw [same]
  exact .throw error

/-- One session for each member of a list. -/
theorem mapM {γ : Type} {session : γ → Session Database α}
    (h : ∀ item, Composed changes (session item)) (items : List γ) :
    Composed changes (items.mapM session) := by
  induction items with
  | nil =>
    rw [List.mapM_nil]
    exact .pure []
  | cons item items ih =>
    rw [List.mapM_cons]
    exact .bind (h item) fun value => .bind ih fun values => .pure (value :: values)

/-- A loop over a list. -/
theorem forIn {γ : Type} {session : γ → Session Database Unit}
    (h : ∀ item, Composed changes (session item)) (items : List γ) :
    Composed changes
      (ForIn.forIn items PUnit.unit fun item _ => do
        session item
        Pure.pure (ForInStep.yield PUnit.unit)) := by
  induction items with
  | nil =>
    rw [List.forIn_nil]
    exact .pure _
  | cons item items ih =>
    rw [List.forIn_cons]
    apply Composed.bind
    · exact .bind (h item) fun _ => .pure _
    · rintro (_ | _)
      · exact .pure _
      · exact ih

end Composed

end Session

namespace Tables

variable {before after later : Tables}

/-- The accounts have been left alone. -/
def SameAccounts (before after : Tables) : Prop :=
  after.accounts = before.accounts

/-- The accounts have been left alone, and under no slug there are more active articles than there
have been. -/
structure Removes (before after : Tables) : Prop where
  accounts : SameAccounts before after
  articles (slug : String) :
    (after.activeWithSlug slug).length ≤ (before.activeWithSlug slug).length

/-- Tables that are left alone keep their accounts. -/
theorem SameAccounts.refl (tables : Tables) : SameAccounts tables tables :=
  rfl

/-- Accounts that each of two steps leaves alone are left alone by both together. -/
theorem SameAccounts.trans (first : SameAccounts before after) (second : SameAccounts after later) :
    SameAccounts before later :=
  Eq.trans second first

/-- Tables that are left alone have no more articles. -/
theorem Removes.refl (tables : Tables) : Removes tables tables :=
  ⟨.refl tables, fun _ => Nat.le_refl _⟩

/-- If neither of two steps adds an article, both together add none. -/
theorem Removes.trans (first : Removes before after) (second : Removes after later) :
    Removes before later :=
  ⟨first.accounts.trans second.accounts,
    fun slug => Nat.le_trans (second.articles slug) (first.articles slug)⟩

variable {triggers : List Trigger} {tables : Tables}

/-- Asking for a tag leaves the accounts alone. -/
theorem sameAccounts_upsertTag {name : String} (done : upsertTag triggers name tables = .ok after) :
    SameAccounts tables after := by
  simp only [upsertTag, bind_ok_iff] at done
  obtain ⟨_, -, id, -, made⟩ := done
  split at made
  · obtain rfl := pure_ok_iff.mp made
    rfl
  · obtain rfl := pure_ok_iff.mp made
    rfl

/-- Inserting an article leaves the accounts alone. -/
theorem sameAccounts_insertArticle {article : NewArticle} {stamp : Cell} {id : Int64}
    (done : insertArticle triggers article stamp tables = .ok (id, after)) :
    SameAccounts tables after := by
  simp only [insertArticle, bind_ok_iff, unless_ok_iff, pure_ok_iff, Prod.mk.injEq] at done
  obtain ⟨_, -, _, -, -, -, -, rfl⟩ := done
  rfl

/-- Attaching a tag leaves the accounts alone. -/
theorem sameAccounts_insertLink {articleId tagId : Int64}
    (done : insertLink triggers articleId tagId tables = .ok after) :
    SameAccounts tables after := by
  simp only [insertLink, bind_ok_iff, unless_ok_iff, pure_ok_iff] at done
  obtain ⟨_, -, -, -, rfl⟩ := done
  rfl

/-- Inserting a comment leaves the accounts alone. -/
theorem sameAccounts_insertComment {slug : String} {comment : NewComment} {stamp : Cell} {id : Int64}
    (done : insertComment triggers slug comment stamp tables = .ok (id, after)) :
    SameAccounts tables after := by
  simp only [insertComment, bind_ok_iff, unless_ok_iff, pure_ok_iff, Prod.mk.injEq] at done
  obtain ⟨_, -, _, -, -, -, rfl⟩ := done
  rfl

/-- Marking an article as deleted does not bring back another one. -/
theorem removes_tombstoneArticle {authorId : Int64} {slug : String} {unix stamp : Cell}
    {chosen : Option Int64}
    (done : tombstoneArticle triggers authorId slug unix stamp tables = .ok (chosen, after)) :
    Removes tables after := by
  unfold tombstoneArticle at done
  dsimp only at done
  split at done
  · cases pure_ok_iff.mp done
    exact Removes.refl _
  · simp only [bind_ok_iff, pure_ok_iff, Prod.mk.injEq] at done
    obtain ⟨_, -, -, rfl⟩ := done
    refine ⟨rfl, ?_⟩
    intro other
    unfold activeWithSlug
    rw [← List.countP_eq_length_filter, ← List.countP_eq_length_filter, List.countP_map]
    apply List.countP_mono_left
    intro row _ active
    rw [Function.comp_apply] at active
    split at active
    · rename_i owned
      simp only [Bool.and_eq_true, decide_eq_true_eq] at owned active ⊢
      exact ⟨active.1, owned.2⟩
    · exact active

/-- Detaching tags leaves the accounts and the articles alone. -/
theorem removes_deleteLinks {articleId : Int64}
    (done : deleteLinks triggers articleId tables = .ok after) : Removes tables after := by
  unfold deleteLinks at done
  split at done
  · simp only [bind_ok_iff, pure_ok_iff] at done
    obtain ⟨_, -, rfl⟩ := done
    exact ⟨rfl, fun _ => Nat.le_refl _⟩
  · obtain rfl := pure_ok_iff.mp done
    exact ⟨rfl, fun _ => Nat.le_refl _⟩

/-- Marking comments as deleted leaves the accounts and the articles alone. -/
theorem removes_tombstoneComments {chosen : CommentRow → Bool} {stamp : Cell} {count : Nat}
    (done : tombstoneComments triggers chosen stamp tables = .ok (count, after)) :
    Removes tables after := by
  unfold tombstoneComments at done
  dsimp only at done
  split at done
  · cases pure_ok_iff.mp done
    exact Removes.refl _
  · simp only [bind_ok_iff, pure_ok_iff, Prod.mk.injEq] at done
    obtain ⟨_, -, -, rfl⟩ := done
    exact ⟨rfl, fun _ => Nat.le_refl _⟩

end Tables

namespace Database

open Session

section Queries

variable {changes : Tables → Tables → Prop} (refl : ∀ tables, changes tables tables)

include refl

/-- The lookup of an account only reads. -/
theorem composed_findAccount (email : String) : Composed changes (findAccount email) :=
  .query refl

/-- The lookup of an article only reads. -/
theorem composed_findArticle (slug : String) : Composed changes (findArticle slug) :=
  .bind (.query refl) fun _ => .bind (.query refl) fun _ => .pure _

/-- A listing only reads. -/
theorem composed_listArticles (tagBatch : Nat) (criteria : ArticleCriteria) :
    Composed changes (listArticles tagBatch criteria) := by
  refine .bind (.query refl) fun total => .bind (.query refl) fun ids => ?_
  split
  · exact .pure _
  · exact .bind (.query refl) fun bare => .bind (.mapM (fun _ => .query refl) _) fun _ => .pure _

/-- The lookup of comments only reads. -/
theorem composed_findComments (slug : String) : Composed changes (findComments slug) :=
  .query refl

/-- Opening an account changes the tables by one statement. -/
theorem composed_saveAccount (account : NewAccount)
    (fits : ∀ triggers stamp tables after,
      Tables.insertAccount triggers account stamp tables = .ok after → changes tables after) :
    Composed changes (saveAccount account) := by
  refine .bind .now fun stamp => .bind (.execute ?_) fun _ => composed_findAccount refl _
  exact fun triggers tables after done => fits _ _ _ _ done

end Queries

/-- Changing an account changes the tables by one statement. -/
theorem composed_updateAccount {changes : Tables → Tables → Prop} (email : String) (patch : AccountPatch)
    (fits : ∀ triggers stamp tables count after,
      Tables.updateAccount triggers email patch stamp tables = .ok (count, after) →
        changes tables after) :
    Composed changes (updateAccount email patch) := by
  refine .bind .now fun stamp => .bind (.statement ?_) fun changed => ?_
  · exact fun triggers tables value after done => fits _ _ _ _ _ done
  · split
    · exact .throw _
    · exact .pure _

/-- Each statement of asking for a tag leaves the accounts alone. -/
theorem composed_saveTag (name : String) : Composed SameAccounts (saveTag name) := by
  refine .bind (.execute ?_) fun _ => .query SameAccounts.refl
  exact fun triggers tables after done => sameAccounts_upsertTag done

/-- Each statement of saving an article leaves the accounts alone. -/
theorem composed_insertArticle (article : NewArticle) :
    Composed SameAccounts (insertArticle article) := by
  unfold insertArticle
  split
  · exact .throw_bind
  · refine .bind (.mapM composed_saveTag _) fun tags => .bind .now fun stamp =>
      .bind (.statement ?_) fun id => .bind (.forIn (fun tag => .execute ?_) _) fun _ =>
        composed_findArticle SameAccounts.refl _
    · exact fun triggers tables value after done => sameAccounts_insertArticle done
    · exact fun triggers tables after done => sameAccounts_insertLink done

/-- No statement of deleting an article adds one. -/
theorem composed_removeArticle (authorId : Int64) (slug : String) :
    Composed Removes (removeArticle authorId slug) := by
  refine .bind .now fun stamp => .bind (.statement ?_) fun chosen => ?_
  · exact fun triggers tables value after done => removes_tombstoneArticle done
  · cases chosen with
    | none => exact .throw _
    | some id => exact .execute fun triggers tables after done => removes_deleteLinks done

/-- Each statement of saving a comment leaves the accounts alone. -/
theorem composed_saveComment (slug : String) (comment : NewComment) :
    Composed SameAccounts (saveComment slug comment) := by
  refine .bind (.query SameAccounts.refl) fun active => ?_
  split
  · exact .throw_bind
  · refine .bind .now fun stamp => .bind (.statement ?_) fun id => .query SameAccounts.refl
    exact fun triggers tables value after done => sameAccounts_insertComment done

/-- No statement of deleting a comment adds an article. -/
theorem composed_removeComment (authorId : Int64) (slug : String) (id : Int64) :
    Composed Removes (removeComment authorId slug id) := by
  refine .bind .now fun stamp => .bind (.statement ?_) fun count => ?_
  · exact fun triggers tables value after done => removes_tombstoneComments done
  · split
    · exact .throw _
    · exact .pure _

/-- No statement of deleting an author's comments adds an article. -/
theorem composed_removeComments (authorId : Int64) (slug : String) :
    Composed Removes (removeComments authorId slug) := by
  refine .bind .now fun stamp => .statement ?_
  exact fun triggers tables value after done => removes_tombstoneComments done

end Database

end Gazette
