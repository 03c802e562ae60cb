import Mathlib.Data.List.Basic
import Gazette.Proofs.Storage.Follows
import Gazette.Storage.Work

/-!
# What sessions leave of the articles

Sessions are built from statements, and what every statement of a session leaves alone, the whole
session leaves alone.  A statement may also end the unit of work it belongs to; then the session
fails at once, and the tables are what they were when the unit of work was opened.
-/

set_option autoImplicit false

namespace Gazette

open Tables

/-- A database whose statements fail for reasons of its contents only. -/
structure Database.Healthy (db : Database) : Prop where
  triggers : db.triggers = []
  missing : db.missing = []
  locked : db.locked = false

/-- A healthy database whose clock is read stays so. -/
theorem Database.Healthy.read {db : Database} (healthy : db.Healthy) :
    Database.Healthy { db with readings := db.readings + 1 } :=
  ⟨healthy.triggers, healthy.missing, healthy.locked⟩

namespace Session

variable {α β : Type} {db : Database} {exempt : List String}

/-- How a session has ended.  Either the unit of work that was open is open still, no article has
been taken away or changed but under the slugs in the list, and a result stands with the tables;
or a statement has ended the unit of work. -/
inductive Ended (exempt : Except StorageError α → List String) (post : α → Tables → Prop)
    (before : Database) : Except StorageError α × Database → Prop where
  | kept {result : Except StorageError α} {after : Database} : after.Healthy →
      after.beforeWork = before.beforeWork → after.tables.Sound →
      Follows (exempt result) before.tables after.tables →
      (∀ value, result = .ok value → post value after.tables) → Ended exempt post before (result, after)
  | lost {error : StorageError} {after : Database} {start : Tables} : after.Healthy →
      before.beforeWork = some start → after.beforeWork = none → after.tables = start →
      Ended exempt post before (.error error, after)

/-- A session that leaves the articles alone but under some slugs, if it starts on tables as they
should be, and whose result then stands with the tables. -/
def Keeps (exempt : Except StorageError α → List String) (pre : Tables → Prop)
    (session : Session Database α) (post : α → Tables → Prop) : Prop :=
  ∀ db : Database, db.Healthy → db.tables.Sound → pre db.tables →
    Ended exempt post db (session.run db)

variable {pre : Tables → Prop} {mid : β → Tables → Prop} {post : α → Tables → Prop}

/-- A session goes on after another one unless that has failed. -/
theorem run_bind (session : Session Database β) (next : β → Session Database α) (db : Database) :
    (session >>= next).run db =
      match session.run db with
      | (.ok value, after) => (next value).run after
      | (.error error, after) => (.error error, after) := by
  have opened : (session >>= next).run db =
      ExceptT.bindCont next (session.run db).1 (session.run db).2 := rfl
  rw [opened]
  generalize session.run db = outcome
  obtain ⟨_ | _, after⟩ := outcome <;> rfl

/-- What reading the clock does. -/
theorem run_now (db : Database) :
    Database.now.run db = (.ok (db.clock db.readings), { db with readings := db.readings + 1 }) :=
  rfl

/-- Outside of a unit of work there is nothing to undo. -/
theorem undone_of_closed {db : Database} (closed : db.beforeWork = none) : db.undone = db := by
  rw [Database.undone, closed]

/-- A session that only answers leaves the articles alone. -/
theorem keeps_pure {value : α} (h : ∀ tables, pre tables → post value tables) :
    Keeps (fun _ => exempt) pre (pure value) post := by
  intro db healthy sound start
  refine .kept healthy rfl sound (Follows.refl _ _) ?_
  intro other same
  cases same
  exact h db.tables start

/-- A session that only fails leaves the articles alone. -/
theorem keeps_throw {error : StorageError} :
    Keeps (fun _ => exempt) pre (throw error : Session Database α) post := by
  intro db healthy sound _
  refine .kept healthy rfl sound (Follows.refl _ _) ?_
  intro value same
  cases same

/-- Two sessions one after the other. -/
theorem keeps_bind {session : Session Database β} {next : β → Session Database α}
    (first : Keeps (fun _ => exempt) pre session mid)
    (second : ∀ value, Keeps (fun _ => exempt) (mid value) (next value) post) :
    Keeps (fun _ => exempt) pre (session >>= next) post := by
  intro db healthy sound start
  rw [run_bind]
  have begun := first db healthy sound start
  generalize session.run db = outcome at begun
  cases begun with
  | lost still_healthy opened closed back => exact .lost still_healthy opened closed back
  | @kept result after still_healthy same_work still_sound follows stands =>
    cases result with
    | error error =>
      refine .kept still_healthy same_work still_sound follows ?_
      intro value same
      cases same
    | ok value =>
      have ended := second value after still_healthy still_sound (stands value rfl)
      dsimp only
      generalize (next value).run after = outcome at ended
      cases ended with
      | lost healthy_last opened closed back =>
        exact .lost healthy_last (same_work ▸ opened) closed back
      | kept healthy_last work_last sound_last follows_last stands_last =>
        exact .kept healthy_last (work_last.trans same_work) sound_last
          (follows.trans follows_last) stands_last

/-- What would come after a failure is not run, and leaves the articles alone. -/
theorem keeps_throw_bind {error : StorageError} {next : β → Session Database α} :
    Keeps (fun _ => exempt) pre (throw error >>= next) post := by
  have nothing : Keeps (fun _ => exempt) pre (throw error : Session Database β)
      fun _ _ => False := keeps_throw
  apply keeps_bind nothing
  intro value db _ _ never
  exact never.elim

/-- What holds for fewer slugs, more starts and more results. -/
theorem Keeps.mono {session : Session Database α}
    {less more : Except StorageError α → List String} {pre' : Tables → Prop}
    {post' : α → Tables → Prop} (h : Keeps less pre' session post')
    (start : ∀ tables, pre tables → pre' tables)
    (slugs : ∀ result slug, slug ∈ less result → slug ∈ more result)
    (stands : ∀ value tables, post' value tables → post value tables) :
    Keeps more pre session post := by
  intro db healthy sound given
  have ended := h db healthy sound (start _ given)
  generalize session.run db = outcome at ended
  cases ended with
  | lost still_healthy opened closed back => exact .lost still_healthy opened closed back
  | kept still_healthy same_work still_sound follows holds =>
    exact .kept still_healthy same_work still_sound (follows.mono (slugs _))
      fun value same => stands _ _ (holds value same)

/-- A session that first succeeds in taking a slug that was free. -/
theorem keeps_bind_unused (slug : String) (mid : β → Tables → Prop)
    {session : Session Database β} {next : β → Session Database α}
    (first : ∀ start, Keeps (fun _ => []) (fun tables => tables = start ∧ pre tables) session
      fun value tables => mid value tables ∧ start.activeWithSlug slug = [])
    (second : ∀ value, Keeps (fun _ => [slug]) (mid value) (next value) post) :
    Keeps (fun _ => []) pre (session >>= next) post := by
  intro db healthy sound start
  rw [run_bind]
  have begun := first db.tables db healthy sound ⟨rfl, start⟩
  generalize session.run db = outcome at begun
  cases begun with
  | lost still_healthy opened closed back => exact .lost still_healthy opened closed back
  | @kept result after still_healthy same_work still_sound follows stands =>
    cases result with
    | error error =>
      refine .kept still_healthy same_work still_sound follows ?_
      intro value same
      cases same
    | ok value =>
      obtain ⟨ready, unused⟩ := stands value rfl
      have ended := second value after still_healthy still_sound ready
      dsimp only
      generalize (next value).run after = outcome at ended
      cases ended with
      | lost healthy_last opened closed back =>
        exact .lost healthy_last (same_work ▸ opened) closed back
      | kept healthy_last work_last sound_last follows_last stands_last =>
        refine .kept healthy_last (work_last.trans same_work) sound_last ?_ stands_last
        -- what happens under a slug that was free at first takes no article away
        exact ((follows.mono (by simp)).trans follows_last).of_unused unused

/-- Reading the clock. -/
theorem keeps_now :
    Keeps (fun _ => exempt) pre Database.now fun _ tables => pre tables := by
  intro db healthy sound start
  exact .kept ⟨healthy.triggers, healthy.missing, healthy.locked⟩ rfl sound (Follows.refl _ _)
    fun _ _ => start

/-- What a statement does on a healthy database. -/
theorem run_statement (healthy : db.Healthy) (needs : List Need) (entity id : String)
    (change : List Trigger → Tables → Except Refusal (α × Tables)) :
    (Engine.about (Database.statement needs change) entity id).run db =
      match change [] db.tables with
      | .ok (value, tables) => (.ok value, { db with tables })
      | .error refusal =>
        (.error (refusal.error.about entity id), if refusal.endsWork then db.undone else db) := by
  have nothing_missing : (needs.find? fun need => need.table ∈ db.missing) = none := by
    simp [healthy.missing]
  rw [Engine.run_about]
  unfold Database.statement
  simp only [ExceptT.run_mk, healthy.locked, nothing_missing, healthy.triggers]
  cases change [] db.tables <;> rfl

/-- What a query answers on a healthy database, which it leaves as it is. -/
theorem run_query (healthy : db.Healthy) (needs : List TableName) (entity id : String)
    (read : Tables → Except EngineError α) :
    (Engine.about (Database.query needs read) entity id).run db =
      ((read db.tables).mapError (EngineError.about entity id), db) := by
  unfold Database.query
  rw [run_statement healthy]
  cases read db.tables <;> rfl

/-- One statement, told by what it makes of the tables. -/
theorem keeps_statement {needs : List Need} {entity id : String}
    {change : List Trigger → Tables → Except Refusal (α × Tables)}
    (h : ∀ tables after value, tables.Sound → pre tables → change [] tables = .ok (value, after) →
      after.Sound ∧ Follows exempt tables after ∧ post value after) :
    Keeps (fun _ => exempt) pre (Engine.about (Database.statement needs change) entity id) post := by
  intro db healthy sound start
  rw [run_statement healthy]
  cases made : change [] db.tables with
  | ok result =>
    obtain ⟨value, tables⟩ := result
    obtain ⟨still_sound, follows, stands⟩ := h db.tables tables value sound start made
    refine .kept ⟨healthy.triggers, healthy.missing, healthy.locked⟩ rfl still_sound follows ?_
    intro other same
    cases same
    exact stands
  | error refusal =>
    have untouched : Ended (fun _ => exempt) post db (.error (refusal.error.about entity id), db) := by
      refine .kept healthy rfl sound (Follows.refl _ _) ?_
      intro value same
      cases same
    cases ends : refusal.endsWork with
    | false => simpa [ends] using untouched
    | true =>
      cases opened : db.beforeWork with
      | none => simpa [ends, undone_of_closed opened] using untouched
      | some tables =>
        simp only [ends, Database.undone, opened, if_true]
        exact .lost ⟨healthy.triggers, healthy.missing, healthy.locked⟩ opened rfl rfl

/-- A statement that gives no value. -/
theorem keeps_execute {needs : List Need} {entity id : String} {pre post : Tables → Prop}
    {change : List Trigger → Tables → Except Refusal Tables}
    (h : ∀ tables after, tables.Sound → pre tables → change [] tables = .ok after →
      after.Sound ∧ Follows exempt tables after ∧ post after) :
    Keeps (fun _ => exempt) pre (Engine.about (Database.execute needs change) entity id)
      fun _ => post := by
  apply keeps_statement
  intro tables after _ sound start done
  cases made : change [] tables with
  | error refusal =>
    rw [made] at done
    cases done
  | ok result =>
    rw [made] at done
    cases done
    exact h tables after sound start made

/-- A query changes nothing, and its answer can be read off the tables. -/
theorem keeps_query {needs : List TableName} {entity id : String}
    {read : Tables → Except EngineError α} :
    Keeps (fun _ => exempt) pre (Engine.about (Database.query needs read) entity id)
      fun value tables => pre tables ∧ read tables = .ok value := by
  apply keeps_statement
  intro tables after value sound start done
  split at done
  · rename_i found
    cases done
    exact ⟨sound, Follows.refl _ _, start, found⟩
  · cases done

/-- One session for each member of a list. -/
theorem keeps_mapM {γ : Type} {session : γ → Session Database α}
    (h : ∀ item, Keeps (fun _ => exempt) pre (session item) fun _ => pre) (items : List γ) :
    Keeps (fun _ => exempt) pre (items.mapM session) fun _ => pre := by
  induction items with
  | nil =>
    rw [List.mapM_nil]
    exact keeps_pure fun _ => id
  | cons item items ih =>
    rw [List.mapM_cons]
    apply keeps_bind (h item)
    intro value
    apply keeps_bind ih
    intro values
    exact keeps_pure fun _ => id

/-- A loop over a list. -/
theorem keeps_forIn {γ : Type} {session : γ → Session Database Unit}
    (h : ∀ item, Keeps (fun _ => exempt) pre (session item) fun _ => pre) (items : List γ) :
    Keeps (fun _ => exempt) pre
      (forIn items PUnit.unit fun item _ => do
        session item
        pure (ForInStep.yield PUnit.unit))
      fun _ => pre := by
  induction items with
  | nil =>
    rw [List.forIn_nil]
    exact keeps_pure fun _ => id
  | cons item items ih =>
    have first : Keeps (fun _ => exempt) pre
        (do
          session item
          pure (ForInStep.yield PUnit.unit))
        fun step tables => step = ForInStep.yield PUnit.unit ∧ pre tables := by
      apply keeps_bind (h item)
      intro value
      exact keeps_pure fun _ given => ⟨rfl, given⟩
    rw [List.forIn_cons]
    apply keeps_bind first
    rintro (_ | _)
    · intro db _ _ given
      cases given.1
    · exact ih.mono (fun _ given => given.2) (fun _ _ => id) fun _ _ => id

end Session

namespace Database

open Session

/-- Any tables will do. -/
abbrev anyTables : Tables → Prop := fun _ => True

variable {exempt : List String} {pre : Tables → Prop}

/-- The lookup of an account leaves the articles alone. -/
theorem keeps_findAccount (email : String) :
    Keeps (fun _ => exempt) pre (findAccount email) fun _ => pre :=
  keeps_query.mono (fun _ => id) (fun _ _ => id) fun _ _ given => given.1

/-- Saving an account leaves the articles alone. -/
theorem keeps_saveAccount (account : NewAccount) :
    Keeps (fun _ => exempt) anyTables (saveAccount account) fun _ => anyTables := by
  apply keeps_bind keeps_now
  intro stamp
  apply keeps_bind
  · apply keeps_execute
    intro tables after sound _ done
    obtain ⟨still_sound, follows⟩ := follows_insertAccount sound done
    exact ⟨still_sound, follows.mono (by simp), trivial⟩
  · intro _
    exact keeps_findAccount account.email

/-- Updating an account leaves the articles alone. -/
theorem keeps_updateAccount (email : String) (patch : AccountPatch) :
    Keeps (fun _ => exempt) anyTables (updateAccount email patch) fun _ => anyTables := by
  apply keeps_bind keeps_now
  intro stamp
  apply keeps_bind
  · apply keeps_statement
    intro tables after count sound _ done
    obtain ⟨still_sound, follows⟩ := follows_updateAccount sound done
    exact ⟨still_sound, follows.mono (by simp), trivial⟩
  · intro changed
    split
    · exact keeps_throw
    · exact keeps_pure fun _ => id

/-- Asking for a tag leaves the articles alone. -/
theorem keeps_saveTag (name : String) :
    Keeps (fun _ => exempt) anyTables (saveTag name) fun _ => anyTables := by
  apply keeps_bind
  · apply keeps_execute
    intro tables after sound _ done
    obtain ⟨still_sound, follows⟩ := follows_upsertTag sound done
    exact ⟨still_sound, follows.mono (by simp), trivial⟩
  · intro _
    exact keeps_query.mono (fun _ => id) (fun _ _ => id) fun _ _ given => given.1

/-- A lookup leaves the tables alone, and what it finds is what they hold. -/
theorem keeps_findArticle (slug : String) :
    Keeps (fun _ => exempt) pre (findArticle slug) fun article tables =>
      pre tables ∧ tables.lookup slug = .ok article := by
  apply keeps_bind keeps_query
  intro bare
  apply keeps_bind keeps_query
  intro tags
  apply keeps_pure
  rintro tables ⟨⟨given, first⟩, attached⟩
  refine ⟨given, ?_⟩
  simp only [lookup, bind_ok_iff, mapError_ok_iff]
  exact ⟨bare, first, tags, attached, rfl⟩

/-- A lookup on a healthy database. -/
theorem run_findArticle {db : Database} (healthy : db.Healthy) (slug : String) :
    (findArticle slug).run db = (db.tables.lookup slug, db) := by
  unfold findArticle lookup
  rw [run_bind, run_query healthy]
  cases firstRow Row.article ((db.tables.activeWithSlug slug).filterMap db.tables.articleColumns?) with
  | error error => rfl
  | ok bare =>
    have goes_on : ∀ next : Article → Except StorageError Article,
        ((Except.ok bare : Except EngineError Article).mapError
          (EngineError.about articleEntity slug) >>= next) = next bare := fun _ => rfl
    rw [goes_on]
    simp only [Except.mapError]
    rw [run_bind, findTags, run_query healthy]
    cases (db.tables.tagRows bare.id).mapM Row.tag <;> rfl

/-- Saving an article takes a slug that was free, and answers with what it holds from then on. -/
theorem keeps_insertArticle (article : NewArticle) :
    Keeps (fun _ => []) anyTables (insertArticle article) fun saved tables =>
      tables.lookup article.slug = .ok saved := by
  unfold insertArticle
  split
  · exact keeps_throw_bind
  · apply keeps_bind (keeps_mapM keeps_saveTag article.tags)
    intro tags
    apply keeps_bind keeps_now
    intro stamp
    apply keeps_bind_unused article.slug fun id tables => tables.Owned id article.slug
    · intro start
      apply keeps_statement
      rintro tables after id sound ⟨rfl, -⟩ done
      obtain ⟨still_sound, follows, unused, owned⟩ := follows_insertArticle sound done
      exact ⟨still_sound, follows, owned, unused⟩
    · intro id
      apply keeps_bind
      · apply keeps_forIn
        intro tag
        apply keeps_execute
        intro tables after sound owned done
        obtain ⟨still_sound, follows, same⟩ := follows_insertLink sound owned done
        refine ⟨still_sound, follows, ?_⟩
        unfold Owned
        rw [same]
        exact owned
      · intro _
        exact (keeps_findArticle article.slug).mono (fun _ given => given) (fun _ _ there => there)
          fun _ _ given => given.2

/-- The slug of a removed article counts as changed only if the removal has succeeded. -/
def removed {α : Type} (slug : String) (result : Except StorageError α) : List String :=
  if result.toBool then [slug] else []

/-- Removing an article cannot fail halfway. -/
theorem keeps_removeArticle (authorId : Int64) (slug : String) :
    Keeps (removed slug) anyTables (removeArticle authorId slug) fun _ => anyTables := by
  intro db healthy sound _
  unfold removeArticle
  rw [run_bind, run_now]
  dsimp only
  rw [run_bind, run_statement healthy.read]
  obtain ⟨chosen, tables, made, still_sound, follows, untouched, owned⟩ :=
    follows_tombstoneArticle authorId slug (.integer (Int64.ofInt (db.clock db.readings).unix))
      (.text (db.clock db.readings).stored) sound
  simp only [made]
  cases chosen with
  | none =>
    rw [untouched rfl]
    refine .kept healthy.read rfl sound (Follows.refl _ _) ?_
    intro value same
    cases same
  | some id =>
    obtain ⟨last, detached, last_sound, last_follows⟩ :=
      follows_deleteLinks still_sound (owned id rfl)
    have ready_again : Database.Healthy { db with readings := db.readings + 1, tables } :=
      ⟨healthy.triggers, healthy.missing, healthy.locked⟩
    dsimp only
    rw [execute, run_statement ready_again]
    simp only [detached, Except.map]
    exact .kept ⟨healthy.triggers, healthy.missing, healthy.locked⟩ rfl last_sound
      (follows.trans last_follows) fun _ _ => trivial

/-- A listing leaves the articles alone. -/
theorem keeps_listArticles (tagBatch : Nat) (criteria : ArticleCriteria) :
    Keeps (fun _ => exempt) pre (listArticles tagBatch criteria) fun _ => pre := by
  have reads {α : Type} {needs : List TableName} {read : Tables → Except EngineError α} :
      Keeps (fun _ => exempt) pre (inListing (query needs read)) fun _ => pre :=
    keeps_query.mono (fun _ => id) (fun _ _ => id) fun _ _ given => given.1
  apply keeps_bind reads
  intro total
  apply keeps_bind reads
  intro ids
  split
  · exact keeps_pure fun _ => id
  · apply keeps_bind reads
    intro bare
    apply keeps_bind (keeps_mapM (fun _ => reads) _)
    intro links
    exact keeps_pure fun _ => id

/-- Saving a comment leaves the articles alone. -/
theorem keeps_saveComment (slug : String) (comment : NewComment) :
    Keeps (fun _ => exempt) anyTables (saveComment slug comment) fun _ => anyTables := by
  apply keeps_bind keeps_query
  intro active
  split
  · exact keeps_throw_bind
  · apply keeps_bind keeps_now
    intro stamp
    apply keeps_bind
    · apply keeps_statement
      intro tables after id sound _ done
      obtain ⟨still_sound, follows⟩ := follows_insertComment sound done
      exact ⟨still_sound, follows.mono (by simp), trivial⟩
    · intro _
      exact keeps_query.mono (fun _ => id) (fun _ _ => id) fun _ _ given => given.1

/-- The lookup of comments leaves the articles alone. -/
theorem keeps_findComments (slug : String) :
    Keeps (fun _ => exempt) pre (findComments slug) fun _ => pre :=
  keeps_query.mono (fun _ => id) (fun _ _ => id) fun _ _ given => given.1

/-- Marking comments as deleted leaves the articles alone. -/
theorem keeps_tombstoneComments {needs : List Need} {entity id : String}
    {chosen : CommentRow → Bool} {stamp : Cell} :
    Keeps (fun _ => exempt) anyTables
      (Engine.about (statement needs fun triggers =>
        Tables.tombstoneComments triggers chosen stamp) entity id)
      fun _ => anyTables := by
  apply keeps_statement
  intro tables after count sound _ done
  obtain ⟨still_sound, follows⟩ := follows_tombstoneComments sound done
  exact ⟨still_sound, follows.mono (by simp), trivial⟩

/-- Deleting a comment leaves the articles alone. -/
theorem keeps_removeComment (authorId : Int64) (slug : String) (id : Int64) :
    Keeps (fun _ => exempt) anyTables (removeComment authorId slug id) fun _ => anyTables := by
  apply keeps_bind keeps_now
  intro stamp
  apply keeps_bind keeps_tombstoneComments
  intro count
  split
  · exact keeps_throw
  · exact keeps_pure fun _ given => given

/-- Deleting an author's comments leaves the articles alone. -/
theorem keeps_removeComments (authorId : Int64) (slug : String) :
    Keeps (fun _ => exempt) anyTables (removeComments authorId slug) fun _ => anyTables :=
  keeps_bind keeps_now fun _ => keeps_tombstoneComments

/-- Removing an article and then its author's comments, of which the second may fail. -/
theorem keeps_removeWithComments (authorId : Int64) (slug : String) :
    Keeps (fun _ => [slug]) anyTables
      (do
        removeArticle authorId slug
        removeComments authorId slug)
      fun _ => anyTables := by
  have first : Keeps (fun _ => [slug]) anyTables (removeArticle authorId slug) fun _ => anyTables := by
    apply (keeps_removeArticle authorId slug).mono (fun _ given => given) _ fun _ _ given => given
    intro result other there
    unfold removed at there
    split at there
    · exact there
    · cases there
  exact keeps_bind first fun _ => keeps_removeComments authorId slug

section UnitOfWork

variable {α ρ : Type} {db after : Database} {report : ρ}
  {body : StateM Database (Except StorageError α × ρ)}

/-- A unit of work cannot be started while another connection holds the lock. -/
theorem unitOfWork_locked (locked : db.locked = true) :
    unitOfWork body db = ((.error (.transaction ("begin: " ++ lockText)), none), db) := by
  unfold unitOfWork
  rw [if_pos (by simp [locked])]

/-- A unit of work that succeeds is committed if no statement has ended it. -/
theorem unitOfWork_commit {value : α} {start : Tables} (unlocked : db.locked = false)
    (ran : body { db with beforeWork := some db.tables } = ((.ok value, report), after))
    (opened : after.beforeWork = some start) :
    unitOfWork body db = ((.ok value, some report), { after with beforeWork := none }) := by
  unfold unitOfWork
  rw [if_neg (by simp [unlocked]), ran]
  simp only [opened]

/-- A unit of work that fails is undone if no statement has ended it. -/
theorem unitOfWork_rollback {cause : StorageError} {start : Tables} (unlocked : db.locked = false)
    (ran : body { db with beforeWork := some db.tables } = ((.error cause, report), after))
    (opened : after.beforeWork = some start) :
    unitOfWork body db = ((.error cause, some report), after.undone) := by
  unfold unitOfWork
  rw [if_neg (by simp [unlocked]), ran]
  simp only [opened]

/-- A unit of work that fails after a statement has ended it cannot be rolled back any more. -/
theorem unitOfWork_lost {cause : StorageError} (unlocked : db.locked = false)
    (ran : body { db with beforeWork := some db.tables } = ((.error cause, report), after))
    (closed : after.beforeWork = none) :
    unitOfWork body db =
      ((.error (.rollbackFailed cause "cannot rollback - no transaction is active"), some report),
        after) := by
  unfold unitOfWork
  rw [if_neg (by simp [unlocked]), ran]
  simp only [closed]

/-- A unit of work that a statement has ended fails, and nothing more is undone. -/
theorem unitOfWork_ended {result : Except StorageError α} (unlocked : db.locked = false)
    (ran : body { db with beforeWork := some db.tables } = ((result, report), after))
    (closed : after.beforeWork = none) :
    ∃ error, unitOfWork body db = ((.error error, some report), after) := by
  cases result with
  | ok value =>
    unfold unitOfWork
    rw [if_neg (by simp [unlocked]), ran]
    simp only [closed]
    exact ⟨_, rfl⟩
  | error cause => exact ⟨_, unitOfWork_lost unlocked ran closed⟩

/-- A unit of work that has succeeded has been open up to its end. -/
theorem unitOfWork_eq_ok {value : α} {reported : Option ρ}
    (done : unitOfWork body db = ((.ok value, reported), after)) :
    db.locked = false ∧ ∃ report inside start,
      body { db with beforeWork := some db.tables } = ((.ok value, report), inside) ∧
      inside.beforeWork = some start ∧ reported = some report ∧
      after = { inside with beforeWork := none } := by
  rcases Bool.eq_false_or_eq_true db.locked with held | unlocked
  · rw [unitOfWork_locked held] at done
    cases done
  · rcases ran : body { db with beforeWork := some db.tables } with ⟨⟨result, report⟩, inside⟩
    cases opened : inside.beforeWork with
    | none =>
      obtain ⟨error, ended⟩ := unitOfWork_ended unlocked ran opened
      rw [ended] at done
      cases done
    | some start =>
      cases result with
      | error cause =>
        rw [unitOfWork_rollback unlocked ran opened] at done
        cases done
      | ok result =>
        rw [unitOfWork_commit unlocked ran opened] at done
        cases done
        exact ⟨unlocked, report, inside, start, rfl, opened, rfl, rfl⟩

end UnitOfWork

/-- A session in a unit of work of its own: either all of it happens or nothing. -/
theorem ended_transaction {α : Type} {session : Session Database α} {db : Database}
    {less exempt : Except StorageError α → List String} {post : α → Tables → Prop}
    (keeps : Keeps less anyTables session post) (healthy : db.Healthy) (sound : db.tables.Sound)
    (closed : db.beforeWork = none)
    (covered : ∀ value slug, slug ∈ less (.ok value) → slug ∈ exempt (.ok value)) :
    Ended exempt post db ((transaction session).run db) := by
  have opened : Database.Healthy { db with beforeWork := some db.tables } :=
    ⟨healthy.triggers, healthy.missing, healthy.locked⟩
  have ended := keeps { db with beforeWork := some db.tables } opened sound trivial
  have failed {error : StorageError} {after : Database} (fine : after.Healthy)
      (no_work : after.beforeWork = none) (same : after.tables = db.tables) :
      Ended exempt post db (.error error, after) := by
    refine .kept fine (no_work.trans closed.symm) (same ▸ sound) ?_ ?_
    · rw [same]
      exact Follows.refl _ _
    · intro value same
      cases same
  obtain ⟨body, reports, through⟩ : ∃ body : StateM Database (Except StorageError α × Unit),
      (∀ inner, body inner = (((session.run inner).1, ()), (session.run inner).2)) ∧
      (transaction session).run db = ((unitOfWork body db).1.1, (unitOfWork body db).2) :=
    ⟨_, fun _ => rfl, rfl⟩
  have ran := reports { db with beforeWork := some db.tables }
  generalize session.run { db with beforeWork := some db.tables } = outcome at ended ran
  rw [through]
  cases ended with
  | @lost error after start fine work gone back =>
    obtain ⟨cause, whole⟩ := unitOfWork_ended healthy.locked ran gone
    rw [whole]
    cases work
    exact failed fine gone back
  | @kept result after fine work still_sound follows stands =>
    cases result with
    | ok value =>
      rw [unitOfWork_commit healthy.locked ran work]
      exact .kept ⟨fine.triggers, fine.missing, fine.locked⟩ closed.symm still_sound
        (follows.mono (covered value)) stands
    | error cause =>
      rw [unitOfWork_rollback healthy.locked ran work, undone, work]
      exact failed ⟨fine.triggers, fine.missing, fine.locked⟩ rfl rfl

end Database

end Gazette
