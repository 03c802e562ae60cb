import Mathlib.Data.List.Basic
import Gazette.Proofs.Storage.Failures

/-!
# Deletes keep to their author

What is deleted is deleted in the name of an author.  Whether alone or as a step of a unit of work, a
delete leaves everything alone that belongs to others: their articles, the tags of these articles and
their comments.  Somebody who does not own an active article with a slug is told that there is none,
and cannot tell why.
-/

set_option autoImplicit false

namespace Gazette

open Tables Session Database

namespace Tables

variable {tables : Tables} {authorId id : Int64} {slug : String} {unix stamp : Cell}

/-- What the tables hold of others than an author: the articles and the comments of others, the
links of tags to these articles, and everything that has no author. -/
def ofOthers (authorId : Int64) (tables : Tables) : Tables :=
  let foreign := tables.articles.filter fun row => row.authorId ≠ .integer authorId
  { tables with
    articles := foreign
    comments := tables.comments.filter fun row => row.authorId ≠ .integer authorId
    links := tables.links.filter fun link =>
      foreign.any fun row => link.articleId = .integer row.id }

/-- Whether an author owns an active article with a slug. -/
def Owns (tables : Tables) (authorId : Int64) (slug : String) : Prop :=
  ∃ row ∈ tables.articles, row.ownedBy authorId slug

/-- Why an author may own no active article with a slug. -/
inductive Withheld (tables : Tables) (authorId : Int64) (slug : String) : Prop where
  /-- There has never been an article with the slug. -/
  | unknown : (∀ row ∈ tables.articles, row.slug ≠ .text slug) → Withheld tables authorId slug
  /-- All articles with the slug have been deleted. -/
  | tombstoned {row : ArticleRow} : row ∈ tables.articles → row.slug = .text slug →
    (∀ other ∈ tables.articles, other.slug = .text slug → other.isActive = false) →
    Withheld tables authorId slug
  /-- The active article with the slug belongs to somebody else. -/
  | foreign {row : ArticleRow} : row ∈ tables.articles → row.slug = .text slug →
    row.isActive → row.authorId ≠ .integer authorId → Withheld tables authorId slug

/-- The tables after an author's article with a slug has been deleted, whose id is known. -/
def withoutArticle (authorId : Int64) (slug : String) (unix stamp : Cell) (id : Int64)
    (tables : Tables) : Tables :=
  { tables with
    articles := tables.articles.map (ArticleRow.marked authorId slug unix stamp)
    links := tables.links.filter fun row => row.articleId ≠ .integer id }

/-- The tables after some comments have been deleted. -/
def withoutComments (chosen : CommentRow → Bool) (stamp : Cell) (tables : Tables) : Tables :=
  { tables with comments := tables.comments.map (CommentRow.marked chosen stamp) }

/-- A change of rows that leaves some of them alone, and does not move any into these or out of
them. -/
theorem filter_map_of_fixed {α : Type} {kept : α → Bool} {change : α → α} {rows : List α}
    (same : ∀ row, kept (change row) = kept row) (fixed : ∀ row, kept row → change row = row) :
    (rows.map change).filter kept = rows.filter kept := by
  have unmoved : kept ∘ change = kept := funext same
  rw [List.filter_map, unmoved]
  calc (rows.filter kept).map change = (rows.filter kept).map id :=
        List.map_congr_left fun row there => fixed row (List.mem_filter.mp there).2
    _ = rows.filter kept := List.map_id _

/-- An author's deletion of an article keeps the articles of others. -/
theorem marked_of_foreign {row : ArticleRow} (foreign : row.authorId ≠ .integer authorId) :
    row.marked authorId slug unix stamp = row := by
  have unowned : row.ownedBy authorId slug = false := by
    simp [ArticleRow.ownedBy, foreign]
  rw [ArticleRow.marked, unowned]
  rfl

/-- Deleting an author's article leaves alone what belongs to others. -/
theorem ofOthers_withoutArticle (distinct : (tables.articles.map ArticleRow.id).Nodup)
    {row : ArticleRow} (there : row ∈ tables.articles) (owned : row.ownedBy authorId slug) :
    (tables.withoutArticle authorId slug unix stamp row.id).ofOthers authorId =
      tables.ofOthers authorId := by
  have own : row.authorId = .integer authorId := by
    simp only [ArticleRow.ownedBy, Bool.and_eq_true, decide_eq_true_eq] at owned
    exact owned.1.2
  have articles : (tables.articles.map (ArticleRow.marked authorId slug unix stamp)).filter
      (fun row => row.authorId ≠ .integer authorId) =
        tables.articles.filter fun row => row.authorId ≠ .integer authorId := by
    apply filter_map_of_fixed
    · simp
    · exact fun row foreign => marked_of_foreign (of_decide_eq_true foreign)
  unfold ofOthers withoutArticle
  simp only [articles, mk.injEq, true_and, and_true]
  rw [List.filter_filter]
  apply List.filter_congr
  intro link _
  -- a link of somebody else's article is none of the article that is deleted
  rw [Bool.and_eq_left_iff_imp, List.any_eq_true]
  rintro ⟨other, foreign, linked⟩ 
  obtain ⟨present, not_own⟩ := List.mem_filter.mp foreign
  rw [decide_eq_true_eq] at linked not_own ⊢
  intro same
  have same_id : other.id = row.id := Cell.integer.inj (linked.symm.trans same)
  rw [List.inj_on_of_nodup_map distinct present there same_id] at not_own
  exact not_own own

/-- Deleting an author's comments leaves alone what belongs to others. -/
theorem ofOthers_withoutComments {chosen : CommentRow → Bool}
    (own : ∀ row, chosen row → row.authorId = .integer authorId) :
    (tables.withoutComments chosen stamp).ofOthers authorId = tables.ofOthers authorId := by
  have comments : (tables.comments.map (CommentRow.marked chosen stamp)).filter
      (fun row => row.authorId ≠ .integer authorId) =
        tables.comments.filter fun row => row.authorId ≠ .integer authorId := by
    apply filter_map_of_fixed
    · simp
    · intro row foreign
      have unchosen : chosen row = false :=
        Bool.eq_false_iff.mpr fun picked => of_decide_eq_true foreign (own row picked)
      rw [CommentRow.marked, unchosen]
      rfl
  unfold ofOthers withoutComments
  rw [comments]

/-- An author owns no active article with a slug for one of three reasons. -/
theorem withheld_iff (one : tables.OneActive) :
    tables.Withheld authorId slug ↔ ¬ tables.Owns authorId slug := by
  constructor
  · rintro withheld ⟨own, there, owned⟩
    simp only [ArticleRow.ownedBy, Bool.and_eq_true, decide_eq_true_eq] at owned
    obtain ⟨⟨named, by_author⟩, active⟩ := owned
    cases withheld with
    | unknown never => exact never own there named
    | tombstoned _ _ gone =>
      rw [gone own there named] at active
      cases active
    | @foreign row present same_slug alive other =>
      have mine : own ∈ tables.activeWithSlug slug :=
        List.mem_filter.mpr ⟨there, by simp [named, active]⟩
      have theirs : row ∈ tables.activeWithSlug slug :=
        List.mem_filter.mpr ⟨present, by simp [same_slug, alive]⟩
      rw [one.eq mine theirs] at by_author
      exact other by_author
  · intro not_owned
    by_cases known : ∃ row ∈ tables.articles, row.slug = .text slug
    · obtain ⟨row, there, named⟩ := known
      by_cases alive : ∃ row ∈ tables.articles, row.slug = .text slug ∧ row.isActive
      · obtain ⟨other, present, same_slug, active⟩ := alive
        refine .foreign present same_slug active ?_
        intro own
        exact not_owned ⟨other, present, by simp [ArticleRow.ownedBy, same_slug, own, active]⟩
      · refine .tombstoned there named ?_
        intro other present same_slug
        exact Bool.eq_false_iff.mpr fun active => alive ⟨other, present, same_slug, active⟩
    · exact .unknown fun row there named => known ⟨row, there, named⟩

end Tables

namespace Database

variable {db : Database} {authorId : Int64} {slug : String}

/-- Detaching the tags of an article on a healthy database. -/
theorem run_deleteLinks (healthy : db.Healthy) (id : Int64) (slug : String) :
    (Engine.about (execute [.itself .articleTags, .referred .tags, .referred .articles]
        fun triggers => deleteLinks triggers id) articleEntity slug).run db =
      (.ok (), { db with tables := { db.tables with
        links := db.tables.links.filter fun row => row.articleId ≠ .integer id } }) := by
  unfold execute
  rw [run_statement healthy]
  cases detached : deleteLinks [] id db.tables with
  | error refusal => exact absurd detached deleteLinks_ne_error
  | ok after =>
    obtain rfl := deleteLinks_eq_ok detached
    dsimp only
    rw [detached]
    rfl

/-- Deleting an article on a healthy database: it is deleted if its author owns it, or else there
is none to be found. -/
theorem run_removeArticle (healthy : db.Healthy) (authorId : Int64) (slug : String) :
    (∃ row ∈ db.tables.articles, row.ownedBy authorId slug ∧ ∃ unix stamp,
      (removeArticle authorId slug).run db =
        (.ok (), { db with
          tables := db.tables.withoutArticle authorId slug unix stamp row.id
          readings := db.readings + 1 })) ∨
    ¬ db.tables.Owns authorId slug ∧ (removeArticle authorId slug).run db =
      (.error (.notFound articleEntity slug), { db with readings := db.readings + 1 }) := by
  unfold removeArticle
  rw [run_bind]
  simp only [now, ExceptT.run_mk]
  rw [run_bind, run_statement healthy.read]
  generalize (Cell.integer (Int64.ofInt (db.clock db.readings).unix)) = unix
  generalize Cell.text (db.clock db.readings).stored = stamp
  cases marked : tombstoneArticle [] authorId slug unix stamp db.tables with
  | error refusal => exact absurd marked tombstoneArticle_ne_error
  | ok answer =>
    obtain ⟨chosen, between⟩ := answer
    rcases tombstoneArticle_eq_ok marked with ⟨rfl, rfl, unowned⟩ | ⟨row, there, owned, rfl, rfl⟩
    · refine .inr ⟨?_, rfl⟩
      rintro ⟨row, there, owned⟩
      rw [unowned row there] at owned
      cases owned
    · refine .inl ⟨row, there, owned, unix, stamp, ?_⟩
      have marked_healthy : Healthy { db with
          tables := { db.tables with
            articles := db.tables.articles.map (ArticleRow.marked authorId slug unix stamp) }
          readings := db.readings + 1 } :=
        ⟨healthy.triggers, healthy.missing, healthy.locked⟩
      exact run_deleteLinks marked_healthy row.id slug

/-- Marking comments as deleted on a healthy database. -/
theorem run_tombstoneComments (healthy : db.Healthy) (chosen : CommentRow → Bool) (stamp : Cell)
    (id : String) :
    ∃ count, (Engine.about (statement [.itself .comments] fun triggers =>
        tombstoneComments triggers chosen stamp) commentEntity id).run db =
      (.ok count, { db with tables := db.tables.withoutComments chosen stamp }) := by
  rw [run_statement healthy]
  cases marked : tombstoneComments [] chosen stamp db.tables with
  | error refusal => exact absurd marked tombstoneComments_ne_error
  | ok answer =>
    obtain ⟨count, after⟩ := answer
    obtain ⟨-, -, rfl⟩ := tombstoneComments_eq_ok marked
    exact ⟨count, rfl⟩

/-- Deleting an author's comments on a healthy database. -/
theorem run_removeComments (healthy : db.Healthy) (authorId : Int64) (slug : String) :
    ∃ count, (removeComments authorId slug).run db =
      (.ok count, { db with
        tables := db.tables.withoutComments
          (fun row => row.slug = .text slug && row.authorId = .integer authorId)
          (.text (db.clock db.readings).stored)
        readings := db.readings + 1 }) := by
  unfold removeComments
  rw [run_bind]
  exact run_tombstoneComments healthy.read
    (fun row => row.slug = .text slug && row.authorId = .integer authorId)
    (.text (db.clock db.readings).stored) slug

/-- Deleting an author's comment on a healthy database. -/
theorem run_removeComment (healthy : db.Healthy) (authorId : Int64) (slug : String) (id : Int64) :
    ∃ result stamp, (removeComment authorId slug id).run db =
      (result, { db with
        tables := db.tables.withoutComments
          (fun row => row.id = id && row.slug = .text slug && row.authorId = .integer authorId) stamp
        readings := db.readings + 1 }) := by
  unfold removeComment
  rw [run_bind]
  simp only [now, ExceptT.run_mk]
  rw [run_bind]
  obtain ⟨count, ran⟩ := run_tombstoneComments healthy.read
    (fun row => row.id = id && row.slug = .text slug && row.authorId = .integer authorId)
    (.text (db.clock db.readings).stored) (toString id.toInt)
  rw [ran]
  dsimp only
  split
  · exact ⟨_, _, rfl⟩
  · exact ⟨_, _, rfl⟩

/-- How a session in the name of an author leaves a database: nothing has changed that belongs to
others. -/
structure Scoped (authorId : Int64) (before after : Database) : Prop where
  alike : before.Alike after
  same_work : after.beforeWork = before.beforeWork
  same_ids : after.tables.articles.map ArticleRow.id = before.tables.articles.map ArticleRow.id
  others : after.tables.ofOthers authorId = before.tables.ofOthers authorId

namespace Scoped

variable {before between after : Database}

/-- What leaves a database alone leaves others' things alone. -/
theorem refl (db : Database) : Scoped authorId db db :=
  ⟨.refl db, rfl, rfl, rfl⟩

/-- What each of two steps leaves alone is left alone by both together. -/
theorem trans (first : Scoped authorId before between) (second : Scoped authorId between after) :
    Scoped authorId before after where
  alike := first.alike.trans second.alike
  same_work := second.same_work.trans first.same_work
  same_ids := second.same_ids.trans first.same_ids
  others := second.others.trans first.others

/-- The clock is read, and the tables are changed for the author. -/
theorem changed {tables : Tables}
    (same_ids : tables.articles.map ArticleRow.id = db.tables.articles.map ArticleRow.id)
    (others : tables.ofOthers authorId = db.tables.ofOthers authorId) :
    Scoped authorId db { db with tables, readings := db.readings + 1 } :=
  ⟨⟨rfl, rfl, rfl, rfl⟩, rfl, same_ids, others⟩

end Scoped

/-- A session that leaves alone what belongs to others than an author. -/
def ScopedTo {α : Type} (authorId : Int64) (session : Session Database α) : Prop :=
  ∀ db : Database, db.Healthy → (db.tables.articles.map ArticleRow.id).Nodup →
    db.Scoped authorId (session.run db).2

/-- Two sessions one after the other. -/
theorem scopedTo_bind {α β : Type} {session : Session Database β} {next : β → Session Database α}
    (first : ScopedTo authorId session) (second : ∀ value, ScopedTo authorId (next value)) :
    ScopedTo authorId (session >>= next) := by
  intro db healthy distinct
  have begun := first db healthy distinct
  rw [run_bind]
  generalize session.run db = outcome at begun
  obtain ⟨error | value, between⟩ := outcome
  · exact begun
  · exact begun.trans (second value between (begun.alike.healthy healthy) (begun.same_ids ▸ distinct))

/-- Deleting an article leaves alone what belongs to others. -/
theorem scopedTo_removeArticle (authorId : Int64) (slug : String) :
    ScopedTo authorId (removeArticle authorId slug) := by
  intro db healthy distinct
  rcases run_removeArticle healthy authorId slug with
    ⟨row, there, owned, unix, stamp, ran⟩ | ⟨-, ran⟩
  · rw [ran]
    exact .changed (by simp [withoutArticle, Function.comp_def])
      (ofOthers_withoutArticle distinct there owned)
  · rw [ran]
    exact .changed rfl rfl

/-- Deleting a comment leaves alone what belongs to others. -/
theorem scopedTo_removeComment (authorId : Int64) (slug : String) (id : Int64) :
    ScopedTo authorId (removeComment authorId slug id) := by
  intro db healthy _
  obtain ⟨result, stamp, ran⟩ := run_removeComment healthy authorId slug id
  rw [ran]
  exact .changed rfl (ofOthers_withoutComments (by simp))

/-- Deleting an author's comments leaves alone what belongs to others. -/
theorem scopedTo_removeComments (authorId : Int64) (slug : String) :
    ScopedTo authorId (removeComments authorId slug) := by
  intro db healthy _
  obtain ⟨count, ran⟩ := run_removeComments healthy authorId slug
  rw [ran]
  exact .changed rfl (ofOthers_withoutComments (by simp))

/-- A unit of work leaves alone what its body leaves alone, whether it commits or is undone. -/
theorem ofOthers_unitOfWork {α ρ : Type} {body : StateM Database (Except StorageError α × ρ)}
    (unlocked : db.locked = false)
    (keeps : Scoped authorId { db with beforeWork := some db.tables }
      (body { db with beforeWork := some db.tables }).2) :
    (unitOfWork body db).2.tables.ofOthers authorId = db.tables.ofOthers authorId := by
  rcases inside : body { db with beforeWork := some db.tables } with ⟨⟨result, report⟩, after⟩
  rw [inside] at keeps
  have opened : after.beforeWork = some db.tables := keeps.same_work
  cases result with
  | ok value =>
    rw [unitOfWork_commit unlocked inside opened]
    exact keeps.others
  | error cause =>
    rw [unitOfWork_rollback unlocked inside opened, undone, opened]

/-- A transaction leaves alone what its session leaves alone. -/
theorem ofOthers_transaction {α : Type} {session : Session Database α} (healthy : db.Healthy)
    (distinct : (db.tables.articles.map ArticleRow.id).Nodup)
    (keeps : ScopedTo authorId session) :
    ((transaction session).run db).2.tables.ofOthers authorId = db.tables.ofOthers authorId := by
  obtain ⟨body, reports, through⟩ := run_transaction session
  rw [through]
  apply ofOthers_unitOfWork healthy.locked
  rw [reports]
  exact keeps _ ⟨healthy.triggers, healthy.missing, healthy.locked⟩ distinct

end Database

/-- Whether a step deletes something in the name of an author. -/
def Step.DeletesFor (authorId : Int64) : Step → Prop
  | .deleteArticle author _ => author = authorId
  | .deleteComment author _ _ => author = authorId
  | .deleteComments author _ => author = authorId
  | _ => False

/-- Whether an operation deletes something in the name of an author. -/
def ArticleOperation.DeletesFor (authorId : Int64) : ArticleOperation → Prop
  | .delete author _ => author = authorId
  | .deleteComment author _ _ => author = authorId
  | .deleteComments author _ => author = authorId
  | .deleteWithComments author _ => author = authorId
  | _ => False

variable {db : Database} {authorId : Int64} {tagBatch : Nat}

/-- A step that deletes leaves alone what belongs to others. -/
theorem Step.DeletesFor.scopedTo {step : Step} (deletes : step.DeletesFor authorId)
    (tagBatch : Nat) : ScopedTo authorId (step.perform tagBatch) := by
  cases step with
  | deleteArticle author slug =>
    cases deletes
    exact scopedTo_removeArticle _ slug
  | deleteComment author slug id =>
    cases deletes
    exact scopedTo_removeComment _ slug id
  | deleteComments author slug =>
    cases deletes
    exact scopedTo_removeComments _ slug
  | _ => exact deletes.elim

/-- An operation that deletes leaves alone what belongs to others. -/
theorem ArticleOperation.DeletesFor.others {operation : ArticleOperation}
    (deletes : operation.DeletesFor authorId) (healthy : db.Healthy)
    (distinct : (db.tables.articles.map ArticleRow.id).Nodup) :
    (operation.effect tagBatch db).2.tables.ofOthers authorId = db.tables.ofOthers authorId := by
  cases operation with
  | delete author slug =>
    cases deletes
    exact ofOthers_transaction healthy distinct (scopedTo_removeArticle _ slug)
  | deleteComment author slug id =>
    cases deletes
    exact (scopedTo_removeComment _ slug id db healthy distinct).others
  | deleteComments author slug =>
    cases deletes
    exact (scopedTo_removeComments _ slug db healthy distinct).others
  | deleteWithComments author slug =>
    cases deletes
    exact ofOthers_transaction healthy distinct
      (scopedTo_bind (scopedTo_removeArticle _ slug) fun _ => scopedTo_removeComments _ slug)
  | _ => exact deletes.elim

/-- The steps of a unit of work that does nothing but delete for an author. -/
theorem Work.scoped_carryOut (work : Work) (healthy : db.Healthy)
    (distinct : (db.tables.articles.map ArticleRow.id).Nodup)
    (deletes : ∀ stage ∈ work.stages tagBatch db, stage.step.DeletesFor authorId) :
    db.Scoped authorId (work.carryOut tagBatch db).2 := by
  induction work generalizing db with
  | finish outcome => exact .refl db
  | perform step next ih =>
    have first : step.DeletesFor authorId := deletes _ List.mem_cons_self
    have begun := first.scopedTo tagBatch db healthy distinct
    rcases ran : (step.perform tagBatch).run db with ⟨result, between⟩
    rw [stages_perform, ran] at deletes
    rw [ran] at begun
    have rest := ih result (begun.alike.healthy healthy) (begun.same_ids ▸ distinct)
      fun stage later => deletes stage (List.mem_cons_of_mem _ later)
    rcases went_on : (next result).carryOut tagBatch between with ⟨⟨outcome, record⟩, after⟩
    rw [carryOut_perform ran went_on]
    rw [went_on] at rest
    exact begun.trans rest

/-- How the deletion of an author's article with a slug ends on some tables: it succeeds exactly if
the author owns one, and else there is none to be found and nothing has changed. -/
structure DeletionEnds {α : Type} (authorId : Int64) (slug : String) (before after : Tables)
    (result : Except StorageError α) : Prop where
  succeeds : (∃ value, result = .ok value) ↔ before.Owns authorId slug
  refused : ¬ before.Owns authorId slug →
    result = .error (.notFound articleEntity slug) ∧ after = before

section Deletion

variable {slug : String}

/-- A deletion that has succeeded, since the author owns an article. -/
theorem DeletionEnds.of_owned {α : Type} {value : α} {before after : Tables}
    (owned : before.Owns authorId slug) :
    DeletionEnds authorId slug before after (.ok value : Except StorageError α) :=
  ⟨⟨fun _ => owned, fun _ => ⟨value, rfl⟩⟩, fun unowned => absurd owned unowned⟩

/-- A deletion that has been refused, since the author owns no article. -/
theorem DeletionEnds.of_unowned {α : Type} {before : Tables}
    (unowned : ¬ before.Owns authorId slug) :
    DeletionEnds authorId slug before before
      (.error (.notFound articleEntity slug) : Except StorageError α) :=
  ⟨⟨nofun, fun owned => absurd owned unowned⟩, fun _ => ⟨rfl, rfl⟩⟩

end Deletion

namespace Database

variable {slug : String}

/-- Deleting an article as a step of a unit of work. -/
theorem ends_removeArticle (healthy : db.Healthy) :
    DeletionEnds authorId slug db.tables ((removeArticle authorId slug).run db).2.tables
      ((removeArticle authorId slug).run db).1 := by
  rcases run_removeArticle healthy authorId slug with
    ⟨row, there, owned, unix, stamp, ran⟩ | ⟨unowned, ran⟩
  · rw [ran]
    exact .of_owned ⟨row, there, owned⟩
  · rw [ran]
    exact .of_unowned unowned

/-- Deleting an article and what follows, as a transaction of its own. -/
theorem ends_transaction {α : Type} {next : Session Database α} (healthy : db.Healthy)
    (goes_on : ∀ inner : Database, inner.Healthy → ∃ value after,
      next.run inner = (.ok value, after) ∧ after.beforeWork = inner.beforeWork) :
    let deletion : Session Database α := do
      removeArticle authorId slug
      next
    DeletionEnds authorId slug db.tables ((transaction deletion).run db).2.tables
      ((transaction deletion).run db).1 := by
  intro deletion
  have inner_healthy : Healthy { db with beforeWork := some db.tables } :=
    ⟨healthy.triggers, healthy.missing, healthy.locked⟩
  rcases run_removeArticle inner_healthy authorId slug with
    ⟨row, there, owned, unix, stamp, ran⟩ | ⟨unowned, ran⟩
  · obtain ⟨value, after, went_on, same_work⟩ := goes_on { db with
        tables := db.tables.withoutArticle authorId slug unix stamp row.id
        beforeWork := some db.tables
        readings := db.readings + 1 } ⟨healthy.triggers, healthy.missing, healthy.locked⟩
    have whole : deletion.run { db with beforeWork := some db.tables } = (.ok value, after) := by
      rw [run_bind, ran]
      exact went_on
    rw [transaction_commit healthy.locked whole same_work]
    exact .of_owned ⟨row, there, owned⟩
  · have whole : deletion.run { db with beforeWork := some db.tables } =
        (.error (.notFound articleEntity slug),
          { db with beforeWork := some db.tables, readings := db.readings + 1 }) := by
      rw [run_bind, ran]
    rw [transaction_rollback healthy.locked whole rfl]
    exact .of_unowned unowned

/-- Deleting an article alone. -/
theorem ends_delete (healthy : db.Healthy) :
    DeletionEnds authorId slug db.tables
      ((transaction (removeArticle authorId slug)).run db).2.tables
      ((transaction (removeArticle authorId slug)).run db).1 := by
  have alone : removeArticle authorId slug = (do
      removeArticle authorId slug
      pure ()) := (bind_pure _).symm
  rw [alone]
  exact ends_transaction healthy fun inner _ => ⟨(), inner, rfl, rfl⟩

/-- Deleting an article together with its author's comments on it. -/
theorem ends_removeWithComments (healthy : db.Healthy) :
    DeletionEnds authorId slug db.tables ((removeWithComments authorId slug).run db).2.tables
      ((removeWithComments authorId slug).run db).1 := by
  apply ends_transaction healthy
  intro inner inner_healthy
  obtain ⟨count, ran⟩ := run_removeComments inner_healthy authorId slug
  exact ⟨count, _, ran, rfl⟩

/-- Deletes keep to their author.  Whatever has been done to the database before, a delete in the
name of an author, alone or as a step of a unit of work, answers and leaves everything alone that
belongs to others, and so does a whole unit of work that does nothing else.  An article is deleted,
alone, with its comments or in a unit of work, exactly if the author owns an active one with the
slug.  Else there is said to be none and nothing changes, whether there has never been one, it has
been deleted, or it belongs to somebody else. -/
theorem deletes_keep_to_author (reachable : db.Reachable) (authorId : Int64) (tagBatch : Nat) :
    let repository := articleRepository tagBatch
    let stages (work : Work) := work.stages tagBatch { db with beforeWork := some db.tables }
    (∀ operation : ArticleOperation, operation.DeletesFor authorId →
      ∃ answer after, (operation.perform repository).run.outcome db = (.ok answer, after) ∧
        after.tables.ofOthers authorId = db.tables.ofOthers authorId) ∧
    (∀ work, ∀ stage ∈ stages work, stage.step.DeletesFor authorId →
      stage.after.tables.ofOthers authorId = stage.before.tables.ofOthers authorId) ∧
    (∀ work, (∀ stage ∈ stages work, stage.step.DeletesFor authorId) →
      ∃ answer after, (repository.carryOut work).run.outcome db = (.ok answer, after) ∧
        after.tables.ofOthers authorId = db.tables.ofOthers authorId) ∧
    ∀ slug,
      (∃ result after, (repository.delete authorId slug).run.outcome db = (.ok result, after) ∧
        DeletionEnds authorId slug db.tables after.tables result) ∧
      (∃ result after,
        (repository.deleteWithComments authorId slug).run.outcome db = (.ok result, after) ∧
          DeletionEnds authorId slug db.tables after.tables result) ∧
      (∀ work, ∀ stage ∈ stages work, ∀ result,
        stage.toPerformed = ⟨.deleteArticle authorId slug, result⟩ →
          DeletionEnds authorId slug stage.before.tables stage.after.tables result) ∧
      (db.tables.Withheld authorId slug ↔ ¬ db.tables.Owns authorId slug) := by
  intro repository stages
  have orderly := reachable.orderly
  have distinct := orderly.tables.articleIds.distinct
  refine ⟨?_, ?_, ?_, ?_⟩
  · intro operation deletes
    exact ⟨_, _, operation.outcome_effect tagBatch db,
      deletes.others orderly.toHealthy distinct⟩
  · intro work stage there deletes
    have fits := work.stage_fits orderly.opened there
    have left := deletes.scopedTo tagBatch stage.before fits.orderly.toHealthy
      fits.orderly.tables.articleIds.distinct
    rw [fits.ran] at left
    exact left.others
  · intro work deletes
    refine ⟨_, _, rfl, ?_⟩
    exact ofOthers_unitOfWork orderly.locked
      (work.scoped_carryOut orderly.opened.toHealthy distinct deletes)
  · intro slug
    refine ⟨⟨_, _, rfl, ends_delete orderly.toHealthy⟩,
      ⟨_, _, rfl, ends_removeWithComments orderly.toHealthy⟩, ?_,
      withheld_iff orderly.tables.oneActive⟩
    intro work stage there result same
    have fits := work.stage_fits orderly.opened there
    have ends := @ends_removeArticle stage.before authorId slug fits.orderly.toHealthy
    obtain ⟨⟨step, answer⟩, before, after⟩ := stage
    cases same
    have ran := fits.ran
    rw [show (removeArticle authorId slug).run before = (result, after) from ran] at ends
    exact ends

end Database

namespace Sample

/-- A database with two accounts, an article of the first and a comment of the second. -/
def commented : Database :=
  let opened := (accountRepository.save ⟨"u", "u@x.com", "p", "", ""⟩).run.outcome database
  let joined := (accountRepository.save ⟨"v", "v@x.com", "p", "", ""⟩).run.outcome opened.2
  let saved := ((articleRepository 100).save
    ⟨"hello-world", "Hello World", "b", 1, ["go"]⟩).run.outcome joined.2
  (((articleRepository 100).saveComment "hello-world" ⟨"c", 2⟩).run.outcome saved.2).2

/-- The sample with a comment is built by operations. -/
theorem reachable_commented : commented.Reachable := by
  have opened : database.Reachable := .empty _
  have joined := (opened.account (.save ⟨"u", "u@x.com", "p", "", ""⟩)).account
    (.save ⟨"v", "v@x.com", "p", "", ""⟩)
  have saved := joined.article 100 (.save ⟨"hello-world", "Hello World", "b", 1, ["go"]⟩)
  exact saved.article 100 (.saveComment "hello-world" ⟨"c", 2⟩)

end Sample

/-- Whoever has only commented on an article cannot delete it, and is not told why.  Its author can,
and the comment of the other one stays. -/
theorem deletes_keep_to_author_stranger :
    let repository := articleRepository 100
    (∃ after, (repository.deleteWithComments 2 "hello-world").run.outcome Sample.commented =
        (.ok (.error (.notFound articleEntity "hello-world")), after) ∧
      after.tables = Sample.commented.tables) ∧
    ∃ count after, (repository.deleteWithComments 1 "hello-world").run.outcome Sample.commented =
        (.ok (.ok count), after) ∧
      (after.tables.ofOthers 1).comments = Sample.commented.tables.comments := by
  intro repository
  have reachable := Sample.reachable_commented
  constructor
  · obtain ⟨-, -, -, slugs⟩ := deletes_keep_to_author reachable 2 100
    obtain ⟨-, ⟨result, after, ran, ends⟩, -, -⟩ := slugs "hello-world"
    have unowned : ¬ Sample.commented.tables.Owns 2 "hello-world" := by
      unfold Owns
      decide +kernel
    obtain ⟨rfl, same⟩ := ends.refused unowned
    exact ⟨after, ran, same⟩
  · obtain ⟨others, -, -, slugs⟩ := deletes_keep_to_author reachable 1 100
    obtain ⟨-, ⟨result, after, ran, ends⟩, -, -⟩ := slugs "hello-world"
    have owned : Sample.commented.tables.Owns 1 "hello-world" := by
      unfold Owns
      decide +kernel
    obtain ⟨count, rfl⟩ := ends.succeeds.mpr owned
    obtain ⟨answer, last, again, same⟩ := others (.deleteWithComments 1 "hello-world") rfl
    cases ran.symm.trans again
    refine ⟨count, after, ran, ?_⟩
    rw [same]
    decide +kernel

end Gazette
