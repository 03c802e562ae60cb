import Mathlib.Data.List.Basic
import Gazette.Proofs.Storage.Scoping

/-!
# How the tables grow

No row of an article or a comment ever leaves its table or changes its id or its slug.  New rows
stand behind the old ones, and a row that has been marked as deleted does not change any more.  This
is told once for what each step makes of the tables, and so it holds from any database that can be
reached to every later one.
-/

set_option autoImplicit false

namespace Gazette

open Tables Session Database

/-- How the rows of a table have grown out of earlier ones: those have kept their places and what
names them, and final rows are there as they were. -/
structure Extends {α κ : Type} (name : α → κ) (final : α → Prop) (before after : List α) : Prop where
  names : before.map name <+: after.map name
  kept : ∀ row ∈ before, final row → row ∈ after

namespace Extends

variable {α κ : Type} {name : α → κ} {final : α → Prop} {before between after : List α}

/-- Rows that have been left alone have grown by nothing. -/
theorem refl (rows : List α) : Extends name final rows rows :=
  ⟨List.prefix_refl _, fun _ there _ => there⟩

/-- Rows that have grown twice have grown. -/
theorem trans (first : Extends name final before between) (second : Extends name final between after) :
    Extends name final before after where
  names := first.names.trans second.names
  kept row there closed := second.kept row (first.kept row there closed) closed

/-- A row is added. -/
theorem append (rows : List α) (row : α) : Extends name final rows (rows ++ [row]) where
  names := by
    rw [List.map_append]
    exact List.prefix_append _ _
  kept _ there _ := List.mem_append_left _ there

/-- Rows are changed, but no final ones. -/
theorem map {change : α → α} (rows : List α) (named : ∀ row, name (change row) = name row)
    (fixed : ∀ row, final row → change row = row) :
    Extends name final rows (rows.map change) where
  names := by
    rewrite [map_map_of_kept rows named]
    exact List.prefix_refl _
  kept row there closed := List.mem_map.mpr ⟨row, there, fixed row closed⟩

/-- A final row is the only one with its id. -/
theorem final_iff {id : α → Int64} {last : Int64} (grown : Extends name final before after)
    (numbered : Numbered id last after) {row : α} (there : row ∈ before) (closed : final row)
    (other : α) : other ∈ after ∧ id other = id row ↔ other = row := by
  have kept := grown.kept row there closed
  constructor
  · rintro ⟨present, same⟩
    exact numbered.eq_of_id present kept same
  · rintro rfl
    exact ⟨kept, rfl⟩

/-- What names a row still names one. -/
theorem exists_named (grown : Extends name final before after) {row : α} (there : row ∈ before) :
    ∃ other ∈ after, name other = name row :=
  List.mem_map.mp (grown.names.subset (List.mem_map_of_mem there))

end Extends

namespace Tables

/-- How the articles and comments have grown out of earlier ones. -/
structure GrowsInto (before after : Tables) : Prop where
  articles : Extends (fun row : ArticleRow => (row.id, row.slug)) (fun row => row.isActive = false)
    before.articles after.articles
  comments : Extends (fun row : CommentRow => (row.id, row.slug)) (fun row => row.isLive = false)
    before.comments after.comments

namespace GrowsInto

variable {before between after : Tables} {stamp : Cell}

/-- Tables that have been left alone have grown by nothing. -/
theorem refl (tables : Tables) : GrowsInto tables tables :=
  ⟨.refl _, .refl _⟩

/-- Tables that have grown twice have grown. -/
theorem trans (first : GrowsInto before between) (second : GrowsInto between after) :
    GrowsInto before after :=
  ⟨first.articles.trans second.articles, first.comments.trans second.comments⟩

/-- The tables grow as tags are asked for. -/
theorem upsertTags {names : List String} (done : before.upsertTags names = .ok after) :
    GrowsInto before after := by
  obtain ⟨tags, lastTag, rfl⟩ := upsertTags_eq_ok done
  exact ⟨.refl _, .refl _⟩

/-- An article is added with its tags. -/
theorem publish {article : NewArticle} {id : Int64} {tags : List Tag} {tagged published : Tables}
    (asked : before.upsertTags article.tags = .ok tagged)
    (done : Tables.insertArticle [] article stamp tagged = .ok (id, published))
    (attached : published.attachTags id tags = .ok after) : GrowsInto before after := by
  refine (upsertTags asked).trans ?_
  obtain ⟨-, -, -, rfl⟩ := insertArticle_eq_ok done
  obtain ⟨links, rfl⟩ := attachTags_eq_ok attached
  exact ⟨.append _ _, .refl _⟩

/-- The tables grow as an article is marked as deleted. -/
theorem tombstoneArticle {authorId : Int64} {slug : String} {unix : Cell} {chosen : Option Int64}
    (done : Tables.tombstoneArticle [] authorId slug unix stamp before = .ok (chosen, after)) :
    GrowsInto before after := by
  rcases tombstoneArticle_eq_ok done with ⟨-, rfl, -⟩ | ⟨_, -, -, -, rfl⟩
  · exact .refl _
  · refine ⟨.map _ (fun row => by simp) fun row closed => if_neg ?_, .refl _⟩
    simp [ArticleRow.ownedBy, closed]

/-- The tables grow as comments are marked as deleted. -/
theorem tombstoneComments {chosen : CommentRow → Bool} {count : Nat}
    (done : Tables.tombstoneComments [] chosen stamp before = .ok (count, after)) :
    GrowsInto before after := by
  obtain ⟨-, -, rfl⟩ := tombstoneComments_eq_ok done
  refine ⟨.refl _, .map _ (fun row => by simp) fun row closed => if_neg ?_⟩
  simp [closed]

end GrowsInto

end Tables

/-- Whatever a step makes of the tables, they have grown. -/
theorem Step.Makes.growsInto {setting : Setting} {step : Step} {failed : Bool}
    {before after : Tables} (makes : step.Makes setting failed before after) :
    before.GrowsInto after := by
  cases makes with
  | nothing => exact .refl _
  | account _ _ done =>
    obtain ⟨_, -, -, rfl⟩ := insertAccount_eq_ok done
    exact ⟨.refl _, .refl _⟩
  | patch _ done =>
    rcases updateAccount_eq_ok done with ⟨-, rfl, -⟩ | ⟨-, -, -, rfl⟩
    · exact .refl _
    · exact ⟨.refl _, .refl _⟩
  | tags _ _ _ done => exact .upsertTags done
  | article _ _ _ tagged done _ _ attached => exact .publish tagged done attached
  | repeated _ _ tagged done _ _ _ attached => exact .publish tagged done attached
  | removal _ marked done =>
    refine (GrowsInto.tombstoneArticle marked).trans ?_
    rw [deleteLinks_eq_ok done]
    exact ⟨.refl _, .refl _⟩
  | comment _ _ _ done =>
    obtain ⟨-, -, rfl⟩ := insertComment_eq_ok done
    exact ⟨.refl _, .append _ _⟩
  | commentRemoval _ done => exact .tombstoneComments done
  | commentsRemoval _ done => exact .tombstoneComments done

/-- To be orderly and to have grown out of some tables lasts. -/
theorem Tables.lasting_growsInto (setting : Setting) (origin : Tables) :
    Lasting setting fun tables => tables.Orderly setting.shown ∧ origin.GrowsInto tables :=
  lasting_of_makes (fun _ both => both.1) fun both makes =>
    ⟨makes.orderly both.1, both.2.trans makes.growsInto⟩

/-- The databases that operations on the repositories lead to from a database. -/
inductive Database.LeadsTo (start : Database) : Database → Prop where
  | here : LeadsTo start start
  | account {db : Database} (operation : AccountOperation) : start.LeadsTo db →
    start.LeadsTo ((operation.perform accountRepository).run.outcome db).2
  | article {db : Database} (tagBatch : Nat) (operation : ArticleOperation) : start.LeadsTo db →
    start.LeadsTo ((operation.perform (articleRepository tagBatch)).run.outcome db).2

namespace Database.LeadsTo

variable {start db : Database}

/-- What lasts, lasts wherever operations lead. -/
theorem within {clock : Nat → Instant} {fits : Tables → Prop} (leads : start.LeadsTo db)
    (lasting : Lasting ⟨ShownBy clock, True⟩ fits) (within : start.Within clock fits) :
    db.Within clock fits := by
  induction leads with
  | here => exact within
  | account operation _ ih =>
    rw [operation.outcome_effect]
    exact operation.within_effect lasting ih
  | article tagBatch operation _ ih =>
    rw [operation.outcome_effect]
    exact operation.within_effect lasting tagBatch ih

/-- From a database that can be reached, the tables stay orderly and grow. -/
theorem grown (leads : start.LeadsTo db) (reachable : start.Reachable) :
    db.Within start.clock fun tables =>
      tables.Orderly (ShownBy start.clock) ∧ start.tables.GrowsInto tables := by
  apply leads.within (lasting_growsInto ⟨ShownBy start.clock, True⟩ start.tables)
  have orderly := reachable.orderly
  refine ⟨orderly.toHealthy, rfl, ⟨orderly.tables, .refl _⟩, ?_⟩
  intro begun opened
  cases opened.symm.trans reachable.ready.closed

end Database.LeadsTo

namespace Sample

/-- A database from which an article has been deleted together with its author's comment on it.  The
comment of somebody else is left. -/
def cleared : Database :=
  let answered :=
    ((articleRepository 100).saveComment "hello-world" ⟨"thanks", 1⟩).run.outcome commented
  (((articleRepository 100).deleteWithComments 1 "hello-world").run.outcome answered.2).2

/-- The same database after the slug has been used for another article. -/
def reused : Database :=
  (((articleRepository 100).save
    ⟨"hello-world", "Hello World", "b", 1, ["go"]⟩).run.outcome cleared).2

/-- The database after the deletion is built by operations. -/
theorem reachable_cleared : cleared.Reachable :=
  (reachable_commented.article 100 (.saveComment "hello-world" ⟨"thanks", 1⟩)).article 100
    (.deleteWithComments 1 "hello-world")

/-- The slug is used again after the deletion. -/
theorem leadsTo_reused : cleared.LeadsTo reused :=
  .article 100 (.save ⟨"hello-world", "Hello World", "b", 1, ["go"]⟩) .here

end Sample

end Gazette
