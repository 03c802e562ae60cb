import Mathlib.Data.List.Basic
import Gazette.Proofs.Storage.Growth
import Gazette.Proofs.Storage.Shown

/-!
# Tombstones are final

An article or a comment that has been deleted stays as it is for ever, whatever operations and units
of work follow.  No answer shows it again, also when its slug has been used for another article.  Ids
are given out in ascending order, so the order of ids is the order in which rows have been committed.
-/

set_option autoImplicit false

namespace Gazette

open Tables Session Database

/-- The ids of the articles that an operation has answered with. -/
def ArticleOperation.articles (operation : ArticleOperation) (answer : operation.Answer) :
    List Int64 :=
  (operation.record answer).flatMap Performed.articles

/-- The ids of the comments that an operation has answered with. -/
def ArticleOperation.comments (operation : ArticleOperation) (answer : operation.Answer) :
    List Int64 :=
  (operation.record answer).flatMap Performed.comments

/-- Whether ids have only come to others that were there before, and are greater than those. -/
def NewIdsGreater (before after : List Int64) : Prop :=
  ∃ more, after = before ++ more ∧ ∀ old ∈ before, ∀ new ∈ more, old < new

/-- Rows that have been added to numbered ones have greater ids. -/
theorem Extends.newIdsGreater {α κ : Type} {name : α → κ} {final : α → Prop} {id : α → Int64}
    {last : Int64} {before after : List α} (grown : Extends name final before after)
    (of_name : κ → Int64) (same : ∀ row, of_name (name row) = id row)
    (numbered : Numbered id last after) : NewIdsGreater (before.map id) (after.map id) := by
  obtain ⟨more, behind⟩ := grown.names
  have ids (rows : List α) : (rows.map name).map of_name = rows.map id := by
    rw [List.map_map]
    exact List.map_congr_left fun row _ => same row
  have split : after.map id = before.map id ++ more.map of_name := by
    rw [← ids after, ← behind, List.map_append, ids]
  refine ⟨more.map of_name, split, ?_⟩
  have ascending := numbered.ascending
  rw [split, List.pairwise_append] at ascending
  exact ascending.2.2

/-- If what the steps answer with is present right afterwards, then what an operation answers with has
been present at some time during it. -/
theorem ArticleOperation.present_of_shown {clock : Nat → Instant} {fits : Tables → Prop}
    {db : Database} {tagBatch : Nat} {operation : ArticleOperation} {id : Int64}
    {shows_ : Performed → List Int64} {present : Tables → Int64 → Prop}
    (nothing : ∀ step error, shows_ ⟨step, .error error⟩ = [])
    (told : ∀ (db after : Database) (step : Step) (result : Except StorageError step.Answer),
      fits db.tables → (step.perform tagBatch).run db = (result, after) →
      ∀ id ∈ shows_ ⟨step, result⟩, present after.tables id)
    (lasting : Lasting ⟨ShownBy clock, True⟩ fits) (within : db.Within clock fits)
    (shown : id ∈ (operation.record (operation.effect tagBatch db).1).flatMap shows_) :
    ∃ tables, fits tables ∧ present tables id := by
  obtain ⟨⟨step, result⟩, there, shown⟩ := List.mem_flatMap.mp shown
  have succeeded : Performed.succeeded ⟨step, result⟩ := by
    cases result with
    | error error =>
      rw [nothing] at shown
      cases shown
    | ok answer => rfl
  obtain ⟨before, after, begun, ended, ran⟩ :=
    operation.between_of_record lasting within there succeeded
  exact ⟨after.tables, ended.tables, told before after step result begun.tables ran id shown⟩

namespace Database

variable {db later : Database}

/-- Tombstones are final and ids are not used again.  Once an article or a comment has been deleted
and this has been committed, its row stays as it is wherever operations and units of work lead, it is
the only row with its id, and no operation answers with it any more, be it a lookup, a listing, the
answer to a save or a step of a unit of work.  Articles and comments that are committed later have
greater ids than all that were committed before. -/
theorem tombstones_final (reachable : db.Reachable) (leads : db.LeadsTo later) :
    (∀ row ∈ db.tables.articles, row.isActive = false →
      (∀ other, other ∈ later.tables.articles ∧ other.id = row.id ↔ other = row) ∧
      ∀ tagBatch operation answer last,
        (ArticleOperation.perform (articleRepository tagBatch) operation).run.outcome later =
          (.ok answer, last) → row.id ∉ operation.articles answer) ∧
    (∀ row ∈ db.tables.comments, row.isLive = false →
      (∀ other, other ∈ later.tables.comments ∧ other.id = row.id ↔ other = row) ∧
      ∀ tagBatch operation answer last,
        (ArticleOperation.perform (articleRepository tagBatch) operation).run.outcome later =
          (.ok answer, last) → row.id ∉ operation.comments answer) ∧
    NewIdsGreater (db.tables.articles.map ArticleRow.id) (later.tables.articles.map ArticleRow.id) ∧
    NewIdsGreater (db.tables.comments.map CommentRow.id)
      (later.tables.comments.map CommentRow.id) := by
  have lasting := lasting_growsInto ⟨ShownBy db.clock, True⟩ db.tables
  have within := leads.grown reachable
  have sane := within.tables.1.toIntegrity
  have grown := within.tables.2
  refine ⟨?articles, ?comments, ?articleIds, ?commentIds⟩
  case articles =>
    intro row there deleted
    refine ⟨grown.articles.final_iff sane.articleIds there deleted, ?_⟩
    intro tagBatch operation answer last ran shown
    rw [operation.outcome_effect] at ran
    cases ran
    -- the row is in all tables that come after, so an active row with its id would be this one
    obtain ⟨tables, ⟨orderly, still_grown⟩, other, present, active, same⟩ :=
      ArticleOperation.present_of_shown (fun step _ => by cases step <;> rfl)
        (fun _ _ _ _ both ran => Step.hasActive_of_perform both.1.toIntegrity ran) lasting within shown
    obtain rfl :=
      (still_grown.articles.final_iff orderly.articleIds there deleted other).mp ⟨present, same⟩
    rw [deleted] at active
    cases active
  case comments =>
    intro row there deleted
    refine ⟨grown.comments.final_iff sane.commentIds there deleted, ?_⟩
    intro tagBatch operation answer last ran shown
    rw [operation.outcome_effect] at ran
    cases ran
    obtain ⟨tables, ⟨orderly, still_grown⟩, other, present, live, same⟩ :=
      ArticleOperation.present_of_shown (fun step _ => by cases step <;> rfl)
        (fun _ _ _ _ both ran => Step.hasLive_of_perform both.1.toIntegrity ran) lasting within shown
    obtain rfl :=
      (still_grown.comments.final_iff orderly.commentIds there deleted other).mp ⟨present, same⟩
    rw [deleted] at live
    cases live
  case articleIds => exact grown.articles.newIdsGreater Prod.fst (fun _ => rfl) sane.articleIds
  case commentIds => exact grown.comments.newIdsGreater Prod.fst (fun _ => rfl) sane.commentIds

end Database

/-- An article and a comment that have been deleted stay where they are although the slug of the
article is used again, and what is found under the slug is another article. -/
theorem tombstones_final_reused :
    (∃ row ∈ Sample.cleared.tables.articles,
      row.isActive = false ∧ row ∈ Sample.reused.tables.articles ∧
        ∃ article after, ((articleRepository 100).find "hello-world").run.outcome Sample.reused =
          (.ok (.ok article), after) ∧ article.id ≠ row.id) ∧
    (∃ row ∈ Sample.cleared.tables.comments,
      row.isLive = false ∧ row ∈ Sample.reused.tables.comments) ∧
    NewIdsGreater (Sample.cleared.tables.articles.map ArticleRow.id)
      (Sample.reused.tables.articles.map ArticleRow.id) := by
  obtain ⟨articles, comments, articleIds, -⟩ :=
    tombstones_final Sample.reachable_cleared Sample.leadsTo_reused
  have article_gone : ∃ row ∈ Sample.cleared.tables.articles, row.isActive = false := by
    decide +kernel
  have comment_gone : ∃ row ∈ Sample.cleared.tables.comments, row.isLive = false := by
    decide +kernel
  obtain ⟨row, there, deleted⟩ := article_gone
  obtain ⟨stays, unseen⟩ := articles row there deleted
  obtain ⟨comment, comment_there, comment_deleted⟩ := comment_gone
  obtain ⟨comment_stays, -⟩ := comments comment comment_there comment_deleted
  refine ⟨⟨row, there, deleted, ((stays row).mpr rfl).1, ?_⟩,
    ⟨comment, comment_there, comment_deleted, ((comment_stays comment).mpr rfl).1⟩, articleIds⟩
  have found : ((((articleRepository 100).find "hello-world").run.outcome
      Sample.reused).1.toOption.bind Except.toOption).isSome := by
    decide +kernel
  rcases ran : ((articleRepository 100).find "hello-world").run.outcome Sample.reused with
    ⟨error | error | article, after⟩
  · rw [ran] at found
    cases found
  · rw [ran] at found
    cases found
  · refine ⟨article, after, rfl, ?_⟩
    intro same
    exact unseen 100 (.find "hello-world") (.ok article) after ran (same ▸ List.mem_singleton_self _)

end Gazette
