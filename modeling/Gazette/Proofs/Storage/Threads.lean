import Mathlib.Data.List.Basic
import Mathlib.Logic.Function.Basic
import Gazette.Proofs.Storage.Inherited
import Gazette.Proofs.Storage.Records

/-!
# Comments as lists

The live comments on a slug are a filtered and joined view of a table that only ever grows.  Seen
through the lookup each slug has a thread, a list of comments with the newest first, and that is all
there is to it: saving a comment puts it in front of the thread of its slug, and deleting comments
takes them out of it.
-/

set_option autoImplicit false

namespace Gazette

open Tables Session Database

namespace Tables

variable {tables : Tables} {slug : String} {threads : String → List Comment}
  {comment : Comment} {stamp : Cell}

/-- The rows of the live comments on a slug, the newest first. -/
def liveOn (tables : Tables) (slug : String) : List CommentRow :=
  (tables.comments.filter fun row => row.slug = .text slug && row.isLive).reverse

/-- Whether the live comments on every slug are those of its thread, in order. -/
structure Discusses (tables : Tables) (threads : String → List Comment) : Prop where
  rows (slug : String) : (threads slug).map Comment.row = tables.liveOn slug
  authors {slug : String} {comment : Comment} : comment ∈ threads slug → tables.Knows comment.author

/-- A comment is live if and only if it has no tombstone. -/
theorem isLive_row : comment.row.isLive = comment.deletedAt.isNone := by
  cases tombstone : comment.deletedAt with
  | none => simp [CommentRow.isLive, Comment.row, tombstone]
  | some stamp => simp [CommentRow.isLive, Comment.row, tombstone]

/-- The live comments on a slug are those that have it and have not been deleted. -/
theorem mem_liveOn {row : CommentRow} :
    row ∈ tables.liveOn slug ↔ row ∈ tables.comments ∧ row.slug = .text slug ∧ row.isLive := by
  simp [liveOn]

/-- After one thread has been replaced, a comment is in the new one or in one that has been kept. -/
theorem mem_of_mem_update {other : String} {thread : List Comment}
    (there : comment ∈ Function.update threads slug thread other) :
    comment ∈ thread ∨ comment ∈ threads other := by
  by_cases own : other = slug
  · subst own
    rw [Function.update_self] at there
    exact .inl there
  · rw [Function.update_of_ne own] at there
    exact .inr there

/-- Orderly tables have a thread for every slug. -/
theorem Orderly.exists_threads {shown : Instant → Prop} (orderly : tables.Orderly shown) :
    ∃ threads, tables.Discusses threads ∧ ∀ slug, ∀ comment ∈ threads slug,
      shown comment.createdAt ∧ shown comment.updatedAt := by
  have each (slug : String) : ∃ thread : List Comment, thread.map Comment.row = tables.liveOn slug ∧
      ∀ comment ∈ thread, tables.Knows comment.author ∧ shown comment.createdAt ∧
        shown comment.updatedAt := by
    apply exists_map_eq
    intro row there
    obtain ⟨present, -, live⟩ := mem_liveOn.mp there
    obtain ⟨comment, same, -, known, dated⟩ := orderly.exists_comment present live
    exact ⟨comment, same, known, dated⟩
  choose threads rows held using each
  exact ⟨threads, ⟨rows, fun there => (held _ _ there).1⟩, fun slug comment there =>
    (held slug comment there).2⟩

namespace Discusses

/-- A comment in a thread is a live one on the slug. -/
theorem mem_row (discusses : tables.Discusses threads) (there : comment ∈ threads slug) :
    comment.row ∈ tables.comments ∧ comment.slug = slug ∧ comment.deletedAt = none := by
  have row : comment.row ∈ (threads slug).map Comment.row := List.mem_map_of_mem there
  rw [discusses.rows] at row
  obtain ⟨present, named, live⟩ := mem_liveOn.mp row
  rw [isLive_row] at live
  exact ⟨present, Cell.text.inj named, Option.isNone_iff_eq_none.mp live⟩

/-- No two comments of a thread share an id. -/
theorem nodup_ids (discusses : tables.Discusses threads) (sane : tables.Integrity) (slug : String) :
    ((threads slug).map Comment.id).Nodup := by
  have ids : (threads slug).map Comment.id = (tables.liveOn slug).map CommentRow.id := by
    rw [← discusses.rows, List.map_map]
    rfl
  rw [ids, liveOn, List.map_reverse, List.nodup_reverse]
  exact (List.filter_sublist.map _).nodup sane.commentIds.distinct

/-- A lookup reads a thread back. -/
theorem thread_eq (discusses : tables.Discusses threads) (slug : String) :
    tables.thread slug = (threads slug).mapM Comment.reread := by
  have rows := discusses.rows slug
  unfold liveOn at rows
  rw [thread, ← rows]
  apply mapError_mapM_joined
  intro comment there
  obtain ⟨account, joined, shows_⟩ := (discusses.authors there).commentColumns?
  exact ⟨_, joined, Comment.mapError_row shows_ (discusses.mem_row there).2.2 _ _⟩

/-- A new comment stands in front of the thread of its slug. -/
theorem append (discusses : tables.Discusses threads) (live : comment.deletedAt = none)
    (known : tables.Knows comment.author) (last : Int64) :
    Discusses { tables with comments := tables.comments ++ [comment.row], lastComment := last }
      (Function.update threads comment.slug (comment :: threads comment.slug)) where
  rows slug := by
    have live_row : comment.row.isLive := by
      rw [isLive_row, live]
      rfl
    rw [liveOn, List.filter_append, List.reverse_append]
    by_cases own : slug = comment.slug
    · subst own
      have chosen : (decide (comment.row.slug = .text comment.slug) && comment.row.isLive) = true := by
        rw [live_row, Bool.and_true]
        exact decide_eq_true rfl
      rw [Function.update_self, List.map_cons, discusses.rows, List.filter_singleton, chosen]
      rfl
    · have passed : (decide (comment.row.slug = .text slug) && comment.row.isLive) = false := by
        rw [live_row, Bool.and_true]
        exact decide_eq_false fun same => own (Cell.text.inj same).symm
      rw [Function.update_of_ne own, discusses.rows, List.filter_singleton, passed]
      rfl
  authors {slug other} there := by
    rcases mem_of_mem_update there with changed | kept
    · rcases List.mem_cons.mp changed with rfl | earlier
      · exact known
      · exact discusses.authors earlier
    · exact discusses.authors kept

end Discusses

/-- Of the live comments on a slug those are left that have not been chosen for deletion. -/
theorem liveOn_withoutComments {chosen : CommentRow → Bool} (dated : stamp ≠ .null)
    (slug : String) :
    (tables.withoutComments chosen stamp).liveOn slug =
      (tables.liveOn slug).filter fun row => !chosen row := by
  have left (row : CommentRow) :
      (decide ((row.marked chosen stamp).slug = .text slug) && (row.marked chosen stamp).isLive) =
        (!chosen row && (decide (row.slug = .text slug) && row.isLive)) := by
    rw [CommentRow.marked_slug]
    unfold CommentRow.marked
    split
    · rename_i both
      rw [Bool.and_eq_true] at both
      simp [CommentRow.isLive, dated, both.1]
    · rename_i spared
      cases picked : chosen row <;> cases live : row.isLive <;> simp [picked, live] at spared ⊢
  have unmarked : ∀ row ∈ tables.comments.filter fun row =>
      !chosen row && (decide (row.slug = .text slug) && row.isLive),
      row.marked chosen stamp = id row := by
    intro row there
    have unchosen := (List.mem_filter.mp there).2
    simp only [Bool.and_eq_true, Bool.not_eq_true'] at unchosen
    exact if_neg (by simp [unchosen.1])
  have both : (fun row : CommentRow => decide (row.slug = .text slug) && row.isLive) ∘
      CommentRow.marked chosen stamp =
        fun row => !chosen row && (decide (row.slug = .text slug) && row.isLive) := funext left
  rw [liveOn, liveOn, withoutComments, List.filter_map, both, List.map_congr_left unmarked,
    List.map_id, List.filter_reverse, List.filter_filter]

/-- If there is nothing to delete, nothing changes. -/
theorem withoutComments_of_none {chosen : CommentRow → Bool}
    (none_chosen : (tables.comments.countP fun row => chosen row && row.isLive) = 0) :
    tables.withoutComments chosen stamp = tables := by
  have unmarked : ∀ row ∈ tables.comments, row.marked chosen stamp = id row := by
    intro row there
    exact if_neg (List.countP_eq_zero.mp none_chosen row there)
  rw [withoutComments, List.map_congr_left unmarked, List.map_id]

/-- Deleting comments on a slug takes them out of its thread. -/
theorem Discusses.without (discusses : tables.Discusses threads) (dated : stamp ≠ .null)
    {chosen : CommentRow → Bool} {gone : Comment → Bool}
    (same : ∀ comment ∈ threads slug, chosen comment.row = gone comment)
    (only : ∀ row, chosen row → row.slug = .text slug) :
    (tables.withoutComments chosen stamp).Discusses
      (Function.update threads slug ((threads slug).filter fun comment => !gone comment)) where
  rows other := by
    rw [liveOn_withoutComments dated]
    by_cases own : other = slug
    · subst own
      have alike : ∀ comment ∈ threads other, (!gone comment) = (!chosen comment.row) :=
        fun comment there => by rw [same comment there]
      rw [Function.update_self, ← discusses.rows, List.filter_map, List.filter_congr alike]
      rfl
    · rw [Function.update_of_ne own, discusses.rows, eq_comm, List.filter_eq_self]
      intro row there
      have named := (mem_liveOn.mp there).2.1
      rw [Bool.not_eq_true', Bool.eq_false_iff]
      exact fun picked => own (Cell.text.inj (named.symm.trans (only row picked)))
  authors {other comment} there := by
    rcases mem_of_mem_update there with changed | kept
    · exact discusses.authors (List.mem_of_mem_filter changed)
    · exact discusses.authors kept

end Tables

end Gazette
