import Mathlib.Data.List.Basic
import Gazette.Proofs.Storage.Failures
import Gazette.Proofs.Storage.ReadBack

/-!
# What answers show

The articles and comments that a step answers with are read from rows of the tables that it leaves,
and these rows have not been deleted.  Whatever an operation answers, one of its steps has answered.
-/

set_option autoImplicit false

namespace Gazette

open Tables Session Database

/-- A value that has been read is read from one of the rows. -/
theorem mem_of_mapM_ok {ε α β : Type} {read : α → Except ε β} {items : List α} {values : List β}
    (done : items.mapM read = .ok values) {value : β} (there : value ∈ values) :
    ∃ item ∈ items, read item = .ok value := by
  induction items generalizing values with
  | nil =>
    rw [List.mapM_nil, pure_ok_iff] at done
    rw [← done] at there
    cases there
  | cons item items ih =>
    simp only [List.mapM_cons, bind_ok_iff, pure_ok_iff] at done
    obtain ⟨first, first_read, rest, rest_read, rfl⟩ := done
    rcases List.mem_cons.mp there with rfl | later
    · exact ⟨item, List.mem_cons_self, first_read⟩
    · obtain ⟨other, present, same⟩ := ih rest_read later
      exact ⟨other, List.mem_cons_of_mem _ present, same⟩

/-- Whether a row stores a comment, whatever its author is. -/
structure CommentRow.Stores (row : CommentRow) (comment : Comment) : Prop where
  id : comment.id = row.id
  body : row.body = .text comment.body
  slug : row.slug = .text comment.slug
  createdAt : ∃ written, row.createdAt = .text written ∧
    Instant.readStrict written = .ok comment.createdAt
  updatedAt : ∃ written, row.updatedAt = .text written ∧
    Instant.readStrict written = .ok comment.updatedAt

/-- A comment is read from its row and the row of its author. -/
theorem Row.comment_columns {row : CommentRow} {account : AccountRow} {comment : Comment}
    (read : Row.comment (row.columns account) = .ok comment) :
    row.Stores comment ∧ account.Shows comment.author := by
  simp only [Row.comment, Row.author, bind_ok_iff, Row.text_eq_ok, Row.integer_eq_ok,
    Row.instant_eq_ok, pure_ok_iff] at read
  simp only [CommentRow.columns, AccountRow.authorColumns, List.cons_append, List.nil_append,
    List.getElem?_cons_succ, List.getElem?_cons_zero, Option.some.injEq] at read
  obtain ⟨created, ⟨_, rfl, created_at⟩, updated, ⟨_, rfl, updated_at⟩, deleted, -, id,
    ⟨_, rfl, id_read⟩, body, ⟨_, rfl, body_read⟩, slug, ⟨_, rfl, slug_read⟩, author,
    ⟨author_id, ⟨_, rfl, author_read⟩, username, ⟨_, rfl, username_read⟩, bio, ⟨_, rfl, bio_read⟩,
      image, ⟨_, rfl, image_read⟩, rfl⟩,
    first, first_read, last, last_read, gone, -, rfl⟩ := read
  cases id_read
  cases author_read
  exact ⟨⟨rfl, body_read, slug_read, ⟨created, created_at, first_read⟩,
    ⟨updated, updated_at, last_read⟩⟩, ⟨rfl, username_read, bio_read, image_read⟩⟩

/-- Attaching tags to listed articles leaves their ids alone. -/
theorem ids_attachTags (links : List (Int64 × Tag)) (bare : List Article) :
    (links.foldl attachTag bare).map Article.id = bare.map Article.id := by
  induction links generalizing bare with
  | nil => rfl
  | cons link links ih =>
    rw [List.foldl_cons, ih, attachTag, List.map_map]
    apply List.map_congr_left
    intro article _
    dsimp only [Function.comp_apply]
    split <;> rfl

/-- The ids of the articles that a performed step has answered with. -/
def Performed.articles : Performed → List Int64
  | ⟨.saveArticle _, .ok article⟩ => [article.id]
  | ⟨.findArticle _, .ok article⟩ => [article.id]
  | ⟨.listArticles _, .ok listing⟩ => listing.articles.map Article.id
  | _ => []

/-- The ids of the comments that a performed step has answered with. -/
def Performed.comments : Performed → List Int64
  | ⟨.saveComment _ _, .ok comment⟩ => [comment.id]
  | ⟨.findComments _, .ok comments⟩ => comments.map Comment.id
  | _ => []

namespace Tables

/-- Whether an id is that of an article that has not been deleted. -/
def HasActive (tables : Tables) (id : Int64) : Prop :=
  ∃ row ∈ tables.articles, row.isActive ∧ row.id = id

/-- Whether an id is that of a comment that has not been deleted. -/
def HasLive (tables : Tables) (id : Int64) : Prop :=
  ∃ row ∈ tables.comments, row.isLive ∧ row.id = id

end Tables

namespace Database

variable {db after : Database} {slug : String} {tagBatch : Nat}

/-- An article that has been found has not been deleted. -/
theorem hasActive_of_findArticle {article : Article}
    (ran : (findArticle slug).run db = (.ok article, after)) :
    after.tables.HasActive article.id := by
  have same := findArticle_leaves slug db
  rw [ran] at same
  obtain rfl : after = db := same
  obtain ⟨row, found, stores⟩ := stores_of_findArticle ran
  obtain ⟨there, chosen⟩ := List.mem_filter.mp found
  simp only [Bool.and_eq_true] at chosen
  exact ⟨row, there, chosen.2, stores.id.symm⟩

/-- Articles that have been listed have not been deleted. -/
theorem hasActive_of_listArticles {criteria : ArticleCriteria} {listing : Listing}
    (distinct : (db.tables.articles.map ArticleRow.id).Nodup)
    (ran : (listArticles tagBatch criteria).run db = (.ok listing, after)) :
    ∀ id ∈ listing.articles.map Article.id, after.tables.HasActive id := by
  have untouched : Composed Eq (listArticles tagBatch criteria) :=
    composed_listArticles (fun _ => rfl) tagBatch criteria
  have left := untouched.leaves (fun _ => rfl) Eq.trans db
  rw [ran] at left
  rw [← left.done]
  obtain ⟨total, counted, total_read, paged⟩ := run_bind_eq_ok ran
  obtain ⟨ids, chosen, ids_read, listed⟩ := run_bind_eq_ok paged
  obtain ⟨-, rfl⟩ := query_eq_ok total_read
  obtain ⟨page, rfl⟩ := query_eq_ok ids_read
  split at listed
  · cases listed
    intro id never
    cases never
  · obtain ⟨bare, between, bare_read, linked⟩ := run_bind_eq_ok listed
    obtain ⟨links, last, -, linked⟩ := run_bind_eq_ok linked
    cases linked
    obtain ⟨all_read, -⟩ := query_eq_ok bare_read
    rw [ids_attachTags]
    intro id shown
    obtain ⟨article, there, rfl⟩ := List.mem_map.mp shown
    obtain ⟨columns, joined, read⟩ := mem_of_mapM_ok all_read there
    obtain ⟨row, present, columns_eq⟩ := List.mem_filterMap.mp joined
    obtain ⟨author, -, rfl⟩ := Option.map_eq_some_iff.mp columns_eq
    obtain ⟨in_table, on_page⟩ := List.mem_filter.mp (List.mem_reverse.mp present)
    -- the id on the page is that of a row that passes the filter, and no other row has it
    cases page
    have matching := List.mem_of_mem_drop (List.mem_of_mem_take (of_decide_eq_true on_page))
    obtain ⟨other, passing, same⟩ := List.mem_map.mp (List.mem_reverse.mp matching)
    obtain ⟨other_there, passes_⟩ := List.mem_filter.mp passing
    have one : other = row := List.inj_on_of_nodup_map distinct other_there in_table same
    subst one
    simp only [passes, Bool.and_eq_true] at passes_
    exact ⟨other, in_table, passes_.1.1, (Row.article_columns.mp read).1.id.symm⟩

/-- A comment that has been saved is read from its own row, which has just been added. -/
theorem hasLive_of_saveComment {new : NewComment} {comment : Comment}
    (numbered : Numbered CommentRow.id db.tables.lastComment db.tables.comments)
    (ran : (saveComment slug new).run db = (.ok comment, after)) :
    after.tables.HasLive comment.id := by
  obtain ⟨active, counted, active_read, rest⟩ := run_bind_eq_ok ran
  obtain ⟨-, rfl⟩ := query_eq_ok active_read
  split at rest
  · cases rest
  · obtain ⟨stamp, ready, read, rest⟩ := run_bind_eq_ok rest
    cases read
    obtain ⟨id, written, saved, last⟩ := run_bind_eq_ok rest
    obtain ⟨next, -, grown⟩ := insertComment_eq_ok (statement_eq_ok saved)
    obtain ⟨first, rfl⟩ := query_eq_ok last
    rw [grown] at first
    dsimp only at first
    rw [filter_append_new fun row there => decide_eq_false (numbered.ne_next next there)] at first
    · rw [List.filterMap_cons] at first
      split at first
      · cases first
      · rename_i columns joined
        obtain ⟨author, -, rfl⟩ := Option.map_eq_some_iff.mp joined
        refine ⟨new.row slug id (.text (counted.clock counted.readings).stored), ?_, rfl,
          (Row.comment_columns first).1.id.symm⟩
        rw [grown]
        exact List.mem_append_right _ List.mem_cons_self
    · exact decide_eq_true rfl

/-- Comments that have been found have not been deleted. -/
theorem hasLive_of_findComments {comments : List Comment}
    (ran : (findComments slug).run db = (.ok comments, after)) :
    ∀ id ∈ comments.map Comment.id, after.tables.HasLive id := by
  obtain ⟨all_read, rfl⟩ := query_eq_ok ran
  intro id shown
  obtain ⟨comment, there, rfl⟩ := List.mem_map.mp shown
  obtain ⟨columns, joined, read⟩ := mem_of_mapM_ok all_read there
  obtain ⟨row, present, columns_eq⟩ := List.mem_filterMap.mp joined
  obtain ⟨author, -, rfl⟩ := Option.map_eq_some_iff.mp columns_eq
  obtain ⟨in_table, chosen⟩ := List.mem_filter.mp (List.mem_reverse.mp present)
  simp only [Bool.and_eq_true] at chosen
  exact ⟨row, in_table, chosen.2, (Row.comment_columns read).1.id.symm⟩

end Database

namespace Step

variable {tagBatch : Nat} {db after : Database} {step : Step}
  {result : Except StorageError step.Answer}

/-- The articles that a step answers with have not been deleted. -/
theorem hasActive_of_perform (sane : db.tables.Integrity)
    (ran : (step.perform tagBatch).run db = (result, after)) :
    ∀ id ∈ Performed.articles ⟨step, result⟩, after.tables.HasActive id := by
  have one {shown id : Int64} (there : id ∈ [shown]) (active : after.tables.HasActive shown) :
      after.tables.HasActive id :=
    List.mem_singleton.mp there ▸ active
  intro id there
  cases result with
  | error error => cases step <;> cases there
  | ok answer =>
    cases step with
    | saveArticle article =>
      obtain ⟨between, found⟩ := find_of_insertArticle ran
      exact one there (hasActive_of_findArticle found)
    | findArticle slug => exact one there (hasActive_of_findArticle ran)
    | listArticles criteria =>
      exact hasActive_of_listArticles sane.articleIds.distinct ran id there
    | _ => cases there

/-- The comments that a step answers with have not been deleted. -/
theorem hasLive_of_perform (sane : db.tables.Integrity)
    (ran : (step.perform tagBatch).run db = (result, after)) :
    ∀ id ∈ Performed.comments ⟨step, result⟩, after.tables.HasLive id := by
  intro id there
  cases result with
  | error error => cases step <;> cases there
  | ok answer =>
    cases step with
    | saveComment slug comment =>
      obtain rfl := List.mem_singleton.mp there
      exact hasLive_of_saveComment sane.commentIds ran
    | findComments slug => exact hasLive_of_findComments ran id there
    | _ => cases there

end Step

section Operations

variable {clock : Nat → Instant} {fits : Tables → Prop} {db after : Database} {tagBatch : Nat}

/-- What a unit of work reports is what its body has reported. -/
theorem Database.unitOfWork_report {α ρ : Type} (unlocked : db.locked = false)
    (body : StateM Database (Except StorageError α × ρ)) :
    (unitOfWork body db).1.2 = some (body { db with beforeWork := some db.tables }).1.2 := by
  rcases inside : body { db with beforeWork := some db.tables } with ⟨⟨result, report⟩, last⟩
  cases opened : last.beforeWork with
  | none =>
    obtain ⟨error, ended⟩ := unitOfWork_ended unlocked inside opened
    rw [ended]
  | some start =>
    cases result with
    | ok value => rw [unitOfWork_commit unlocked inside opened]
    | error cause => rw [unitOfWork_rollback unlocked inside opened]

/-- Whether a step has been performed as told, between two databases with a property that lasts. -/
def Performed.Between (performed : Performed) (tagBatch : Nat) (clock : Nat → Instant)
    (fits : Tables → Prop) : Prop :=
  ∃ before after : Database, before.Within clock fits ∧ after.Within clock fits ∧
    (performed.step.perform tagBatch).run before = (performed.result, after)

section Lasting

variable (lasting : Lasting ⟨ShownBy clock, True⟩ fits)

include lasting

/-- A step that has been run has been performed between two databases with the property. -/
theorem Performed.between_of_run (step : Step) {result : Except StorageError step.Answer}
    (within : db.Within clock fits) (ran : (step.perform tagBatch).run db = (result, after)) :
    Performed.Between ⟨step, result⟩ tagBatch clock fits := by
  have kept := within.run (lasting tagBatch step)
  rw [ran] at kept
  exact ⟨db, after, within, kept, ran⟩

/-- The stages of a unit of work are steps that have been performed as told, and what lasts, lasts
from one to the next. -/
theorem Work.within_stage (work : Work) (within : db.Within clock fits) {stage : Stage}
    (there : stage ∈ work.stages tagBatch db) :
    stage.before.Within clock fits ∧ stage.after.Within clock fits ∧
      (stage.step.perform tagBatch).run stage.before = (stage.result, stage.after) := by
  induction work generalizing db with
  | finish outcome => cases there
  | perform step next ih =>
    rw [stages_perform, List.mem_cons] at there
    rcases there with rfl | later
    · exact ⟨within, within.run (lasting tagBatch step), rfl⟩
    · exact ih _ (within.run (lasting tagBatch step)) later

end Lasting

namespace ArticleOperation

/-- The steps that an operation amounts to, with what they have answered. -/
def record : (operation : ArticleOperation) → operation.Answer → List Performed
  | carryOut _, answer => answer.2.getD []
  | save article, result => [⟨.saveArticle article, result⟩]
  | saveFresh article, result => [⟨.saveArticle article, result⟩]
  | find slug, result => [⟨.findArticle slug, result⟩]
  | findFresh slug, result => [⟨.findArticle slug, result⟩]
  | list criteria, result => [⟨.listArticles criteria, result⟩]
  | delete authorId slug, result => [⟨.deleteArticle authorId slug, result⟩]
  | saveComment slug comment, result => [⟨.saveComment slug comment, result⟩]
  | findComments slug, result => [⟨.findComments slug, result⟩]
  | deleteComment authorId slug id, result => [⟨.deleteComment authorId slug id, result⟩]
  | deleteComments authorId slug, result => [⟨.deleteComments authorId slug, result⟩]
  | deleteWithComments authorId slug, result =>
    [⟨.deleteArticle authorId slug, result.map fun _ => ()⟩, ⟨.deleteComments authorId slug, result⟩]

/-- What an operation answers when it succeeds, its steps have answered. -/
theorem between_of_record (operation : ArticleOperation)
    (lasting : Lasting ⟨ShownBy clock, True⟩ fits) (within : db.Within clock fits)
    {performed : Performed} (there : performed ∈ operation.record (operation.effect tagBatch db).1)
    (succeeded : performed.succeeded) : performed.Between tagBatch clock fits := by
  have alone (step : Step) : Performed.Between ⟨step, ((step.perform tagBatch).run db).1⟩ tagBatch
      clock fits := Performed.between_of_run lasting step within rfl
  have whole (step : Step) (there : performed =
      ⟨step, ((transaction (step.perform tagBatch)).run db).1⟩) :
      performed.Between tagBatch clock fits := by
    subst there
    rcases ran : (transaction (step.perform tagBatch)).run db with ⟨error | value, last⟩
    · rw [ran] at succeeded
      cases succeeded
    · obtain ⟨inner, inside, -⟩ := transaction_eq_ok ran
      exact Performed.between_of_run lasting step within.opened inside
  cases operation with
  | carryOut work =>
    have reported : (Database.carryOut tagBatch work db).1.2 =
        some ((work.stages tagBatch { db with beforeWork := some db.tables }).map
          Stage.toPerformed) := by
      rw [← work.record_eq_stages]
      exact unitOfWork_report within.locked _
    rw [record, effect, reported] at there
    obtain ⟨stage, present, rfl⟩ := List.mem_map.mp there
    exact ⟨stage.before, stage.after, work.within_stage lasting within.opened present⟩
  | save article => exact whole (.saveArticle article) (List.mem_singleton.mp there)
  | saveFresh article => exact whole (.saveArticle article) (List.mem_singleton.mp there)
  | find slug => exact List.mem_singleton.mp there ▸ alone (.findArticle slug)
  | findFresh slug => exact List.mem_singleton.mp there ▸ alone (.findArticle slug)
  | list criteria => exact List.mem_singleton.mp there ▸ alone (.listArticles criteria)
  | delete authorId slug =>
    exact whole (.deleteArticle authorId slug) (List.mem_singleton.mp there)
  | saveComment slug comment =>
    exact List.mem_singleton.mp there ▸ alone (.saveComment slug comment)
  | findComments slug => exact List.mem_singleton.mp there ▸ alone (.findComments slug)
  | deleteComment authorId slug id =>
    exact List.mem_singleton.mp there ▸ alone (.deleteComment authorId slug id)
  | deleteComments authorId slug =>
    exact List.mem_singleton.mp there ▸ alone (.deleteComments authorId slug)
  | deleteWithComments authorId slug =>
    rcases ran : (removeWithComments authorId slug).run db with ⟨error | count, last⟩
    · simp only [record, effect, ran, List.mem_cons, List.not_mem_nil, or_false] at there
      rcases there with rfl | rfl <;> cases succeeded
    · obtain ⟨inner, inside, -⟩ := transaction_eq_ok ran
      obtain ⟨_, between, removed, counted⟩ := run_bind_eq_ok inside
      have opened := within.opened
      have kept := opened.run (lasting tagBatch (.deleteArticle authorId slug))
      simp only [Step.perform, removed] at kept
      simp only [record, effect, ran, List.mem_cons, List.not_mem_nil, or_false] at there
      rcases there with rfl | rfl
      · exact Performed.between_of_run lasting (.deleteArticle authorId slug) opened removed
      · exact Performed.between_of_run lasting (.deleteComments authorId slug) kept counted

end ArticleOperation

end Operations

end Gazette
