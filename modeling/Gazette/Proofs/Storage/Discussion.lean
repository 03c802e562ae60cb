import Mathlib.Data.List.Basic
import Gazette.Proofs.Storage.Threads

/-!
# Commenting and deleting comments

What the operations on comments answer and what they make of the threads, exactly and for every
database that can be reached.  A comment is refused if its slug has no active article, or if all ids of
comments have been given out, or if its author is unknown, and it is in this order that the reasons are
looked at.
-/

set_option autoImplicit false

namespace Gazette

open Tables Session Database

namespace Tables

variable {tables : Tables} {slug : String} {new : NewComment} {stamp : Cell}

/-- Why a comment on a slug is refused, if it is. -/
def commentRefusal? (tables : Tables) (slug : String) (new : NewComment) : Option StorageError :=
  if tables.activeWithSlug slug = [] then some (.notFound articleEntity slug)
  else if tables.lastComment = Int64.maxValue then some .outOfIds
  else if tables.account? (.integer new.authorId) = none then
    some (.invalidData ("Foreign key constraint violation for Comment " ++ slug))
  else none

/-- The tables with a comment more, which has the next id. -/
def withComment (tables : Tables) (slug : String) (new : NewComment) (stamp : Cell) : Tables :=
  { tables with
    comments := tables.comments ++ [new.row slug (tables.lastComment + 1) stamp]
    lastComment := tables.lastComment + 1 }

/-- A comment is refused for lack of ids or else for its author, and is added otherwise. -/
theorem insertComment_eq (tables : Tables) (slug : String) (new : NewComment) (stamp : Cell) :
    insertComment [] slug new stamp tables =
      if tables.lastComment = Int64.maxValue then .error .full
      else if tables.account? (.integer new.authorId) = none then .error .dangling
      else .ok (tables.lastComment + 1, tables.withComment slug new stamp) := by
  unfold insertComment nextId
  rw [Trigger.fire_nil]
  by_cases full : tables.lastComment = Int64.maxValue
  · rw [if_pos full, if_pos full]
    rfl
  · rw [if_neg full, if_neg full]
    cases tables.account? (.integer new.authorId) <;> rfl

/-- A comment that is refused leaves no trace. -/
theorem insertComment_of_refusal {error : StorageError} (active : tables.activeWithSlug slug ≠ [])
    (refused : tables.commentRefusal? slug new = some error) :
    ∃ refusal, insertComment [] slug new stamp tables = .error refusal ∧
      refusal.error.about commentEntity slug = error := by
  rw [insertComment_eq]
  rw [commentRefusal?, if_neg active] at refused
  by_cases full : tables.lastComment = Int64.maxValue
  · rw [if_pos full, Option.some.injEq] at refused
    exact ⟨.full, if_pos full, refused⟩
  · rw [if_neg full] at refused
    by_cases unknown : tables.account? (.integer new.authorId) = none
    · rw [if_pos unknown, Option.some.injEq] at refused
      exact ⟨.dangling, by rw [if_neg full, if_pos unknown], refused⟩
    · rw [if_neg unknown] at refused
      cases refused

/-- What is not refused is added. -/
theorem insertComment_of_accepted (accepted : tables.commentRefusal? slug new = none)
    (stamp : Cell) :
    tables.activeWithSlug slug ≠ [] ∧
      insertComment [] slug new stamp tables =
        .ok (tables.lastComment + 1, tables.withComment slug new stamp) := by
  unfold commentRefusal? at accepted
  split at accepted
  · cases accepted
  · rename_i active
    split at accepted
    · cases accepted
    · rename_i room
      split at accepted
      · cases accepted
      · rename_i known
        exact ⟨active, by rw [insertComment_eq, if_neg room, if_neg known]⟩

end Tables

/-- Whether a comment is what has been made of a new one: it has the next id, and its author is the
account that has been named. -/
structure NewComment.Becomes (new : NewComment) (slug : String) (db : Database) (comment : Comment) :
    Prop where
  id : nextId db.tables.lastComment = .ok comment.id
  body : comment.body = new.body
  slug : comment.slug = slug
  authorId : comment.author.id = new.authorId
  author : db.tables.Knows comment.author
  createdAt : comment.createdAt = db.clock db.readings
  updatedAt : comment.updatedAt = db.clock db.readings
  deletedAt : comment.deletedAt = none

/-- A comment is read back as it has been made if the clock shows no sign before its year. -/
theorem NewComment.Becomes.reread_near {new : NewComment} {slug : String} {db : Database}
    {comment : Comment} (becomes : new.Becomes slug db comment)
    (near : ∀ reading, (db.clock reading).IsNear) : comment.reread = .ok comment :=
  if_pos ⟨becomes.createdAt ▸ near _, becomes.updatedAt ▸ near _⟩

/-- Whether a database has a thread for every slug, and shows it to whoever looks for comments. -/
structure Database.Discusses (db : Database) (threads : String → List Comment) : Prop extends
    db.tables.Discusses threads where
  dated {slug : String} {comment : Comment} : comment ∈ threads slug →
    ShownBy db.clock comment.createdAt ∧ ShownBy db.clock comment.updatedAt
  found (tagBatch : Nat) (slug : String) :
    ((articleRepository tagBatch).findComments slug).run.outcome db =
      (.ok ((threads slug).mapM Comment.reread), db)

namespace Database

variable {db : Database} {slug : String} {new : NewComment} {threads : String → List Comment}

/-- A healthy database shows the threads of its tables. -/
theorem Discusses.of_tables (healthy : db.Healthy) (discusses : db.tables.Discusses threads)
    (dated : ∀ {slug : String} {comment : Comment}, comment ∈ threads slug →
      ShownBy db.clock comment.createdAt ∧ ShownBy db.clock comment.updatedAt) :
    db.Discusses threads where
  toDiscusses := discusses
  dated := dated
  found tagBatch slug := by
    rw [← discusses.thread_eq]
    exact outcome_of_run (run_findComments healthy slug)

/-- Reading the clock leaves the threads alone. -/
theorem Discusses.read (discusses : db.Discusses threads) (healthy : db.Healthy) :
    Discusses { db with readings := db.readings + 1 } threads :=
  .of_tables healthy.read discusses.toDiscusses discusses.dated

/-- If the clock shows no sign before a year, all comments are found as they are. -/
theorem Discusses.found_near (discusses : db.Discusses threads)
    (near : ∀ reading, (db.clock reading).IsNear) (tagBatch : Nat) (slug : String) :
    ((articleRepository tagBatch).findComments slug).run.outcome db = (.ok (.ok (threads slug)), db) := by
  rw [discusses.found, mapM_of_ok]
  intro comment there
  obtain ⟨⟨created, created_at⟩, updated, updated_at⟩ := discusses.dated there
  exact if_pos ⟨created_at ▸ near created, updated_at ▸ near updated⟩

/-- A comment on a slug without an active article is refused without a look at the clock. -/
theorem run_saveComment_of_free (healthy : db.Healthy) (free : db.tables.activeWithSlug slug = []) :
    (saveComment slug new).run db = (.error (.notFound articleEntity slug), db) := by
  have none_active : (db.tables.activeWithSlug slug).length = 0 := by rw [free]; rfl
  unfold saveComment
  rw [run_bind, run_query healthy]
  simp only [Except.mapError, none_active]
  rfl

/-- A comment on the slug of an active article is read back as soon as it has been added. -/
theorem run_saveComment_of_active (healthy : db.Healthy)
    (active : db.tables.activeWithSlug slug ≠ []) :
    (saveComment slug new).run db =
      match insertComment [] slug new (.text (db.clock db.readings).stored) db.tables with
      | .ok (id, tables) =>
        ((firstRow Row.comment ((tables.comments.filter fun row => row.id = id).filterMap
            tables.commentColumns?)).mapError (EngineError.about commentEntity (toString id.toInt)),
          { db with tables, readings := db.readings + 1 })
      | .error refusal =>
        (.error (refusal.error.about commentEntity slug),
          if refusal.endsWork then undone { db with readings := db.readings + 1 }
          else { db with readings := db.readings + 1 }) := by
  have some_active : (db.tables.activeWithSlug slug).length ≠ 0 :=
    mt List.length_eq_zero_iff.mp active
  unfold saveComment
  rw [run_bind, run_query healthy]
  simp only [Except.mapError, if_neg some_active]
  rw [run_bind, run_now]
  dsimp only
  rw [run_bind, run_statement healthy.read]
  cases insertComment [] slug new (.text (db.clock db.readings).stored) db.tables with
  | error refusal => rfl
  | ok added =>
    obtain ⟨id, tables⟩ := added
    have still : Healthy { db with tables, readings := db.readings + 1 } :=
      ⟨healthy.triggers, healthy.missing, healthy.locked⟩
    exact run_query still _ _ _ _

/-- A comment that is refused leaves the tables alone, whatever it is refused for. -/
theorem run_saveComment_of_refusal {error : StorageError} (healthy : db.Healthy)
    (closed : db.beforeWork = none) (refused : db.tables.commentRefusal? slug new = some error) :
    ∃ readings, (saveComment slug new).run db = (.error error, { db with readings }) := by
  have nothing_undone : undone { db with readings := db.readings + 1 } =
      { db with readings := db.readings + 1 } := undone_of_closed closed
  by_cases free : db.tables.activeWithSlug slug = []
  · rw [commentRefusal?, if_pos free, Option.some.injEq] at refused
    exact ⟨db.readings, refused ▸ run_saveComment_of_free healthy free⟩
  · obtain ⟨refusal, declined, worded⟩ := insertComment_of_refusal free refused
    refine ⟨db.readings + 1, ?_⟩
    rw [run_saveComment_of_active healthy free, declined]
    dsimp only
    rw [nothing_undone, ite_self, worded]

/-- A comment that is not refused is added, and read back from its row. -/
theorem run_saveComment_of_accepted {shown : Instant → Prop} (healthy : db.Healthy)
    (orderly : db.tables.Orderly shown) (accepted : db.tables.commentRefusal? slug new = none) :
    ∃ comment, new.Becomes slug db comment ∧ (saveComment slug new).run db =
      (comment.reread, { db with
        tables := { db.tables with
          comments := db.tables.comments ++ [comment.row], lastComment := comment.id }
        readings := db.readings + 1 }) := by
  obtain ⟨active, added⟩ :=
    insertComment_of_accepted accepted (.text (db.clock db.readings).stored)
  obtain ⟨next, known, -⟩ := insertComment_eq_ok added
  obtain ⟨author, own, knows⟩ := orderly.exists_author (refers_of_account? known)
  generalize made : (⟨db.tables.lastComment + 1, new.body, slug, author, db.clock db.readings,
    db.clock db.readings, none⟩ : Comment) = comment
  have becomes : new.Becomes slug db comment := by
    subst made
    exact ⟨next, rfl, rfl, (Cell.integer.inj own).symm, knows, rfl, rfl, rfl⟩
  have row : new.row slug (db.tables.lastComment + 1) (.text (db.clock db.readings).stored) =
      comment.row := by
    rw [← made, NewComment.row, own]
    rfl
  have same_id : db.tables.lastComment + 1 = comment.id := by rw [← made]
  refine ⟨comment, becomes, ?_⟩
  rw [run_saveComment_of_active healthy active, added, withComment, row, same_id]
  dsimp only
  -- no other comment has the next id
  rw [filter_append_new fun row there =>
    decide_eq_false (orderly.commentIds.ne_next becomes.id there)]
  · obtain ⟨account, joined, shows_⟩ := becomes.author.commentColumns?
    have still_joined : Tables.commentColumns? { db.tables with
        comments := db.tables.comments ++ [comment.row], lastComment := comment.id } comment.row =
          some (comment.row.columns account) := joined
    rw [List.filterMap_cons, still_joined]
    dsimp only [firstRow]
    rw [Comment.mapError_row shows_ becomes.deletedAt]
  · exact decide_eq_true rfl

/-- The comment of a unit of work is added like any other. -/
theorem run_saveComment_added {new : NewComment} (healthy : db.Healthy)
    (accepted : db.tables.commentRefusal? slug new = none) :
    ∃ answer, (saveComment slug new).run db = (answer, { db with
      tables := db.tables.withComment slug new (.text (db.clock db.readings).stored)
      readings := db.readings + 1 }) := by
  obtain ⟨active, added⟩ :=
    insertComment_of_accepted accepted (.text (db.clock db.readings).stored)
  have ran : (saveComment slug new).run db = _ := run_saveComment_of_active healthy active
  rw [added] at ran
  exact ⟨_, ran⟩

/-- Marking comments on a healthy database as deleted, with the number of those that are marked. -/
theorem run_markComments (healthy : db.Healthy) (chosen : CommentRow → Bool) (stamp : Cell)
    (id : String) :
    (Engine.about (statement [.itself .comments] fun triggers =>
        tombstoneComments triggers chosen stamp) commentEntity id).run db =
      (.ok (db.tables.comments.countP fun row => chosen row && row.isLive),
        { db with tables := db.tables.withoutComments chosen stamp }) := by
  rw [run_statement healthy]
  cases marked : tombstoneComments [] chosen stamp db.tables with
  | error refusal => exact absurd marked tombstoneComments_ne_error
  | ok answer =>
    obtain ⟨count, after⟩ := answer
    obtain ⟨rfl, -, rfl⟩ := tombstoneComments_eq_ok marked
    rfl

/-- As many comments are marked as there are in the thread that are meant. -/
theorem Discusses.countP_marked (discusses : db.Discusses threads) {chosen : CommentRow → Bool}
    {gone : Comment → Bool} (same : ∀ comment ∈ threads slug, chosen comment.row = gone comment)
    (only : ∀ row, chosen row → row.slug = .text slug) :
    (db.tables.comments.countP fun row => chosen row && row.isLive) = (threads slug).countP gone := by
  have both : (fun row : CommentRow => chosen row && row.isLive) =
      fun row => chosen row && (decide (row.slug = .text slug) && row.isLive) := by
    funext row
    cases picked : chosen row with
    | false => rfl
    | true => simp [only row picked]
  have alike : ∀ comment ∈ threads slug, gone comment ↔ (chosen ∘ Comment.row) comment :=
    fun comment there => by rw [Function.comp_apply, same comment there]
  have rows := discusses.rows slug
  calc (db.tables.comments.countP fun row => chosen row && row.isLive)
      = (db.tables.liveOn slug).countP chosen := by
        rw [both, liveOn, List.countP_reverse, List.countP_filter]
    _ = (threads slug).countP (chosen ∘ Comment.row) := by rw [← rows, List.countP_map]
    _ = (threads slug).countP gone := (List.countP_congr alike).symm

/-- Of comments with different ids, all are left but the one with an id. -/
theorem filter_append_cons {before rest : List Comment} {comment : Comment}
    {gone : Comment → Bool} (distinct : ((before ++ comment :: rest).map Comment.id).Nodup)
    (only : ∀ other, gone other → other.id = comment.id) (own : gone comment) :
    (before ++ comment :: rest).filter (fun other => !gone other) = before ++ rest := by
  rw [List.map_append, List.map_cons, List.nodup_middle, List.nodup_cons, ← List.map_append] at distinct
  have others : ∀ other ∈ before ++ rest, (!gone other) = true := by
    intro other there
    rw [Bool.not_eq_true', Bool.eq_false_iff]
    intro meant
    exact distinct.1 (only other meant ▸ List.mem_map_of_mem there)
  rw [List.filter_append, List.filter_cons_of_neg (by simp [own]), ← List.filter_append,
    List.filter_eq_self.mpr others]

end Database

/-- How saving a comment ends: it is refused and leaves the tables alone, or it stands in front of the
thread of its slug and is answered with as it is read back. -/
def NewComment.Joins (new : NewComment) (slug : String) (threads : String → List Comment)
    (db : Database) (answer : Except StorageError Comment) (after : Database) : Prop :=
  match db.tables.commentRefusal? slug new with
  | some error => answer = .error error ∧ after.tables = db.tables ∧ after.Discusses threads
  | none => ∃ comment, new.Becomes slug db comment ∧ answer = comment.reread ∧
      after.Discusses (Function.update threads slug (comment :: threads slug))

/-- How deleting an author's comment with an id ends: the comment is taken out of the thread of the
slug, or there is none and the tables are left alone. -/
inductive CommentLeaves (authorId : Int64) (slug : String) (id : Int64)
    (threads : String → List Comment) (db : Database) :
    Except StorageError Unit → Database → Prop where
  | deleted {newer older : List Comment} {comment : Comment} {after : Database} :
      threads slug = newer ++ comment :: older → comment.id = id → comment.author.id = authorId →
      after.Discusses (Function.update threads slug (newer ++ older)) →
      CommentLeaves authorId slug id threads db (.ok ()) after
  | missing {after : Database} :
      (∀ comment ∈ threads slug, ¬ (comment.id = id ∧ comment.author.id = authorId)) →
      after.tables = db.tables → after.Discusses threads →
      CommentLeaves authorId slug id threads db
        (.error (.notFound commentEntity (toString id.toInt))) after

namespace Database

variable {db : Database} {slug : String} {threads : String → List Comment}

section Operations

variable (reachable : db.Reachable) (discusses : db.Discusses threads)

include reachable discusses

/-- Saving a comment on a database that can be reached. -/
theorem joins_saveComment (slug : String) (new : NewComment) :
    ∃ answer after, (saveComment slug new).run db = (answer, after) ∧
      new.Joins slug threads db answer after := by
  have healthy := reachable.orderly.toHealthy
  unfold NewComment.Joins
  cases refused : db.tables.commentRefusal? slug new with
  | some error =>
    obtain ⟨readings, ran⟩ := run_saveComment_of_refusal healthy reachable.ready.closed refused
    have still : Healthy { db with readings } := ⟨healthy.triggers, healthy.missing, healthy.locked⟩
    exact ⟨_, _, ran, rfl, rfl, .of_tables still discusses.toDiscusses discusses.dated⟩
  | none =>
    obtain ⟨comment, becomes, ran⟩ :=
      run_saveComment_of_accepted healthy reachable.orderly.tables refused
    refine ⟨_, _, ran, comment, becomes, rfl, ?_⟩
    have joined := discusses.toDiscusses.append becomes.deletedAt becomes.author comment.id
    rw [becomes.slug] at joined
    refine .of_tables ⟨healthy.triggers, healthy.missing, healthy.locked⟩ joined ?_
    intro other_slug other there
    rcases mem_of_mem_update there with changed | kept
    · rcases List.mem_cons.mp changed with rfl | earlier
      · exact ⟨⟨_, becomes.createdAt⟩, ⟨_, becomes.updatedAt⟩⟩
      · exact discusses.dated earlier
    · exact discusses.dated kept

/-- Marking comments on a slug takes them out of its thread. -/
theorem discusses_marked {chosen : CommentRow → Bool} {gone : Comment → Bool} (stamp : Instant)
    (same : ∀ comment ∈ threads slug, chosen comment.row = gone comment)
    (only : ∀ row, chosen row → row.slug = .text slug) :
    Discusses { db with
        tables := db.tables.withoutComments chosen (.text stamp.stored)
        readings := db.readings + 1 }
      (Function.update threads slug ((threads slug).filter fun comment => !gone comment)) := by
  have healthy := reachable.orderly.toHealthy
  have dated : Cell.text stamp.stored ≠ .null := nofun
  have taken := discusses.toDiscusses.without dated same only
  refine .of_tables ⟨healthy.triggers, healthy.missing, healthy.locked⟩ taken ?_
  intro other_slug other there
  rcases mem_of_mem_update there with changed | kept
  · exact discusses.dated (List.mem_of_mem_filter changed)
  · exact discusses.dated kept

/-- Deleting an author's comment with an id from a database that can be reached. -/
theorem leaves_removeComment (authorId : Int64) (slug : String) (id : Int64) :
    ∃ answer after, (removeComment authorId slug id).run db = (answer, after) ∧
      CommentLeaves authorId slug id threads db answer after := by
  have healthy := reachable.orderly.toHealthy
  have sane := reachable.orderly.tables.toIntegrity
  generalize chosen_eq : (fun row : CommentRow => decide (row.id = id) &&
    decide (row.slug = .text slug) && decide (row.authorId = .integer authorId)) = chosen
  generalize gone_eq : (fun comment : Comment => decide (comment.id = id) &&
    decide (comment.author.id = authorId)) = gone
  have only : ∀ row, chosen row → row.slug = .text slug := by
    subst chosen_eq
    intro row picked
    simp only [Bool.and_eq_true, decide_eq_true_eq] at picked
    exact picked.1.2
  have same : ∀ comment ∈ threads slug, chosen comment.row = gone comment := by
    subst chosen_eq gone_eq
    intro comment there
    have own := (discusses.mem_row there).2.1
    simp [Comment.row, own]
  have counted := discusses.countP_marked same only
  have marked := discusses_marked reachable discusses (db.clock db.readings) same only
  have ran : (removeComment authorId slug id).run db =
      (if (threads slug).countP gone = 0 then .error (.notFound commentEntity (toString id.toInt))
        else .ok (), { db with
          tables := db.tables.withoutComments chosen (.text (db.clock db.readings).stored)
          readings := db.readings + 1 }) := by
    unfold removeComment
    rw [run_bind, run_now, chosen_eq]
    dsimp only
    rw [run_bind, run_markComments healthy.read, counted]
    dsimp only
    split <;> rfl
  by_cases none_gone : (threads slug).countP gone = 0
  · have kept := List.countP_eq_zero.mp none_gone
    rw [if_pos none_gone, withoutComments_of_none (counted.trans none_gone)] at ran
    refine ⟨_, _, ran, .missing ?_ rfl (discusses.read healthy)⟩
    rintro comment there ⟨own_id, own⟩
    exact kept comment there (by simp [← gone_eq, own_id, own])
  · rw [if_neg none_gone] at ran
    obtain ⟨comment, there, meant⟩ := List.countP_pos_iff.mp (Nat.pos_of_ne_zero none_gone)
    obtain ⟨newer, older, parts⟩ := List.append_of_mem there
    have own := meant
    simp only [← gone_eq, Bool.and_eq_true, decide_eq_true_eq] at own
    refine ⟨_, _, ran, .deleted parts own.1 own.2 ?_⟩
    -- no other comment has the id
    have distinct := discusses.nodup_ids sane slug
    rw [parts] at distinct
    have only_one : ∀ other, gone other → other.id = comment.id := by
      intro other picked
      simp only [← gone_eq, Bool.and_eq_true, decide_eq_true_eq] at picked
      exact picked.1.trans own.1.symm
    rw [parts, filter_append_cons distinct only_one meant] at marked
    exact marked

/-- Deleting all comments of an author on a slug from a database that can be reached. -/
theorem run_removeComments_eq (authorId : Int64) (slug : String) :
    ∃ after, (removeComments authorId slug).run db =
        (.ok ((threads slug).countP fun comment => comment.author.id = authorId), after) ∧
      after.Discusses (Function.update threads slug
        ((threads slug).filter fun comment => comment.author.id ≠ authorId)) := by
  have healthy := reachable.orderly.toHealthy
  generalize chosen_eq : (fun row : CommentRow => decide (row.slug = .text slug) &&
    decide (row.authorId = .integer authorId)) = chosen
  have only : ∀ row, chosen row → row.slug = .text slug := by
    subst chosen_eq
    intro row picked
    simp only [Bool.and_eq_true, decide_eq_true_eq] at picked
    exact picked.1
  have same : ∀ comment ∈ threads slug, chosen comment.row = decide (comment.author.id = authorId) := by
    subst chosen_eq
    intro comment there
    have own := (discusses.mem_row there).2.1
    simp [Comment.row, own]
  have counted := discusses.countP_marked same only
  have marked := discusses_marked reachable discusses (db.clock db.readings) same only
  simp only [← decide_not] at marked
  refine ⟨_, ?_, marked⟩
  unfold removeComments
  rw [run_bind, run_now, chosen_eq]
  dsimp only
  rw [run_markComments healthy.read, counted]

end Operations

end Database

namespace Sample

/-- Whether anybody who comments on the article of the sample is only stopped by a lack of ids. -/
structure Open (last : Int) (db : Database) : Prop extends db.Healthy where
  active : db.tables.activeWithSlug "hello-world" ≠ []
  known : db.tables.account? (.integer 2) ≠ none
  last : db.tables.lastComment.toInt = last

/-- Each comment uses up an id. -/
theorem Open.perform {db : Database} {last : Int} (begun : Open last db)
    (room : last < Int64.maxValue.toInt) :
    ∃ answer after,
      ((Step.saveComment "hello-world" ⟨"c", 2⟩).perform 100).run db = (answer, after) ∧
        after.beforeWork = db.beforeWork ∧ Open (last + 1) after := by
  have more : db.tables.lastComment ≠ Int64.maxValue := by
    intro all
    have same := congrArg Int64.toInt all
    rw [begun.last] at same
    omega
  have accepted : db.tables.commentRefusal? "hello-world" ⟨"c", 2⟩ = none := by
    rw [commentRefusal?, if_neg begun.active, if_neg more, if_neg begun.known]
  obtain ⟨answer, saved⟩ := run_saveComment_added begun.toHealthy accepted
  have next : nextId db.tables.lastComment = .ok (db.tables.lastComment + 1) := if_neg more
  exact ⟨answer, _, saved, rfl, ⟨begun.triggers, begun.missing, begun.locked⟩, begun.active,
    begun.known, (toInt_nextId next).trans (congrArg (· + 1) begun.last)⟩

/-- A unit of work that is opened or committed stops nobody. -/
theorem Open.withWork {db : Database} {last : Int} (work : Option Tables) (begun : Open last db) :
    Open last { db with beforeWork := work } :=
  ⟨⟨begun.triggers, begun.missing, begun.locked⟩, begun.active, begun.known, begun.last⟩

/-- A database on which somebody has commented on an article in one unit of work so many times. -/
def crowded (count : Nat) : Database :=
  let work : Work := .repeatedly (.saveComment "hello-world" ⟨"c", 2⟩) count
  (((articleRepository 100).carryOut work).run.outcome commented).2

/-- The crowded database is built by operations. -/
theorem reachable_crowded (count : Nat) : (crowded count).Reachable :=
  reachable_commented.article 100
    (.carryOut (.repeatedly (.saveComment "hello-world" ⟨"c", 2⟩) count))

/-- The sample has had one comment before. -/
theorem open_commented : Open 1 commented where
  toHealthy := reachable_commented.orderly.toHealthy
  active := by decide +kernel
  known := by decide +kernel
  last := by decide +kernel

/-- As long as there are ids, every one of the comments has used one up. -/
theorem open_crowded (count : Nat) (room : 1 + (count : Int) ≤ Int64.maxValue.toInt) :
    Open (1 + count) (crowded count) :=
  carryOut_repeatedly Open.perform Open.withWork count open_commented.locked open_commented room

end Sample

namespace Database

variable {db : Database}

/-- The comments on each slug form a list, its thread, which is what a lookup reads back, and nothing
but the operations on the slug changes it.  Saving a comment either puts it in front of the thread or
is refused, for the first of three reasons: no active article has the slug, all ids of comments have
been given out, or the author is no account.  Deleting a comment by its id takes exactly that one out,
provided that it is in the thread and by the author.  Deleting an author's comments takes all of them
out, tells how many there were, and leaves the others in their order.  What is refused leaves all
tables alone.  A lookup that comes upon a sign before the year of a stamp cannot read it, and so a
comment that has just been saved may be there without being answered with; as long as the clock shows
no such year all threads are found as they are. -/
theorem comments_form_lists (reachable : db.Reachable) :
    (∃ threads, db.Discusses threads) ∧ ∀ threads, db.Discusses threads → ∀ tagBatch,
      let repository := articleRepository tagBatch
      (∀ slug new, ∃ answer after,
        (repository.saveComment slug new).run.outcome db = (.ok answer, after) ∧
          new.Joins slug threads db answer after) ∧
      (∀ authorId slug id, ∃ answer after,
        (repository.deleteComment authorId slug id).run.outcome db = (.ok answer, after) ∧
          CommentLeaves authorId slug id threads db answer after) ∧
      (∀ authorId slug, ∃ after,
        (repository.deleteComments authorId slug).run.outcome db =
            (.ok (.ok ((threads slug).countP fun comment => comment.author.id = authorId)), after) ∧
          after.Discusses (Function.update threads slug
            ((threads slug).filter fun comment => comment.author.id ≠ authorId))) ∧
      ((∀ reading, (db.clock reading).IsNear) →
        (∀ slug, (repository.findComments slug).run.outcome db = (.ok (.ok (threads slug)), db)) ∧
        ∀ new slug comment, NewComment.Becomes new slug db comment →
          comment.reread = .ok comment) := by
  constructor
  · obtain ⟨threads, discusses, dated⟩ := reachable.orderly.tables.exists_threads
    exact ⟨threads, .of_tables reachable.orderly.toHealthy discusses fun there => dated _ _ there⟩
  · intro threads discusses tagBatch repository
    refine ⟨?_, ?_, ?_, fun near => ⟨discusses.found_near near tagBatch, ?_⟩⟩
    · intro slug new
      obtain ⟨answer, after, ran, joins⟩ := joins_saveComment reachable discusses slug new
      exact ⟨answer, after, outcome_of_run ran, joins⟩
    · intro authorId slug id
      obtain ⟨answer, after, ran, leaves⟩ :=
        leaves_removeComment reachable discusses authorId slug id
      exact ⟨answer, after, outcome_of_run ran, leaves⟩
    · intro authorId slug
      obtain ⟨after, ran, left⟩ := run_removeComments_eq reachable discusses authorId slug
      exact ⟨after, outcome_of_run ran, left⟩
    · exact fun new slug comment becomes => becomes.reread_near near

end Database

/-- There is one comment on the article of the sample, and when its author deletes all of theirs, that
is one and none is left. -/
theorem comments_form_lists_commented :
    Sample.commented.Reachable ∧ ∃ threads, Sample.commented.Discusses threads ∧
      (threads "hello-world").map Comment.body = ["c"] ∧
      ∃ after, ((articleRepository 100).deleteComments 2 "hello-world").run.outcome Sample.commented =
          (.ok (.ok 1), after) ∧
        after.Discusses (Function.update threads "hello-world" []) := by
  obtain ⟨⟨threads, discusses⟩, acts⟩ := Database.comments_form_lists Sample.reachable_commented
  obtain ⟨-, -, deletes, -⟩ := acts threads discusses 100
  obtain ⟨after, ran, left⟩ := deletes 2 "hello-world"
  refine ⟨Sample.reachable_commented, threads, discusses, ?_⟩
  have rows := discusses.rows "hello-world"
  have live : Sample.commented.tables.liveOn "hello-world" =
      [⟨1, .text "c", .text "hello-world", .integer 2, .text (Sample.commented.clock 0).stored,
        .text (Sample.commented.clock 0).stored, .null⟩] := by
    decide +kernel
  rw [live] at rows
  obtain ⟨comment, only, row⟩ := List.map_eq_singleton_iff.mp rows
  have by_author : comment.author.id = 2 := Cell.integer.inj (congrArg CommentRow.authorId row)
  have body : comment.body = "c" := Cell.text.inj (congrArg CommentRow.body row)
  rw [only] at ran left ⊢
  simp only [by_author, List.countP_singleton, decide_true, if_true] at ran
  simp only [by_author, List.filter_cons, List.filter_nil, ne_eq, not_true_eq_false, decide_false] at left
  exact ⟨by rw [List.map_singleton, body], after, ran, left⟩

/-- When all ids of comments have been given out, nobody can comment any more, although the article is
active and the author is known. -/
theorem comments_not_form_lists :
    let db := Sample.crowded 9223372036854775806
    db.Reachable ∧ db.tables.activeWithSlug "hello-world" ≠ [] ∧
      db.tables.account? (.integer 2) ≠ none ∧
      ∃ after, ((articleRepository 100).saveComment "hello-world" ⟨"c", 2⟩).run.outcome db =
        (.ok (.error (.queryFailed "database or disk is full")), after) := by
  intro db
  have largest : Int64.maxValue.toInt = 1 + ((9223372036854775806 : Nat) : Int) := by decide
  have crowded : Sample.Open (1 + ((9223372036854775806 : Nat) : Int)) db :=
    Sample.open_crowded 9223372036854775806 largest.symm.le
  have reachable : db.Reachable := Sample.reachable_crowded 9223372036854775806
  have full : db.tables.lastComment = Int64.maxValue :=
    Int64.toInt_inj.mp (crowded.last.trans largest.symm)
  have refused : db.tables.commentRefusal? "hello-world" ⟨"c", 2⟩ = some .outOfIds := by
    rw [commentRefusal?, if_neg crowded.active, if_pos full]
  obtain ⟨readings, ran⟩ :=
    run_saveComment_of_refusal crowded.toHealthy reachable.ready.closed refused
  exact ⟨reachable, crowded.active, crowded.known, _, outcome_of_run ran⟩

end Gazette
