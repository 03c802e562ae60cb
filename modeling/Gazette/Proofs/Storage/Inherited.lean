import Mathlib.Data.List.Basic
import Gazette.Proofs.Storage.Growth
import Gazette.Proofs.Storage.Shown

/-!
# What a new article finds under its slug

A comment belongs to a slug and not to an article.  Deleting an article leaves its comments, or takes
those of the article's author with it, so that the comments of others are still there when the slug is
used again.  A new article neither adds comments to its slug nor takes any away: it starts with those
that have been left there by earlier articles.
-/

set_option autoImplicit false

namespace Gazette

open Tables Session Database

namespace Tables

variable {tables before after : Tables} {slug : String}

/-- What a lookup of the comments on a slug answers. -/
def thread (tables : Tables) (slug : String) : Except StorageError (List Comment) :=
  ((((tables.comments.filter fun row => row.slug = .text slug && row.isLive).reverse).filterMap
    tables.commentColumns?).mapM Row.comment).mapError (EngineError.about commentEntity slug)

/-- Every comment belongs to a slug that an article has or has had. -/
def Housed (tables : Tables) : Prop :=
  ∀ comment ∈ tables.comments, ∃ article ∈ tables.articles, article.slug = comment.slug

/-- The comments on a slug depend on the comments and their authors only. -/
theorem thread_congr (comments : after.comments = before.comments)
    (accounts : after.accounts = before.accounts) (slug : String) :
    after.thread slug = before.thread slug := by
  have joins : after.commentColumns? = before.commentColumns? := by
    funext row
    rw [commentColumns?, commentColumns?, account?, account?, accounts]
  rw [thread, thread, comments, joins]

/-- Only from nothing is nothing read. -/
theorem mapM_eq_nil {ε α β : Type} {read : α → Except ε β} {items : List α} :
    items.mapM read = .ok [] ↔ items = [] := by
  cases items with
  | nil => simp [pure_ok_iff]
  | cons item items =>
    simp only [List.mapM_cons, bind_ok_iff, pure_ok_iff]
    constructor
    · rintro ⟨value, -, values, -, never⟩
      cases never
    · nofun

/-- There are no comments on a slug if and only if all of them have been deleted. -/
theorem thread_eq_nil (sane : tables.Integrity) :
    tables.thread slug = .ok [] ↔
      ∀ row ∈ tables.comments, row.slug = .text slug → row.isLive = false := by
  have whole := sane.joinsWhole.comments slug
  rw [thread, mapError_ok_iff, mapM_eq_nil, ← List.length_eq_zero_iff, whole,
    List.length_eq_zero_iff, List.filter_eq_nil_iff]
  simp

end Tables

/-- What a step makes of the comments: it leaves them alone, or marks some of them as deleted, or adds
one on a slug that an active article has. -/
theorem Step.Makes.comments {setting : Setting} {step : Step} {failed : Bool} {before after : Tables}
    (makes : step.Makes setting failed before after) :
    after.comments = before.comments ∨
      (∃ chosen stamp, after.comments = before.comments.map (CommentRow.marked chosen stamp)) ∨
      ∃ slug comment id stamp, before.activeWithSlug slug ≠ [] ∧
        after.comments = before.comments ++ [NewComment.row comment slug id stamp] := by
  cases makes with
  | nothing => exact .inl rfl
  | account _ _ done =>
    obtain ⟨_, -, -, rfl⟩ := insertAccount_eq_ok done
    exact .inl rfl
  | patch _ done =>
    rcases updateAccount_eq_ok done with ⟨-, rfl, -⟩ | ⟨-, -, -, rfl⟩ <;> exact .inl rfl
  | tags _ _ _ done =>
    obtain ⟨_, _, rfl⟩ := upsertTags_eq_ok done
    exact .inl rfl
  | article _ _ _ tagged done _ _ attached =>
    obtain ⟨_, _, rfl⟩ := upsertTags_eq_ok tagged
    obtain ⟨-, -, -, rfl⟩ := insertArticle_eq_ok done
    obtain ⟨_, rfl⟩ := attachTags_eq_ok attached
    exact .inl rfl
  | repeated _ _ tagged done _ _ _ attached =>
    obtain ⟨_, _, rfl⟩ := upsertTags_eq_ok tagged
    obtain ⟨-, -, -, rfl⟩ := insertArticle_eq_ok done
    obtain ⟨_, rfl⟩ := attachTags_eq_ok attached
    exact .inl rfl
  | removal _ stones done =>
    obtain rfl := deleteLinks_eq_ok done
    rcases tombstoneArticle_eq_ok stones with ⟨-, rfl, -⟩ | ⟨_, -, -, -, rfl⟩ <;> exact .inl rfl
  | comment active _ _ done =>
    obtain ⟨-, -, rfl⟩ := insertComment_eq_ok done
    exact .inr (.inr ⟨_, _, _, _, active, rfl⟩)
  | commentRemoval _ done =>
    obtain ⟨-, -, rfl⟩ := tombstoneComments_eq_ok done
    exact .inr (.inl ⟨_, _, rfl⟩)
  | commentsRemoval _ done =>
    obtain ⟨-, -, rfl⟩ := tombstoneComments_eq_ok done
    exact .inr (.inl ⟨_, _, rfl⟩)

namespace Tables

variable {before after : Tables}

/-- Whatever a step makes of the tables, every comment belongs to a slug of an article. -/
theorem Housed.makes {setting : Setting} {step : Step} {failed : Bool} (housed : before.Housed)
    (makes : step.Makes setting failed before after) : after.Housed := by
  have still {slug : Cell} (known : ∃ row ∈ before.articles, row.slug = slug) :
      ∃ row ∈ after.articles, row.slug = slug := by
    obtain ⟨row, there, same⟩ := known
    obtain ⟨other, present, named⟩ := makes.growsInto.articles.exists_named there
    exact ⟨other, present, (Prod.mk.inj named).2.trans same⟩
  intro comment there
  rcases makes.comments with same | ⟨chosen, stamp, marked⟩ | ⟨slug, new, id, stamp, active, added⟩
  · rw [same] at there
    exact still (housed comment there)
  · rw [marked] at there
    obtain ⟨row, present, rfl⟩ := List.mem_map.mp there
    rw [CommentRow.marked_slug]
    exact still (housed row present)
  · rw [added] at there
    rcases List.mem_append.mp there with earlier | last
    · exact still (housed comment earlier)
    · obtain ⟨row, found⟩ := List.exists_mem_of_ne_nil _ active
      rw [List.mem_singleton.mp last]
      exact still ⟨row, List.mem_of_mem_filter found, slug_of_mem_activeWithSlug found⟩

/-- That every comment belongs to a slug of an article lasts. -/
theorem lasting_housed (setting : Setting) :
    Lasting setting fun tables => tables.Orderly setting.shown ∧ tables.Housed :=
  lasting_of_makes (fun _ both => both.1) fun both makes =>
    ⟨makes.orderly both.1, both.2.makes makes⟩

end Tables

/-- What the tables are after an article has been saved: they are as before but for its row, its tags
and its links.  Its slug was free, and it has the next id. -/
structure Tables.Saves (article : NewArticle) (saved : Article) (before after : Tables) : Prop where
  slug : saved.slug = article.slug
  free : before.activeWithSlug article.slug = []
  next : nextId before.lastArticle = .ok saved.id
  rows : ∃ stamp tags lastTag links, after = { before with
    articles := before.articles ++ [article.row saved.id stamp], lastArticle := saved.id
    tags, lastTag, links }

/-- What a new article finds under its slug.  The comments are those from before; there are none
exactly if all that have been written on the slug have been deleted; and each of them has been written
on an earlier article with the slug, which has been deleted since. -/
structure Inherits (saved : Article) (before after : Database) : Prop where
  same : ((findComments saved.slug).run after).1 = ((findComments saved.slug).run before).1
  bare_iff : ((findComments saved.slug).run after).1 = .ok [] ↔
    ∀ row ∈ before.tables.comments, row.slug = .text saved.slug → row.isLive = false
  earlier : ∀ row ∈ before.tables.comments, row.slug = .text saved.slug →
    ∃ article ∈ before.tables.articles, article.slug = .text saved.slug ∧
      article.isActive = false ∧ article.id < saved.id

namespace Database

variable {db after : Database} {slug : String} {article : NewArticle} {saved : Article}

/-- Looking for comments on a healthy database. -/
theorem run_findComments (healthy : db.Healthy) (slug : String) :
    (findComments slug).run db = (db.tables.thread slug, db) := by
  unfold findComments
  rw [run_query healthy]
  rfl

/-- Asking for tags changes the tags only. -/
theorem tables_of_saveTags {names : List String} {tags : List Tag}
    (ran : (names.mapM saveTag).run db = (.ok tags, after)) :
    ∃ tags lastTag, after.tables = { db.tables with tags, lastTag } := by
  have composed : Composed (fun before after => ∃ tags lastTag, after = { before with tags, lastTag })
      (names.mapM saveTag) := by
    apply Composed.mapM
    intro name
    refine .bind (.execute ?_) fun _ => .query fun tables => ⟨_, _, rfl⟩
    intro triggers before after done
    obtain ⟨id, -, ⟨-, rfl⟩ | ⟨-, rfl⟩⟩ := upsertTag_eq_ok done
    · exact ⟨_, _, rfl⟩
    · exact ⟨_, _, rfl⟩
  have left := composed.leaves (fun _ => ⟨_, _, rfl⟩)
    (by rintro before between after ⟨_, _, rfl⟩ ⟨_, _, rfl⟩; exact ⟨_, _, rfl⟩) db
  rw [ran] at left
  exact left.done

/-- Attaching tags changes the links only. -/
theorem tables_of_attachTags {id : Int64} {tags : List Tag} {value : PUnit}
    (ran : (forIn tags PUnit.unit fun tag _ => do
      Engine.about (execute [.itself .articleTags, .referred .tags, .referred .articles]
        fun triggers => Tables.insertLink triggers id tag.id) tagEntity tag.name
      pure (ForInStep.yield PUnit.unit) : Session Database PUnit).run db = (.ok value, after)) :
    ∃ links, after.tables = { db.tables with links } := by
  have composed : Composed (fun before after => ∃ links, after = { before with links })
      (forIn tags PUnit.unit fun tag _ => do
        Engine.about (execute [.itself .articleTags, .referred .tags, .referred .articles]
          fun triggers => Tables.insertLink triggers id tag.id) tagEntity tag.name
        pure (ForInStep.yield PUnit.unit)) := by
    refine Composed.forIn (fun tag => .execute ?_) tags
    intro triggers before after done
    obtain ⟨-, -, -, rfl⟩ := insertLink_eq_ok done
    exact ⟨_, rfl⟩
  have left := composed.leaves (fun _ => ⟨_, rfl⟩)
    (by rintro before between after ⟨_, rfl⟩ ⟨_, rfl⟩; exact ⟨_, rfl⟩) db
  rw [ran] at left
  exact left.done

/-- An article that has been saved is a new row with its tags. -/
theorem saves_of_insertArticle (ran : (insertArticle article).run db = (.ok saved, after)) :
    Saves article saved db.tables after.tables := by
  unfold insertArticle at ran
  split at ran
  · cases ran
  obtain ⟨known, tagged, asked, dated⟩ := run_bind_eq_ok ran
  obtain ⟨stamp, stamped, read, saving⟩ := run_bind_eq_ok dated
  obtain ⟨id, written, made, linking⟩ := run_bind_eq_ok saving
  obtain ⟨_, last, attached, found⟩ := run_bind_eq_ok linking
  have same := findArticle_leaves article.slug last
  rw [found] at same
  obtain rfl : after = last := same
  obtain ⟨tags, lastTag, tagged_eq⟩ := tables_of_saveTags asked
  obtain ⟨links, after_eq⟩ := tables_of_attachTags attached
  cases read
  obtain ⟨next, free, -, grown⟩ := insertArticle_eq_ok (statement_eq_ok made)
  rw [grown, tagged_eq] at after_eq
  rw [tagged_eq] at next free
  -- of the active articles only the new one has the slug
  obtain ⟨row, active, stores⟩ := stores_of_findArticle found
  rw [activeWithSlug_append free (congrArg Tables.articles after_eq), List.mem_singleton] at active
  have same_id : saved.id = id := by rw [stores.id, active]; rfl
  subst same_id
  exact ⟨slug_of_findArticle found, free, next, _, tags, lastTag, links, after_eq⟩

/-- An article that has been saved finds the comments under its slug that were there before. -/
theorem inherits_of_saves (healthy : db.Healthy) (still_healthy : after.Healthy)
    (sane : db.tables.Integrity) (housed : db.tables.Housed)
    (saves : Saves article saved db.tables after.tables) : Inherits saved db after := by
  obtain ⟨stamp, tags, lastTag, links, made⟩ := saves.rows
  have comments : after.tables.comments = db.tables.comments := by rw [made]
  have accounts : after.tables.accounts = db.tables.accounts := by rw [made]
  have same : ((findComments saved.slug).run after).1 = db.tables.thread saved.slug := by
    rw [run_findComments still_healthy, thread_congr comments accounts]
  refine ⟨by rw [same, run_findComments healthy], by rw [same, thread_eq_nil sane], ?_⟩
  intro row there named
  obtain ⟨old, present, old_named⟩ := housed row there
  have named_alike : old.slug = .text article.slug := by rw [old_named, named, saves.slug]
  refine ⟨old, present, old_named.trans named, ?_, ?_⟩
  · -- there was no active article with the slug
    have unchosen := List.filter_eq_nil_iff.mp saves.free old present
    simpa [named_alike] using unchosen
  · exact Int64.lt_of_le_of_lt (sane.articleIds.given old present) (nextId_ok saves.next)

/-- Deleting an article together with its author's comments leaves comments of others only. -/
theorem others_of_removeWithComments {authorId : Int64} {count : Nat} (healthy : db.Healthy)
    (ran : (removeWithComments authorId slug).run db = (.ok count, after)) :
    ∀ row ∈ after.tables.comments, row.slug = .text slug → row.isLive →
      row.authorId ≠ .integer authorId := by
  obtain ⟨inner, inside, same⟩ := transaction_eq_ok ran
  obtain ⟨_, between, removed, counted⟩ := run_bind_eq_ok inside
  have left := (composed_removeArticle authorId slug).leaves Removes.refl Removes.trans
    { db with beforeWork := some db.tables }
  rw [removed] at left
  have opened : Healthy { db with beforeWork := some db.tables } :=
    ⟨healthy.triggers, healthy.missing, healthy.locked⟩
  obtain ⟨marked, ran_comments⟩ :=
    run_removeComments (left.alike.healthy opened) authorId slug
  cases ran_comments.symm.trans counted
  rw [same]
  intro row there named live own
  obtain ⟨old, -, rfl⟩ := List.mem_map.mp there
  rw [CommentRow.marked_slug] at named
  rw [CommentRow.marked_authorId] at own
  unfold CommentRow.marked at live
  split at live
  · simp [CommentRow.isLive] at live
  · rename_i spared
    exact spared (by simp [named, own, live])

/-- A new article starts with the comments that its slug has.  Whether it is saved alone or in a unit
of work, a lookup of its comments answers right afterwards what it would have answered right before.
There are none exactly if all comments that have ever been written on the slug have been deleted, and
they have all been written on earlier articles with the slug that have been deleted since; so a slug
that is used for the first time has none.  Deleting an article together with its author's comments
leaves those of others. -/
theorem new_article_inherits_comments (reachable : db.Reachable) (tagBatch : Nat) :
    let repository := articleRepository tagBatch
    (∀ article saved after, (repository.save article).run.outcome db = (.ok (.ok saved), after) →
      Inherits saved db after) ∧
    (∀ article saved after, (repository.saveFresh article).run.outcome db = (.ok (.ok saved), after) →
      Inherits saved db after) ∧
    (∀ work, ∀ stage ∈ Work.stages tagBatch work { db with beforeWork := some db.tables },
      ∀ article saved, stage.toPerformed = ⟨.saveArticle article, .ok saved⟩ →
        Inherits saved stage.before stage.after) ∧
    ∀ authorId slug count after,
      (repository.deleteWithComments authorId slug).run.outcome db = (.ok (.ok count), after) →
        ∀ row ∈ after.tables.comments, row.slug = .text slug → row.isLive →
          row.authorId ≠ .integer authorId := by
  intro repository
  have lasting := lasting_housed ⟨ShownBy db.clock, True⟩
  have within := reachable.within (fun clock => lasting_housed ⟨ShownBy clock, True⟩)
    fun clock => ⟨orderly_empty _, by simp [Housed]⟩
  have alone (article : NewArticle) (saved : Article) (after : Database)
      (ran : (transaction (insertArticle article)).run db = (.ok saved, after)) :
      Inherits saved db after := by
    have still := within.transaction (lasting tagBatch (.saveArticle article))
    obtain ⟨inner, inside, same⟩ := transaction_eq_ok ran
    rw [Step.perform, ran] at still
    exact inherits_of_saves within.toHealthy still.toHealthy within.tables.1.toIntegrity
      within.tables.2 (same ▸ saves_of_insertArticle inside)
  refine ⟨?_, ?_, ?_, ?_⟩
  · intro article saved after ran
    obtain ⟨answered, left⟩ := Prod.mk.inj ran
    exact alone article saved after (Prod.ext (Except.ok.inj answered) left)
  · intro article saved after ran
    obtain ⟨answered, left⟩ := Prod.mk.inj ran
    exact alone article saved after (Prod.ext (Except.ok.inj answered) left)
  · intro work stage there article saved performed
    obtain ⟨before_within, after_within, ran⟩ := work.within_stage lasting within.opened there
    obtain ⟨⟨step, result⟩, before, after⟩ := stage
    cases performed
    exact inherits_of_saves before_within.toHealthy after_within.toHealthy
      before_within.tables.1.toIntegrity before_within.tables.2 (saves_of_insertArticle ran)
  · intro authorId slug count after ran
    obtain ⟨answered, left⟩ := Prod.mk.inj ran
    exact others_of_removeWithComments within.toHealthy (Prod.ext (Except.ok.inj answered) left)

end Database

/-- An article and its author's comment have been deleted, and the slug is used again: the new article
starts with the comment of somebody else. -/
theorem new_article_inherits_comments_stranger :
    ∃ article after, ((articleRepository 100).save
        ⟨"hello-world", "Hello World", "b", 1, ["go"]⟩).run.outcome Sample.cleared =
          (.ok (.ok article), after) ∧
      Inherits article Sample.cleared after ∧
      ¬ ∀ row ∈ Sample.cleared.tables.comments, row.slug = .text article.slug → row.isLive = false := by
  have saved : (((articleRepository 100).save
      ⟨"hello-world", "Hello World", "b", 1, ["go"]⟩).run.outcome Sample.cleared).1.toOption.bind
        (fun result => result.toOption.map Article.slug) = some "hello-world" := by
    decide +kernel
  rcases ran : ((articleRepository 100).save
      ⟨"hello-world", "Hello World", "b", 1, ["go"]⟩).run.outcome Sample.cleared with
    ⟨error | error | article, after⟩
  · rw [ran] at saved
    cases saved
  · rw [ran] at saved
    cases saved
  · rw [ran] at saved
    obtain ⟨alone, -⟩ := new_article_inherits_comments Sample.reachable_cleared 100
    refine ⟨article, after, rfl, alone _ _ _ ran, ?_⟩
    rw [show article.slug = "hello-world" from Option.some.inj saved]
    decide +kernel

/-- A new article need not start without comments. -/
theorem new_article_shows_old_comment :
    ¬ ∀ (db : Database) (tagBatch : Nat) (article : NewArticle) (saved : Article) (after : Database),
      db.Reachable →
      ((articleRepository tagBatch).save article).run.outcome db = (.ok (.ok saved), after) →
      (((articleRepository tagBatch).findComments saved.slug).run.outcome after).1 = .ok (.ok []) := by
  intro always
  let article : NewArticle := ⟨"hello-world", "Hello World", "b", 1, ["go"]⟩
  have saved : ∃ saved ∈ (((articleRepository 100).save article).run.outcome
      Sample.cleared).1.toOption.bind Except.toOption, saved.slug = "hello-world" := by
    decide +kernel
  have shown : (((articleRepository 100).findComments "hello-world").run.outcome
      Sample.reused).1.toOption.bind Except.toOption ≠ some [] := by
    decide +kernel
  obtain ⟨saved, answered, same⟩ := saved
  have bare := always Sample.cleared 100 article saved Sample.reused Sample.reachable_cleared
  rcases ran : ((articleRepository 100).save article).run.outcome Sample.cleared with
    ⟨error | error | other, after⟩
  · rw [ran] at answered
    cases answered
  · rw [ran] at answered
    cases answered
  · rw [ran] at answered bare
    cases answered
    have reused : after = Sample.reused := by rw [Sample.reused, ran]
    rw [same, reused] at bare
    rw [bare rfl] at shown
    exact shown rfl

end Gazette
