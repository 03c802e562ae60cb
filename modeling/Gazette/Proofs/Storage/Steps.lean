import Mathlib.Data.List.Basic
import Gazette.Proofs.Storage.Contracts
import Gazette.Proofs.Storage.Integrity
import Gazette.Proofs.Storage.Written

/-!
# What a step makes of the tables

For every step of a unit of work it is told once in which ways it can end and what it has made of
the tables then, be it that it has succeeded or that it has failed.  What holds of the tables from
step to step follows from this.
-/

set_option autoImplicit false

namespace Gazette

open Tables Session Database

/-- Tables that keep their promises and hold only rows that have been written by the changes. -/
structure Tables.Orderly (shown : Instant → Prop) (tables : Tables) : Prop extends
  tables.Integrity, tables.Written shown

namespace Tables

/-- The tables after some tags have been asked for one after the other. -/
def upsertTags (names : List String) (tables : Tables) : Except Refusal Tables :=
  names.foldlM (fun tables name => upsertTag [] name tables) tables

/-- The tables after some tags have been attached to an article one after the other. -/
def attachTags (articleId : Int64) (tags : List Tag) (tables : Tables) : Except Refusal Tables :=
  tags.foldlM (fun tables tag => insertLink [] articleId tag.id tables) tables

/-- Whether a tag stands in the tables. -/
def HasTag (tables : Tables) (tag : Tag) : Prop :=
  (⟨tag.id, .text tag.name⟩ : TagRow) ∈ tables.tags

end Tables

/-- What a step makes of the tables, given whether it has failed.  A step that fails may have made
something of the tables only if it saves something. -/
inductive Step.Makes (setting : Setting) : Step → Bool → Tables → Tables → Prop where
  /-- Nothing is made of the tables. -/
  | nothing {step : Step} {failed : Bool} {tables : Tables} : Makes setting step failed tables tables
  /-- An account is there, but is not read back if the step has failed. -/
  | account {account : NewAccount} {failed : Bool} {stamp : Instant} {before after : Tables} :
      setting.shown stamp → (failed → ¬ stamp.ReadsBack) →
      insertAccount [] account (.text stamp.stored) before = .ok after →
      Makes setting (.saveAccount account) failed before after
  /-- An account has been changed. -/
  | patch {email : String} {patch : AccountPatch} {stamp : Instant} {count : Nat}
      {before after : Tables} :
      setting.shown stamp →
      Tables.updateAccount [] email patch (.text stamp.stored) before = .ok (count, after) →
      Makes setting (.updateAccount email patch) false before after
  /-- The tags of an article are there, but the article is refused. -/
  | tags {article : NewArticle} {known : List String} {before after : Tables} :
      article.slug ≠ "" → known <+: article.tags → (known = article.tags ∨ setting.outside) →
      before.upsertTags known = .ok after → Makes setting (.saveArticle article) true before after
  /-- An article is there with its tags, but is not read back if the step has failed. -/
  | article {article : NewArticle} {failed : Bool} {stamp : Instant} {id : Int64} {tags : List Tag}
      {before tagged published after : Tables} :
      article.slug ≠ "" → setting.shown stamp → (failed → ¬ stamp.ReadsBack) →
      before.upsertTags article.tags = .ok tagged →
      Tables.insertArticle [] article (.text stamp.stored) tagged = .ok (id, published) →
      tags.map Tag.name = article.tags → (∀ tag ∈ tags, tagged.HasTag tag) →
      published.attachTags id tags = .ok after →
      Makes setting (.saveArticle article) failed before after
  /-- An article is there, and its tags as far as none is named twice. -/
  | repeated {article : NewArticle} {stamp : Instant} {id : Int64} {tags : List Tag} {name : String}
      {rest : List String} {before tagged published after : Tables} :
      article.slug ≠ "" → setting.shown stamp →
      before.upsertTags article.tags = .ok tagged →
      Tables.insertArticle [] article (.text stamp.stored) tagged = .ok (id, published) →
      article.tags = tags.map Tag.name ++ name :: rest → name ∈ tags.map Tag.name →
      (∀ tag ∈ tags, tagged.HasTag tag) → published.attachTags id tags = .ok after →
      Makes setting (.saveArticle article) true before after
  /-- An article has been marked as deleted, and its tags have been detached. -/
  | removal {authorId id : Int64} {slug : String} {stamp : Instant} {before marked after : Tables} :
      setting.shown stamp →
      tombstoneArticle [] authorId slug (.integer (Int64.ofInt stamp.unix)) (.text stamp.stored)
        before = .ok (some id, marked) →
      deleteLinks [] id marked = .ok after →
      Makes setting (.deleteArticle authorId slug) false before after
  /-- A comment is there, but is not read back if the step has failed. -/
  | comment {slug : String} {comment : NewComment} {failed : Bool} {stamp : Instant} {id : Int64}
      {before after : Tables} :
      before.activeWithSlug slug ≠ [] → setting.shown stamp → (failed → ¬ stamp.ReadsBack) →
      insertComment [] slug comment (.text stamp.stored) before = .ok (id, after) →
      Makes setting (.saveComment slug comment) failed before after
  /-- A comment has been marked as deleted. -/
  | commentRemoval {authorId id : Int64} {slug : String} {stamp : Instant} {count : Nat}
      {before after : Tables} :
      setting.shown stamp →
      tombstoneComments []
        (fun row => row.id = id && row.slug = .text slug && row.authorId = .integer authorId)
        (.text stamp.stored) before = .ok (count, after) →
      Makes setting (.deleteComment authorId slug id) false before after
  /-- An author's comments have been marked as deleted. -/
  | commentsRemoval {authorId : Int64} {slug : String} {stamp : Instant} {count : Nat}
      {before after : Tables} :
      setting.shown stamp →
      tombstoneComments [] (fun row => row.slug = .text slug && row.authorId = .integer authorId)
        (.text stamp.stored) before = .ok (count, after) →
      Makes setting (.deleteComments authorId slug) false before after

namespace Tables

variable {shown : Instant → Prop} {before after : Tables}

/-- Empty tables are in order. -/
theorem orderly_empty (shown : Instant → Prop) : Orderly shown {} where
  toIntegrity := integrity_empty
  toWritten := written_empty shown

/-- Asking for a tag and then for others. -/
theorem upsertTags_cons {name : String} {names : List String} :
    before.upsertTags (name :: names) = .ok after ↔
      ∃ between, upsertTag [] name before = .ok between ∧ between.upsertTags names = .ok after := by
  unfold upsertTags
  rw [List.foldlM_cons, bind_ok_iff]

/-- Asking for tags and then for another one. -/
theorem upsertTags_append {names : List String} {name : String} :
    before.upsertTags (names ++ [name]) = .ok after ↔
      ∃ between, before.upsertTags names = .ok between ∧ upsertTag [] name between = .ok after := by
  unfold upsertTags
  rw [List.foldlM_append, bind_ok_iff]
  simp

/-- Attaching tags and then another one. -/
theorem attachTags_append {id : Int64} {tags : List Tag} {tag : Tag} :
    before.attachTags id (tags ++ [tag]) = .ok after ↔
      ∃ between, before.attachTags id tags = .ok between ∧
        insertLink [] id tag.id between = .ok after := by
  unfold attachTags
  rw [List.foldlM_append, bind_ok_iff]
  simp

/-- A tag stays while others are asked for. -/
theorem HasTag.upsertTag {tag : Tag} {name : String} (there : before.HasTag tag)
    (done : Tables.upsertTag [] name before = .ok after) : after.HasTag tag := by
  obtain ⟨id, -, ⟨-, rfl⟩ | ⟨-, rfl⟩⟩ := upsertTag_eq_ok done
  · exact there
  · exact List.mem_append_left _ there

/-- What one tag leaves alone, all of them do. -/
theorem upsertTags_induction {motive : Tables → Prop} {names : List String}
    (one : ∀ {name before after}, upsertTag [] name before = .ok after →
      motive before → motive after)
    (start : motive before) (done : before.upsertTags names = .ok after) : motive after := by
  induction names generalizing before with
  | nil =>
    cases done
    exact start
  | cons name names ih =>
    obtain ⟨between, first, rest⟩ := upsertTags_cons.mp done
    exact ih (one first start) rest

/-- What one link leaves alone, all of them do. -/
theorem attachTags_induction {motive : Tables → Prop} {id : Int64} {tags : List Tag}
    (one : ∀ {tag before after}, insertLink [] id tag before = .ok after →
      motive before → motive after)
    (start : motive before) (done : before.attachTags id tags = .ok after) : motive after := by
  induction tags generalizing before with
  | nil =>
    cases done
    exact start
  | cons tag tags ih =>
    unfold attachTags at done
    rw [List.foldlM_cons, bind_ok_iff] at done
    obtain ⟨between, first, rest⟩ := done
    exact ih (one first start) rest

/-- Asking for tags changes the tags only, and the last id of theirs. -/
theorem upsertTags_eq_ok {names : List String} (done : before.upsertTags names = .ok after) :
    ∃ tags lastTag, after = { before with tags, lastTag } := by
  refine upsertTags_induction
    (motive := fun tables => ∃ tags lastTag, tables = { before with tags, lastTag }) ?_
    ⟨before.tags, before.lastTag, rfl⟩ done
  rintro name start last asked ⟨tags, lastTag, rfl⟩
  obtain ⟨id, -, ⟨-, rfl⟩ | ⟨-, rfl⟩⟩ := upsertTag_eq_ok asked
  · exact ⟨_, _, rfl⟩
  · exact ⟨_, _, rfl⟩

/-- Attaching tags changes the links only. -/
theorem attachTags_eq_ok {id : Int64} {tags : List Tag}
    (done : before.attachTags id tags = .ok after) : ∃ links, after = { before with links } := by
  refine attachTags_induction (motive := fun tables => ∃ links, tables = { before with links }) ?_
    ⟨before.links, rfl⟩ done
  rintro tag start last linked ⟨links, rfl⟩
  obtain ⟨-, -, -, rfl⟩ := insertLink_eq_ok linked
  exact ⟨_, rfl⟩

/-- Tables stay orderly while tags are asked for. -/
theorem Orderly.upsertTags {names : List String} (orderly : before.Orderly shown)
    (done : before.upsertTags names = .ok after) : after.Orderly shown :=
  upsertTags_induction
    (fun one sane => ⟨sane.toIntegrity.upsertTag one, sane.toWritten.upsertTag one⟩) orderly done

/-- Tables stay orderly while tags are attached to an active article. -/
theorem Orderly.attachTags {id : Int64} {tags : List Tag} (orderly : before.Orderly shown)
    (active : ∃ row ∈ before.articles, row.id = id ∧ row.isActive)
    (done : before.attachTags id tags = .ok after) : after.Orderly shown := by
  have both : after.Orderly shown ∧ ∃ row ∈ after.articles, row.id = id ∧ row.isActive := by
    refine attachTags_induction (motive := fun tables =>
      tables.Orderly shown ∧ ∃ row ∈ tables.articles, row.id = id ∧ row.isActive) ?_
      ⟨orderly, active⟩ done
    rintro tag start last linked ⟨sane, there⟩
    refine ⟨⟨sane.toIntegrity.insertLink there linked, sane.toWritten.insertLink linked⟩, ?_⟩
    obtain ⟨-, -, -, rfl⟩ := insertLink_eq_ok linked
    exact there
  exact both.1

/-- Tables are orderly with an article more, and with its tags. -/
theorem Orderly.publish {article : NewArticle} {stamp : Instant} {id : Int64} {tags : List Tag}
    {published : Tables} (orderly : before.Orderly shown) (named : article.slug ≠ "")
    (dated : shown stamp)
    (done : Tables.insertArticle [] article (.text stamp.stored) before = .ok (id, published))
    (attached : published.attachTags id tags = .ok after) : after.Orderly shown := by
  have sane : published.Orderly shown :=
    ⟨orderly.toIntegrity.insertArticle named done, orderly.toWritten.insertArticle dated done⟩
  refine sane.attachTags ?_ attached
  obtain ⟨-, -, -, rfl⟩ := insertArticle_eq_ok done
  exact ⟨_, List.mem_append_right _ List.mem_cons_self, rfl, rfl⟩

end Tables

/-- Whatever a step makes of orderly tables, they stay orderly. -/
theorem Step.Makes.orderly {setting : Setting} {step : Step} {failed : Bool} {before after : Tables}
    (makes : step.Makes setting failed before after) (orderly : before.Orderly setting.shown) :
    after.Orderly setting.shown := by
  have sane := orderly.toIntegrity
  have written := orderly.toWritten
  cases makes with
  | nothing => exact orderly
  | account dated _ done => exact ⟨sane.insertAccount done, written.insertAccount dated done⟩
  | patch dated done => exact ⟨sane.updateAccount done, written.updateAccount dated done⟩
  | tags _ _ _ done => exact orderly.upsertTags done
  | article named dated _ tagged done _ _ attached =>
    exact (orderly.upsertTags tagged).publish named dated done attached
  | repeated named dated tagged done _ _ _ attached =>
    exact (orderly.upsertTags tagged).publish named dated done attached
  | removal dated marked done =>
    exact ⟨sane.removeArticle marked done,
      (written.tombstoneArticle dated marked).deleteLinks done⟩
  | comment _ dated _ done => exact ⟨sane.insertComment done, written.insertComment dated done⟩
  | commentRemoval dated done =>
    exact ⟨sane.tombstoneComments done, written.tombstoneComments dated done⟩
  | commentsRemoval dated done =>
    exact ⟨sane.tombstoneComments done, written.tombstoneComments dated done⟩

end Gazette
