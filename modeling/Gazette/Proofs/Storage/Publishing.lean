import Mathlib.Data.List.Basic
import Gazette.Proofs.Storage.Insertion
import Gazette.Proofs.Storage.Scoping

/-!
# Saving an article

An article is refused for the first of five reasons, and then nothing has changed.  Otherwise it stands
in the tables with its tags and is found under its slug.  It is only where the clock shows a year that
cannot be read back that a save fails for none of the reasons, and then nothing has changed either.
-/

set_option autoImplicit false

namespace Gazette

open Tables Session Database

/-- The texts without repetitions are those that are left if later repetitions are dropped. -/
theorem NewArticle.firstOccurrences_eq (names : List String) :
    firstOccurrences names = names.eraseDups := by
  induction names using List.reverseRecOn with
  | nil => rfl
  | append_singleton names name ih =>
    have last : firstOccurrences (names ++ [name]) =
        if name ∈ firstOccurrences names then firstOccurrences names
        else firstOccurrences names ++ [name] := by
      rw [firstOccurrences, List.foldl_append]
      rfl
    rw [last, ih, eraseDups_append_singleton]
    simp only [List.mem_eraseDups]

namespace Tables

variable {before after tables : Tables} {new : NewArticle}

/-- Why an article is refused, if it is. -/
def articleRefusal? (tables : Tables) (new : NewArticle) : Option StorageError :=
  if new.slug = "" then
    some (.invalidData ("title " ++ quoted new.title ++ " yields an empty slug"))
  else if Int64.maxValue.toInt < tables.lastTag.toInt + new.tags.length ∨
      tables.lastArticle = Int64.maxValue then
    some (.rollbackFailed .outOfIds "cannot rollback - no transaction is active")
  else if tables.activeWithSlug new.slug ≠ [] then some (.keyConflict articleEntity new.slug)
  else if tables.account? (.integer new.authorId) = none then
    some (.invalidData ("Foreign key constraint violation for Article " ++ new.slug))
  else (firstRepeated? [] new.tags).map (.keyConflict tagEntity)

/-- An article is not refused if there is none of the reasons. -/
theorem of_articleRefusal?_eq_none (accepted : tables.articleRefusal? new = none) :
    new.slug ≠ "" ∧ ¬ Int64.maxValue.toInt < tables.lastTag.toInt + new.tags.length ∧
      tables.lastArticle ≠ Int64.maxValue ∧ tables.activeWithSlug new.slug = [] ∧
      tables.account? (.integer new.authorId) ≠ none ∧ firstRepeated? [] new.tags = none := by
  unfold articleRefusal? at accepted
  split at accepted
  · cases accepted
  · rename_i slugged
    split at accepted
    · cases accepted
    · rename_i room
      split at accepted
      · cases accepted
      · rename_i free
        split at accepted
        · cases accepted
        · rename_i known
          obtain ⟨few_tags, more⟩ := not_or.mp room
          exact ⟨slugged, few_tags, more, Decidable.not_not.mp free, known,
            Option.map_eq_none_iff.mp accepted⟩

/-- Asking for tags does not matter to the statement that adds an article. -/
theorem insertArticle_upsertTags {names : List String} (asked : before.upsertTags names = .ok after)
    (stamp : Cell) :
    insertArticle [] new stamp after =
      if before.lastArticle = Int64.maxValue then .error .full
      else if before.activeWithSlug new.slug ≠ [] then .error .taken
      else if before.account? (.integer new.authorId) = none then .error .dangling
      else .ok (before.lastArticle + 1, after.withArticle new stamp) := by
  rw [insertArticle_eq]
  obtain ⟨tags, lastTag, rfl⟩ := upsertTags_eq_ok asked
  rfl

/-- The statement that adds an article refuses one that is refused for something else than its slug
being empty or its tags being too many, unless one of the tags is repeated. -/
theorem insertArticle_of_refusal {error : StorageError} (slugged : new.slug ≠ "")
    (room : ¬ Int64.maxValue.toInt < before.lastTag.toInt + new.tags.length)
    (asked : before.upsertTags new.tags = .ok after)
    (refused : before.articleRefusal? new = some error) (stamp : Cell) :
    match insertArticle [] new stamp after with
    | .error refusal =>
      refusal.endsWork ∧ error = .rollbackFailed (refusal.error.about articleEntity new.slug)
          "cannot rollback - no transaction is active" ∨
        ¬ refusal.endsWork ∧ error = refusal.error.about articleEntity new.slug
    | .ok _ => ∃ name, firstRepeated? [] new.tags = some name ∧ error = .keyConflict tagEntity name := by
  rw [insertArticle_upsertTags asked]
  rw [articleRefusal?, if_neg slugged] at refused
  by_cases full : before.lastArticle = Int64.maxValue
  · rw [if_pos (.inr full), Option.some.injEq] at refused
    rw [if_pos full]
    exact .inl ⟨rfl, refused.symm⟩
  rw [if_neg (not_or_intro room full)] at refused
  rw [if_neg full]
  by_cases taken : before.activeWithSlug new.slug ≠ []
  · rw [if_pos taken, Option.some.injEq] at refused
    rw [if_pos taken]
    exact .inr ⟨nofun, refused.symm⟩
  rw [if_neg taken] at refused ⊢
  by_cases unknown : before.account? (.integer new.authorId) = none
  · rw [if_pos unknown, Option.some.injEq] at refused
    rw [if_pos unknown]
    exact .inr ⟨nofun, refused.symm⟩
  rw [if_neg unknown] at refused ⊢
  obtain ⟨name, repeated, own⟩ := Option.map_eq_some_iff.mp refused
  exact ⟨name, repeated, own.symm⟩

/-- An article that is not refused is added. -/
theorem insertArticle_of_accepted (accepted : before.articleRefusal? new = none)
    (asked : before.upsertTags new.tags = .ok after) (stamp : Cell) :
    ∃ added, insertArticle [] new stamp after = .ok added := by
  obtain ⟨-, -, more, free, known, -⟩ := of_articleRefusal?_eq_none accepted
  rw [insertArticle_upsertTags asked, if_neg more, if_neg (not_not_intro free), if_neg known]
  exact ⟨_, rfl⟩

/-- What is added to the tables with an article: its row, those of its tags that there have not been
before, and a link to each of its tags. -/
structure Gains (before after : Tables) (article : Article) : Prop where
  rows : ∃ links lastTag, after = { before with
    articles := before.articles ++ [article.row]
    lastArticle := article.id
    tags := before.tags ++
      ((article.tags.filter fun tag => Cell.text tag.name ∉ before.tags.map TagRow.name).map Tag.row)
    lastTag := lastTag
    links := before.links ++ links } ∧
      links.map (fun link => (link.articleId, link.tagId)) =
        article.tags.map fun tag => (Cell.integer article.id, Cell.integer tag.id)
  reused : ∀ tag, before.HasTag tag → tag.name ∈ article.tagNames → tag ∈ article.tags
  used : after.lastTag.toInt = before.lastTag.toInt + article.tags.length

/-- Two lists of rows that are known by their names are the same if their names are. -/
theorem eq_of_map_eq {α β : Type} {name : α → β} {first second all : List α}
    (distinct : (all.map name).Nodup) (some_of : first ⊆ all) (others_of : second ⊆ all)
    (same : first.map name = second.map name) : first = second := by
  induction first generalizing second with
  | nil => exact (List.map_eq_nil_iff.mp same.symm).symm
  | cons row first ih =>
    obtain ⟨other, rest, rfl, own, others⟩ := List.map_eq_cons_iff.mp same.symm
    obtain ⟨there, some_of⟩ := List.cons_subset.mp some_of
    obtain ⟨also_there, others_of⟩ := List.cons_subset.mp others_of
    rw [List.inj_on_of_nodup_map distinct there also_there own.symm, ih some_of others_of others.symm]

/-- The tags that are added when those of an article are asked for are its own. -/
theorem tags_of_upsertTags {names : List String} {tags : List Tag} (sane : after.Integrity)
    (distinct : names.Nodup) (done : before.upsertTags names = .ok after)
    (named : tags.map Tag.name = names) (there : ∀ tag ∈ tags, after.HasTag tag) :
    after.tags = before.tags ++
      ((tags.filter fun tag => Cell.text tag.name ∉ before.tags.map TagRow.name).map Tag.row) := by
  obtain ⟨rows, added, rows_named⟩ := upsertTags_added distinct done
  rw [added]
  congr 1
  refine eq_of_map_eq sane.tagNames (fun row present => ?_) (fun row present => ?_) ?_
  · rw [added]
    exact List.mem_append_right _ present
  · obtain ⟨tag, own, rfl⟩ := List.mem_map.mp present
    exact there tag (List.mem_of_mem_filter own)
  · rw [rows_named, ← named, List.filter_map, List.map_map, List.map_map]
    rfl

/-- No link leads to an article that has the next id. -/
theorem Integrity.unlinked_next {id : Int64} (sane : tables.Integrity)
    (next : nextId tables.lastArticle = .ok id) :
    ∀ link ∈ tables.links, link.articleId ≠ .integer id := by
  intro link there same
  obtain ⟨given, of_row, refers⟩ := (sane.linked link there).1
  obtain ⟨row, present, rfl⟩ := List.mem_map.mp of_row
  exact sane.articleIds.ne_next next present (Cell.integer.inj (refers.symm.trans same))

/-- The tags of an article are those that have been attached to it, if it had none before. -/
theorem Integrity.tagged_of_links {id : Int64} {tags : List Tag} {links rows : List LinkRow}
    (sane : tables.Integrity) (all : tables.links = links ++ rows)
    (others : ∀ link ∈ links, link.articleId ≠ .integer id)
    (pairs : rows.map (fun link => (link.articleId, link.tagId)) =
      tags.map fun tag => (Cell.integer id, Cell.integer tag.id))
    (there : ∀ tag ∈ tags, tables.HasTag tag) : tables.Tagged id tags := by
  have own : ∀ link ∈ rows, link.articleId = .integer id := by
    intro link present
    have pair : (link.articleId, link.tagId) ∈
        rows.map fun link => (link.articleId, link.tagId) := List.mem_map_of_mem present
    rw [pairs] at pair
    obtain ⟨tag, -, same⟩ := List.mem_map.mp pair
    exact (Prod.mk.inj same).1.symm
  have chosen : (tables.links.filter fun link => decide (link.articleId = .integer id)) = rows := by
    rw [all, List.filter_append, List.filter_eq_nil_iff.mpr (by simpa using others),
      List.filter_eq_self.mpr (by simpa using own), List.nil_append]
  have by_pairs : (fun link : LinkRow => (tables.tag? link.tagId).map TagRow.columns) =
      (fun pair : Cell × Cell => (tables.tag? pair.2).map TagRow.columns) ∘
        fun link => (link.articleId, link.tagId) := rfl
  rw [Tagged, tagRows, chosen, by_pairs, ← List.filterMap_map, pairs, List.filterMap_map,
    ← List.filterMap_eq_map]
  apply List.filterMap_congr
  intro tag present
  rw [Function.comp_apply, sane.tag?_eq (there tag present)]
  rfl

end Tables

/-- The article that is made of a new one. -/
def NewArticle.made (new : NewArticle) (id : Int64) (author : Author) (tags : List Tag)
    (stamp : Instant) : Article :=
  ⟨id, new.slug, new.title, new.body, author, tags, stamp, stamp, 0⟩

namespace Tables

section Publishing

variable {shown : Instant → Prop} {before tagged published after : Tables} {new : NewArticle}
  {stamp : Instant} {id : Int64} {tags : List Tag}

/-- When an article has been added and all its tags have been attached, the tables hold the article
and have gained nothing else. -/
theorem Orderly.gains_publish (orderly : before.Orderly shown) (linked : before.Linked)
    (dated : shown stamp) (slugged : new.slug ≠ "") (distinct : new.tags.Nodup)
    (asked : before.upsertTags new.tags = .ok tagged)
    (done : Tables.insertArticle [] new (.text stamp.stored) tagged = .ok (id, published))
    (named : tags.map Tag.name = new.tags) (there : ∀ tag ∈ tags, tagged.HasTag tag)
    (attached : published.attachTags id tags = .ok after) :
    nextId before.lastArticle = .ok id ∧ ∃ author : Author, author.id = new.authorId ∧
      before.Knows author ∧ before.Gains after (new.made id author tags stamp) ∧
      after.Holds (new.made id author tags stamp) := by
  have tagged_orderly := orderly.upsertTags asked
  have after_sane := (tagged_orderly.publish slugged dated done attached).toIntegrity
  have new_tags :=
    tags_of_upsertTags tagged_orderly.toIntegrity distinct asked named there
  have counted := toInt_lastTag_upsertTags asked
  have largest := Int64.toInt_le tagged.lastTag
  have many : tags.length = new.tags.length := by rw [← named, List.length_map]
  obtain ⟨all_tags, lastTag, rfl⟩ := upsertTags_eq_ok asked
  obtain ⟨next, -, known, rfl⟩ := insertArticle_eq_ok done
  obtain ⟨author, own, knows⟩ := orderly.exists_author (refers_of_account? known)
  have same_author : author.id = new.authorId := (Cell.integer.inj own).symm
  have begun : LinkedUpTo { before with
      tags := all_tags, lastTag, articles := before.articles ++ [new.row id (.text stamp.stored)]
      lastArticle := id } before.lastTag.toInt := linked.congr rfl
  have bound : Int64.maxValue.toInt = 2 ^ 63 - 1 := by decide
  dsimp only at counted largest
  have room : before.lastTag.toInt + tags.length ≤ Int64.maxValue.toInt := by omega
  obtain ⟨links, rfl, pairs, -⟩ := begun.attachTags room attached
  have row : new.row id (.text stamp.stored) = (new.made id author tags stamp).row := by
    rw [NewArticle.row, ← same_author]
    rfl
  refine ⟨next, author, same_author, knows, ⟨⟨links, lastTag, ?_, pairs⟩, ?_, ?_⟩, ?_, knows, ?_⟩
  · rw [row, new_tags]
    rfl
  · intro tag old asked_for
    obtain ⟨other, present, same⟩ := List.mem_map.mp asked_for
    have still := upsertTags_induction (fun one known => HasTag.upsertTag known one) old asked
    have same_id := (tagged_orderly.tag_ids_iff (there other present) still).mpr same
    have one : other = tag := by
      cases other
      cases tag
      exact congrArg₂ Tag.mk same_id same
    exact one ▸ present
  · rw [NewArticle.made, many]
    exact counted
  · exact List.mem_append_right _ (List.mem_singleton.mpr row.symm)
  · exact after_sane.tagged_of_links rfl (orderly.unlinked_next next) pairs there

end Publishing

end Tables

/-- Whether an article is what has been made of a new one: it has the next id, which no other article
has, its author is the account that has been named, and its tags are those that have been asked for. -/
structure NewArticle.Becomes (new : NewArticle) (db : Database) (article : Article) : Prop where
  id : nextId db.tables.lastArticle = .ok article.id
  unused : ∀ row ∈ db.tables.articles, row.id ≠ article.id
  slug : article.slug = new.slug
  title : article.title = new.title
  body : article.body = new.body
  authorId : article.author.id = new.authorId
  author : db.tables.Knows article.author
  tags : article.tagNames = new.tags
  createdAt : article.createdAt = db.clock db.readings
  updatedAt : article.updatedAt = db.clock db.readings
  deletedAtUnix : article.deletedAtUnix = 0

namespace Database

variable {db : Database} {new : NewArticle} {start : Tables}

/-- Asking for the tags of an article that has a slug, adding it and attaching the tags to it. -/
theorem insertArticle_of_slug (slugged : new.slug ≠ "") :
    insertArticle new = (do
      let tags ← new.tags.mapM saveTag
      let stamp ← now
      let id ← Engine.about (statement [.itself .articles, .referred .accounts] fun triggers =>
        Tables.insertArticle triggers new (.text stamp.stored)) articleEntity new.slug
      attachAll id tags
      findArticle new.slug) := by
  unfold insertArticle
  rw [if_neg slugged]
  rfl

/-- An article without a slug is refused before anything is done. -/
theorem run_insertArticle_of_empty (empty : new.slug = "") :
    (insertArticle new).run db =
      (.error (.invalidData ("title " ++ quoted new.title ++ " yields an empty slug")), db) := by
  unfold insertArticle
  rw [if_pos empty]
  rfl

/-- If there are not ids enough for the tags of an article, the unit of work is undone. -/
theorem run_insertArticle_of_scarce (healthy : db.Healthy) (opened : db.beforeWork = some start)
    (slugged : new.slug ≠ "")
    (scarce : Int64.maxValue.toInt < db.tables.lastTag.toInt + new.tags.length) :
    (insertArticle new).run db =
      (.error .outOfIds, { db with tables := start, beforeWork := none }) := by
  rw [insertArticle_of_slug slugged, run_bind, run_saveTags_of_full healthy opened scarce]

/-- If there are ids enough for the tags of an article, it is added next. -/
theorem run_insertArticle_of_room (healthy : db.Healthy) (slugged : new.slug ≠ "")
    (room : db.tables.lastTag.toInt + new.tags.length ≤ Int64.maxValue.toInt) :
    ∃ tagged tags, db.tables.upsertTags new.tags = .ok tagged ∧ tags.map Tag.name = new.tags ∧
      (∀ tag ∈ tags, tagged.HasTag tag) ∧
      (insertArticle new).run db =
        match Tables.insertArticle [] new (.text (db.clock db.readings).stored) tagged with
        | .ok (id, published) =>
          (attachAll id tags >>= fun _ => findArticle new.slug).run
            { db with tables := published, readings := db.readings + 1 }
        | .error refusal =>
          (.error (refusal.error.about articleEntity new.slug),
            if refusal.endsWork then
              undone { db with tables := tagged, readings := db.readings + 1 }
            else { db with tables := tagged, readings := db.readings + 1 }) := by
  obtain ⟨tagged, asked⟩ := exists_upsertTags room
  obtain ⟨tags, named, there, ran⟩ := run_saveTags healthy asked
  have still : Healthy { db with tables := tagged, readings := db.readings + 1 } :=
    ⟨healthy.triggers, healthy.missing, healthy.locked⟩
  refine ⟨tagged, tags, asked, named, there, ?_⟩
  rw [insertArticle_of_slug slugged, run_bind, ran]
  dsimp only
  rw [run_bind, run_now]
  dsimp only
  rw [run_bind, run_statement still]
  cases Tables.insertArticle [] new (.text (db.clock db.readings).stored) tagged <;> rfl

/-- When an article has been added, its tags are attached up to the first one that is repeated, and if
none is, the article is looked for. -/
theorem run_attach_published {shown : Instant → Prop} {tagged : Tables} {tags : List Tag} {id : Int64}
    {stamp : Instant} (healthy : db.Healthy) (orderly : tagged.Orderly shown) (dated : shown stamp)
    (slugged : new.slug ≠ "")
    (done : Tables.insertArticle [] new (.text stamp.stored) tagged = .ok (id, db.tables))
    (there : ∀ tag ∈ tags, tagged.HasTag tag) :
    ∃ tables, match firstRepeated? [] (tags.map Tag.name) with
      | none => db.tables.attachTags id tags = .ok tables ∧
          (attachAll id tags >>= fun _ => findArticle new.slug).run db =
            (tables.lookup new.slug, { db with tables })
      | some name =>
          (attachAll id tags >>= fun _ => findArticle new.slug).run db =
            (.error (.keyConflict tagEntity name), { db with tables }) := by
  have published : db.tables.Orderly shown :=
    ⟨orderly.toIntegrity.insertArticle slugged done, orderly.toWritten.insertArticle dated done⟩
  obtain ⟨next, -, -, same⟩ := insertArticle_eq_ok done
  have bare : db.tables.Carries id [] := by
    intro tag _
    simp only [same, List.not_mem_nil, iff_false]
    rintro ⟨link, present, to_article, -⟩
    exact orderly.unlinked_next next link present to_article
  have active : ∃ row ∈ db.tables.articles, row.id = id ∧ row.isActive := by
    rw [same]
    exact ⟨_, List.mem_append_right _ List.mem_cons_self, rfl, rfl⟩
  have still_there : ∀ tag ∈ tags, db.tables.HasTag tag := by
    rw [same]
    exact there
  obtain ⟨tables, attached⟩ := run_attachAll healthy published bare active still_there
  refine ⟨tables, ?_⟩
  cases repeated : firstRepeated? [] (tags.map Tag.name) with
  | some name =>
    rw [repeated] at attached
    dsimp only at attached ⊢
    rw [run_bind, attached]
  | none =>
    rw [repeated] at attached
    dsimp only at attached ⊢
    have still : Healthy { db with tables } := ⟨healthy.triggers, healthy.missing, healthy.locked⟩
    rw [run_bind, attached.2]
    dsimp only
    exact ⟨attached.1, run_findArticle still new.slug⟩

/-- Whether a save that has failed in a unit of work leaves this as it was at its start, with the error
that the whole transaction then answers with. -/
def Abandoned (start : Tables) (error cause : StorageError) (after : Database) : Prop :=
  error = cause ∧ after.beforeWork = some start ∨
    error = .rollbackFailed cause "cannot rollback - no transaction is active" ∧
      after.beforeWork = none ∧ after.tables = start

/-- An article is refused in a unit of work for the first reason that there is. -/
theorem run_insertArticle_of_refusal {shown : Instant → Prop} {error : StorageError}
    (healthy : db.Healthy) (orderly : db.tables.Orderly shown) (dated : shown (db.clock db.readings))
    (opened : db.beforeWork = some start) (refused : db.tables.articleRefusal? new = some error) :
    ∃ cause after, (insertArticle new).run db = (.error cause, after) ∧
      Abandoned start error cause after := by
  by_cases empty : new.slug = ""
  · rw [articleRefusal?, if_pos empty, Option.some.injEq] at refused
    exact ⟨_, _, run_insertArticle_of_empty empty, .inl ⟨refused.symm, opened⟩⟩
  by_cases scarce : Int64.maxValue.toInt < db.tables.lastTag.toInt + new.tags.length
  · rw [articleRefusal?, if_neg empty, if_pos (.inl scarce), Option.some.injEq] at refused
    exact ⟨_, _, run_insertArticle_of_scarce healthy opened empty scarce,
      .inr ⟨refused.symm, rfl, rfl⟩⟩
  obtain ⟨tagged, tags, asked, named, there, ran⟩ :=
    run_insertArticle_of_room healthy empty (Int.not_lt.mp scarce)
  have declines := insertArticle_of_refusal empty scarce asked refused
    (.text (db.clock db.readings).stored)
  cases inserted : Tables.insertArticle [] new (.text (db.clock db.readings).stored) tagged with
  | error refusal =>
    rw [inserted] at ran declines
    refine ⟨_, _, ran, ?_⟩
    rcases declines with ⟨ends, own⟩ | ⟨goes_on, own⟩
    · have back : undone { db with tables := tagged, readings := db.readings + 1 } =
          { db with tables := start, readings := db.readings + 1, beforeWork := none } :=
        undone_of_opened opened
      rw [if_pos ends, back]
      exact .inr ⟨own, rfl, rfl⟩
    · rw [if_neg goes_on]
      exact .inl ⟨own, opened⟩
  | ok added =>
    obtain ⟨id, published⟩ := added
    rw [inserted] at ran declines
    obtain ⟨name, repeated, own⟩ := declines
    have still : Healthy { db with tables := published, readings := db.readings + 1 } :=
      ⟨healthy.triggers, healthy.missing, healthy.locked⟩
    obtain ⟨tables, attached⟩ :=
      run_attach_published still (orderly.upsertTags asked) dated empty inserted there
    rw [named, repeated] at attached
    exact ⟨_, _, ran.trans attached, .inl ⟨own, opened⟩⟩

/-- An article that is not refused is added in a unit of work with all its tags, and read back. -/
theorem run_insertArticle_of_accepted {shown : Instant → Prop} (healthy : db.Healthy)
    (orderly : db.tables.Orderly shown) (linked : db.tables.Linked)
    (dated : shown (db.clock db.readings)) (accepted : db.tables.articleRefusal? new = none) :
    ∃ article tables, new.Becomes db article ∧ db.tables.Gains tables article ∧
      tables.lookup new.slug = article.reread ∧
      (insertArticle new).run db = (article.reread, { db with tables, readings := db.readings + 1 }) := by
  obtain ⟨slugged, room, -, -, -, unrepeated⟩ := of_articleRefusal?_eq_none accepted
  obtain ⟨tagged, tags, asked, named, there, ran⟩ :=
    run_insertArticle_of_room healthy slugged (Int.not_lt.mp room)
  obtain ⟨⟨id, published⟩, inserted⟩ :=
    insertArticle_of_accepted accepted asked (.text (db.clock db.readings).stored)
  have still : Healthy { db with tables := published, readings := db.readings + 1 } :=
    ⟨healthy.triggers, healthy.missing, healthy.locked⟩
  have tagged_orderly := orderly.upsertTags asked
  obtain ⟨tables, attached⟩ :=
    run_attach_published still tagged_orderly dated slugged inserted there
  rw [named, unrepeated] at attached
  obtain ⟨all_attached, looked⟩ := attached
  have distinct := (firstRepeated?_eq_none.mp unrepeated).1
  obtain ⟨next, author, own, knows, gains, held⟩ :=
    orderly.gains_publish linked dated slugged distinct asked inserted named there all_attached
  have after_orderly := tagged_orderly.publish slugged dated inserted all_attached
  have read := lookup_of_holds after_orderly.oneActive held rfl
  rw [inserted] at ran
  refine ⟨_, tables, ?_, gains, read, ran.trans (looked.trans ?_)⟩
  · exact ⟨next, fun row there => orderly.articleIds.ne_next next there, rfl, rfl, rfl, own, knows,
      named, rfl, rfl, rfl⟩
  · rw [← read]
    rfl

end Database

/-- How saving an article ends: it is refused, or it cannot be read back because of its stamp, and in
both cases the tables are as they were; or the tables have gained it, and it is found under its slug. -/
inductive NewArticle.Appears (new : NewArticle) (before : Database) :
    Except StorageError Article → Database → Prop where
  | refused {error : StorageError} {after : Database} :
      before.tables.articleRefusal? new = some error → after.tables = before.tables →
      Appears new before (.error error) after
  | unread {article : Article} {after : Database} :
      before.tables.articleRefusal? new = none → new.Becomes before article → ¬ article.IsNear →
      after.tables = before.tables → Appears new before (.error .unreadable) after
  | saved {article : Article} {after : Database} :
      before.tables.articleRefusal? new = none → new.Becomes before article → article.IsNear →
      before.tables.Gains after.tables article →
      (∀ tagBatch, ((articleRepository tagBatch).find new.slug).run.outcome after =
        (.ok (.ok article), after)) →
      Appears new before (.ok article) after

namespace Database

variable {db : Database}

/-- Saving an article in a transaction of its own on a database that can be reached. -/
theorem appears_insertArticle (reachable : db.Reachable) (new : NewArticle) :
    ∃ answer after, (transaction (insertArticle new)).run db = (answer, after) ∧
      new.Appears db answer after := by
  have healthy := reachable.orderly.toHealthy
  have inside : Healthy { db with beforeWork := some db.tables } :=
    ⟨healthy.triggers, healthy.missing, healthy.locked⟩
  have dated : ShownBy db.clock (db.clock db.readings) := ⟨_, rfl⟩
  have orderly : Tables.Orderly (ShownBy db.clock) db.tables := reachable.orderly.tables
  cases refused : db.tables.articleRefusal? new with
  | some error =>
    obtain ⟨cause, after, ran, ⟨rfl, opened⟩ | ⟨rfl, closed, back⟩⟩ :=
      run_insertArticle_of_refusal inside orderly dated rfl refused
    · refine ⟨_, _, transaction_rollback healthy.locked ran opened, .refused refused ?_⟩
      rw [undone_of_opened opened]
    · exact ⟨_, _, transaction_lost healthy.locked ran closed, .refused refused back⟩
  | none =>
    obtain ⟨article, tables, becomes, gains, looked, ran⟩ :=
      run_insertArticle_of_accepted inside orderly reachable.linked dated refused
    by_cases near : article.IsNear
    · have read : article.reread = .ok article := if_pos near
      rw [read] at ran looked
      have still : Healthy { db with tables, readings := db.readings + 1, beforeWork := none } :=
        ⟨healthy.triggers, healthy.missing, healthy.locked⟩
      refine ⟨_, _, transaction_commit healthy.locked ran rfl, .saved refused ?_ near gains ?_⟩
      · exact { becomes with }
      · intro tagBatch
        exact outcome_of_run ((run_findArticle still new.slug).trans (by rw [looked]))
    · have read : article.reread = .error .unreadable := if_neg near
      rw [read] at ran
      exact ⟨_, _, transaction_rollback healthy.locked ran rfl,
        .unread refused { becomes with } near (by rw [undone_of_opened rfl])⟩

/-- An article that there are not ids enough for is refused when it is saved. -/
theorem run_save_of_scarce {new : NewArticle} (healthy : db.Healthy) (slugged : new.slug ≠ "")
    (scarce : Int64.maxValue.toInt < db.tables.lastTag.toInt + new.tags.length) (tagBatch : Nat) :
    ∃ after, ((articleRepository tagBatch).save new).run.outcome db =
      (.ok (.error (.rollbackFailed .outOfIds "cannot rollback - no transaction is active")),
        after) := by
  have inside : Healthy { db with beforeWork := some db.tables } :=
    ⟨healthy.triggers, healthy.missing, healthy.locked⟩
  have ran := run_insertArticle_of_scarce inside rfl slugged scarce
  exact ⟨_, outcome_of_run (transaction_lost healthy.locked ran rfl)⟩

end Database

/-- What is made of a new article is read back if the clock shows no sign before the year. -/
theorem NewArticle.Becomes.near {new : NewArticle} {db : Database} {article : Article}
    (becomes : new.Becomes db article) (near : (db.clock db.readings).IsNear) : article.IsNear :=
  ⟨becomes.createdAt ▸ near, becomes.updatedAt ▸ near⟩

namespace Sample

/-- Whether an article with the slug, the tag and one of two authors is stopped by nothing but its
author or a lack of ids. -/
structure Spending (last : Int) (db : Database) : Prop extends db.Healthy where
  free : db.tables.activeWithSlug "late" = []
  more : db.tables.lastArticle ≠ Int64.maxValue
  unknown : db.tables.account? (.integer 9) = none
  known : db.tables.account? (.integer 1) ≠ none
  tag : db.tables.HasTag ⟨1, "go"⟩
  last : db.tables.lastTag.toInt = last

/-- Each article that fails uses up an id of the tags. -/
theorem Spending.perform {db : Database} {last : Int} (begun : Spending last db)
    (room : last < Int64.maxValue.toInt) :
    ∃ answer after,
      ((Step.saveArticle ⟨"late", "Late", "b", 9, ["go"]⟩).perform 100).run db = (answer, after) ∧
        after.beforeWork = db.beforeWork ∧ Spending (last + 1) after := by
  generalize article : (⟨"late", "Late", "b", 9, ["go"]⟩ : NewArticle) = new
  have slugged : new.slug ≠ "" := by rw [← article]; decide
  have one : new.tags.length = 1 := by rw [← article]; rfl
  have enough : db.tables.lastTag.toInt + new.tags.length ≤ Int64.maxValue.toInt := by
    rw [one, begun.last]
    omega
  obtain ⟨tagged, tags, asked, -, -, ran⟩ :=
    run_insertArticle_of_room begun.toHealthy slugged enough
  have refused : Tables.insertArticle [] new (.text (db.clock db.readings).stored) tagged =
      .error .dangling := by
    rw [insertArticle_upsertTags asked, if_neg begun.more, ← article,
      if_neg (not_not_intro begun.free), if_pos begun.unknown]
  rw [refused] at ran
  have counted := toInt_lastTag_upsertTags asked
  have still_there := upsertTags_induction (fun asked there => HasTag.upsertTag there asked) begun.tag
    asked
  rw [one, begun.last] at counted
  obtain ⟨known, lastTag, rfl⟩ := upsertTags_eq_ok asked
  exact ⟨_, _, ran, rfl, ⟨begun.triggers, begun.missing, begun.locked⟩, begun.free, begun.more,
    begun.unknown, begun.known, still_there, counted⟩

/-- A unit of work that is opened or committed stops nothing. -/
theorem Spending.withWork {db : Database} {last : Int} (work : Option Tables)
    (begun : Spending last db) : Spending last { db with beforeWork := work } :=
  ⟨⟨begun.triggers, begun.missing, begun.locked⟩, begun.free, begun.more, begun.unknown, begun.known,
    begun.tag, begun.last⟩

/-- A database on which a unit of work has tried to publish an article in the name of nobody so many
times. -/
def spent (count : Nat) : Database :=
  let work : Work := .repeatedly (.saveArticle ⟨"late", "Late", "b", 9, ["go"]⟩) count
  (((articleRepository 100).carryOut work).run.outcome commented).2

/-- The spent database is built by operations. -/
theorem reachable_spent (count : Nat) : (spent count).Reachable :=
  reachable_commented.article 100
    (.carryOut (.repeatedly (.saveArticle ⟨"late", "Late", "b", 9, ["go"]⟩) count))

/-- The sample has had one tag before. -/
theorem spending_commented : Spending 1 commented where
  toHealthy := reachable_commented.orderly.toHealthy
  free := by decide +kernel
  more := by decide +kernel
  unknown := by decide +kernel
  known := by decide +kernel
  tag := by
    unfold HasTag
    decide +kernel
  last := by decide +kernel

/-- As long as there are ids, every attempt has used one up. -/
theorem spending_spent (count : Nat) (room : 1 + (count : Int) ≤ Int64.maxValue.toInt) :
    Spending (1 + count) (spent count) :=
  carryOut_repeatedly Spending.perform Spending.withWork count spending_commented.locked
    spending_commented room

end Sample

namespace Database

variable {db : Database}

/-- Saving an article is refused for the first of five reasons: its slug is empty, there are not ids
enough for it and its tags, an active article has its slug, its author is no account, or one of its tags
is repeated.  Asking for a tag uses up an id even if the tag is known, so the ids may be lacking although
no tag would be added.  An article that is not refused has the next id, the account that has been named
as its author, and its tags in the order in which they have been given.  The tables gain its row, the
tags that are new and a link to each of its tags, and it is found under its slug from then on.  Unless
the article is answered with, the tables are as they were; if it has not been refused then, the clock
shows a sign before the year.  An article whose tags have been given without later repetitions is never
refused for one. -/
theorem articles_appear_or_are_refused (reachable : db.Reachable) :
    (∀ (tagBatch : Nat) (new : NewArticle), ∃ answer after,
      ((articleRepository tagBatch).save new).run.outcome db = (.ok answer, after) ∧
        new.Appears db answer after) ∧
      ((db.clock db.readings).IsNear → ∀ new article,
        NewArticle.Becomes new db article → article.IsNear) ∧
      ∀ (new : NewArticle) (names : List String),
        (new.withTags names).tags = names.eraseDups ∧ firstRepeated? [] names.eraseDups = none := by
  refine ⟨?_, fun near new article becomes => becomes.near near, ?_⟩
  · intro tagBatch new
    obtain ⟨answer, after, ran, appears⟩ := appears_insertArticle reachable new
    exact ⟨answer, after, outcome_of_run ran, appears⟩
  · intro new names
    exact ⟨NewArticle.firstOccurrences_eq names,
      firstRepeated?_eq_none.mpr ⟨nodup_eraseDups names, by simp⟩⟩

end Database

/-- On the sample an article with a new and a known tag is saved, and the known tag keeps its id. -/
theorem articles_appear_or_are_refused_commented :
    let new : NewArticle :=
      NewArticle.withTags ⟨"fresh", "Fresh", "b", 2, []⟩ ["rust", "go", "rust"]
    Sample.commented.Reachable ∧ Sample.commented.tables.articleRefusal? new = none ∧
      ∃ article after, ((articleRepository 100).save new).run.outcome Sample.commented =
          (.ok (.ok article), after) ∧
        article.tagNames = ["rust", "go"] ∧ ⟨1, "go"⟩ ∈ article.tags ∧
        ((articleRepository 100).find "fresh").run.outcome after = (.ok (.ok article), after) := by
  intro new
  have reachable := Sample.reachable_commented
  have accepted : Sample.commented.tables.articleRefusal? new = none := by decide +kernel
  have near : (Sample.commented.clock Sample.commented.readings).IsNear := by decide +kernel
  have known := Sample.spending_commented.tag
  -- nothing else of the sample matters
  generalize Sample.commented = db at reachable accepted near known ⊢
  obtain ⟨saves, reads, -⟩ := Database.articles_appear_or_are_refused reachable
  obtain ⟨answer, after, ran, appears⟩ := saves 100 new
  refine ⟨reachable, accepted, ?_⟩
  cases appears with
  | refused refused => cases accepted.symm.trans refused
  | unread _ becomes far => exact absurd (reads near new _ becomes) far
  | saved _ becomes _ gains found =>
    have names : _ = ["rust", "go"] := becomes.tags
    refine ⟨_, after, ran, names, ?_, found 100⟩
    exact gains.reused ⟨1, "go"⟩ known (by rw [names]; decide)

/-- When all ids of tags have been given out, an article is refused although its slug is free, its author
is an account and its only tag is known. -/
theorem articles_not_appear_or_are_refused :
    let db := Sample.spent 9223372036854775806
    let new : NewArticle := ⟨"late", "Late", "b", 1, ["go"]⟩
    db.Reachable ∧ db.tables.activeWithSlug new.slug = [] ∧
      db.tables.account? (.integer new.authorId) ≠ none ∧ db.tables.HasTag ⟨1, "go"⟩ ∧
      ∃ after, ((articleRepository 100).save new).run.outcome db =
        (.ok (.error (.rollbackFailed (.queryFailed "database or disk is full")
          "cannot rollback - no transaction is active")), after) := by
  intro db new
  have largest : Int64.maxValue.toInt = 1 + ((9223372036854775806 : Nat) : Int) := by decide
  have spent : Sample.Spending (1 + ((9223372036854775806 : Nat) : Int)) db :=
    Sample.spending_spent 9223372036854775806 largest.symm.le
  have reachable : db.Reachable := Sample.reachable_spent 9223372036854775806
  have scarce : Int64.maxValue.toInt < db.tables.lastTag.toInt + new.tags.length := by
    rw [spent.last, largest]
    exact Int.lt_succ _
  obtain ⟨after, ran⟩ := run_save_of_scarce spent.toHealthy (by decide) scarce 100
  exact ⟨reachable, spent.free, spent.known, spent.tag, after, ran⟩

end Gazette
