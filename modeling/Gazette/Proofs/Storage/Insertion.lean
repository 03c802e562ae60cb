import Mathlib.Data.List.Basic
import Mathlib.Data.List.Nodup
import Gazette.Proofs.Storage.Links
import Gazette.Proofs.Storage.Records

/-!
# The statements that save an article

Tags are asked for, the article is added, and the tags are attached to it.  Here it is told of each
part what it does on a healthy database in a unit of work: under which condition on the tables and the
article it goes through, and with what error it stops otherwise.
-/

set_option autoImplicit false

namespace Gazette

open Tables Session Database

/-- The first of some texts that is among those before it or has been seen already. -/
def firstRepeated? (seen : List String) : List String → Option String
  | [] => none
  | name :: names => if name ∈ seen then some name else firstRepeated? (name :: seen) names

/-- No text is repeated if they are all different. -/
theorem firstRepeated?_eq_none {seen names : List String} :
    firstRepeated? seen names = none ↔ names.Nodup ∧ ∀ name ∈ names, name ∉ seen := by
  induction names generalizing seen with
  | nil => simp [firstRepeated?]
  | cons name names ih =>
    unfold firstRepeated?
    by_cases again : name ∈ seen
    · simp [again]
    · rw [if_neg again, ih, List.nodup_cons, List.forall_mem_cons]
      constructor
      · rintro ⟨distinct, others⟩
        refine ⟨⟨fun there => others name there List.mem_cons_self, distinct⟩, again, ?_⟩
        exact fun other there old => others other there (List.mem_cons_of_mem _ old)
      · rintro ⟨⟨new, distinct⟩, -, others⟩
        refine ⟨distinct, fun other there old => ?_⟩
        rcases List.mem_cons.mp old with rfl | old
        · exact new there
        · exact others other there old

namespace Tables

variable {tables before after : Tables} {name : String} {names : List String}

section Tags

/-- A tag is refused for lack of ids only. -/
theorem upsertTag_eq_full (full : tables.lastTag = Int64.maxValue) :
    upsertTag [] name tables = .error .full := by
  rw [upsertTag, Trigger.fire_nil, nextId, if_pos full]
  rfl

/-- A tag can be asked for as long as there are ids. -/
theorem exists_upsertTag (name : String) (room : tables.lastTag ≠ Int64.maxValue) :
    ∃ after, upsertTag [] name tables = .ok after := by
  cases made : upsertTag [] name tables with
  | ok after => exact ⟨after, rfl⟩
  | error refusal =>
    simp only [upsertTag, Trigger.fire_nil, bind_error_iff] at made
    rcases made with never | ⟨-, -, unnumbered | ⟨id, -, never⟩⟩
    · cases never
    · exact absurd (nextId_error unnumbered).2 room
    · split at never <;> exact (pure_ne_error never).elim

/-- All tags of a list are there after they have been asked for, if there are ids enough. -/
theorem exists_upsertTags (room : tables.lastTag.toInt + names.length ≤ Int64.maxValue.toInt) :
    ∃ after, tables.upsertTags names = .ok after := by
  induction names generalizing tables with
  | nil => exact ⟨tables, rfl⟩
  | cons name names ih =>
    rw [List.length_cons, Nat.cast_succ] at room
    have more : tables.lastTag ≠ Int64.maxValue := by
      intro full
      rw [full] at room
      omega
    obtain ⟨between, first⟩ := exists_upsertTag name more
    have one := toInt_lastTag_upsertTag first
    obtain ⟨after, rest⟩ : ∃ after, between.upsertTags names = .ok after := ih (by omega)
    exact ⟨after, upsertTags_cons.mpr ⟨between, first, rest⟩⟩

/-- If no tag is asked for twice, those are added that there have not been, in the order in which they
are asked for. -/
theorem upsertTags_added (distinct : names.Nodup) (done : before.upsertTags names = .ok after) :
    ∃ rows, after.tags = before.tags ++ rows ∧ rows.map TagRow.name =
      (names.filter fun name => Cell.text name ∉ before.tags.map TagRow.name).map Cell.text := by
  induction names generalizing before with
  | nil =>
    cases done
    exact ⟨[], by rw [List.append_nil], rfl⟩
  | cons first names ih =>
    obtain ⟨new, others⟩ := List.nodup_cons.mp distinct
    obtain ⟨between, asked, rest⟩ := upsertTags_cons.mp done
    obtain ⟨rows, added, named⟩ := ih others rest
    obtain ⟨id, -, ⟨⟨row, there, same⟩, rfl⟩ | ⟨unknown, rfl⟩⟩ := upsertTag_eq_ok asked
    · refine ⟨rows, added, ?_⟩
      have known : Cell.text first ∈ before.tags.map TagRow.name := List.mem_map.mpr ⟨row, there, same⟩
      rw [named, List.filter_cons_of_neg (by simpa using known)]
    · refine ⟨⟨id, .text first⟩ :: rows, ?_, ?_⟩
      · rw [added, List.append_assoc, List.singleton_append]
      have absent : Cell.text first ∉ before.tags.map TagRow.name := by
        intro there
        obtain ⟨row, present, same⟩ := List.mem_map.mp there
        exact unknown row present same
      rw [List.map_cons, named, List.filter_cons_of_pos (by simpa using absent), List.map_cons]
      congr 2
      apply List.filter_congr
      intro name there
      have apart : name ≠ first := fun same => new (same ▸ there)
      simp [apart]

/-- Of two tags in the tables the ids are the same if the names are. -/
theorem Integrity.tag_ids_iff (sane : tables.Integrity) {first second : Tag}
    (there : tables.HasTag first) (also_there : tables.HasTag second) :
    first.id = second.id ↔ first.name = second.name := by
  constructor
  · intro same
    have one : (⟨first.id, .text first.name⟩ : TagRow) = ⟨second.id, .text second.name⟩ :=
      sane.tagIds.eq_of_id there also_there same
    exact Cell.text.inj (TagRow.mk.inj one).2
  · intro same
    have one : (⟨first.id, .text first.name⟩ : TagRow) = ⟨second.id, .text second.name⟩ :=
      List.inj_on_of_nodup_map sane.tagNames there also_there (congrArg Cell.text same)
    exact (TagRow.mk.inj one).1

end Tags

section Articles

variable {new : NewArticle} {stamp : Cell}

/-- The tables with an article more, which has the next id. -/
def withArticle (tables : Tables) (new : NewArticle) (stamp : Cell) : Tables :=
  { tables with
    articles := tables.articles ++ [new.row (tables.lastArticle + 1) stamp]
    lastArticle := tables.lastArticle + 1 }

/-- An article is refused for lack of ids, or else for its slug, or else for its author, and is added
otherwise. -/
theorem insertArticle_eq (tables : Tables) (new : NewArticle) (stamp : Cell) :
    insertArticle [] new stamp tables =
      if tables.lastArticle = Int64.maxValue then .error .full
      else if tables.activeWithSlug new.slug ≠ [] then .error .taken
      else if tables.account? (.integer new.authorId) = none then .error .dangling
      else .ok (tables.lastArticle + 1, tables.withArticle new stamp) := by
  unfold insertArticle nextId
  rw [Trigger.fire_nil]
  by_cases full : tables.lastArticle = Int64.maxValue
  · rw [if_pos full, if_pos full]
    rfl
  · rw [if_neg full, if_neg full]
    by_cases taken : tables.activeWithSlug new.slug ≠ []
    · rw [if_pos taken]
      simp only [bind, Except.bind, pure, Except.pure, if_pos taken]
      rfl
    · rw [if_neg taken]
      simp only [bind, Except.bind, pure, Except.pure, if_neg taken]
      cases tables.account? (.integer new.authorId) <;> rfl

end Articles

section Links

variable {id : Int64} {tag : Tag} {seen : List String}

/-- Whether the tags that are attached to an article are those with the given names. -/
def Carries (tables : Tables) (id : Int64) (seen : List String) : Prop :=
  ∀ tag : Tag, tables.HasTag tag →
    ((∃ link ∈ tables.links, link.articleId = .integer id ∧ link.tagId = .integer tag.id) ↔
      tag.name ∈ seen)

/-- A tag that the article carries already is refused. -/
theorem insertLink_of_carried (carries : tables.Carries id seen) (there : tables.HasTag tag)
    (again : tag.name ∈ seen) : insertLink [] id tag.id tables = .error .takenKey := by
  obtain ⟨link, present, to_article, to_tag⟩ := (carries tag there).mpr again
  cases made : insertLink [] id tag.id tables with
  | ok after => exact absurd to_tag ((insertLink_eq_ok made).1 link present to_article)
  | error refusal =>
    unfold insertLink at made
    have taken : (tables.links.any fun other => decide (other.articleId = .integer id) &&
        decide (other.tagId = .integer tag.id)) = true :=
      List.any_eq_true.mpr ⟨link, present, by simp [to_article, to_tag]⟩
    simp only [Trigger.fire_nil, bind, Except.bind, taken, if_true] at made
    exact made.symm

/-- A tag that the article does not carry yet is attached. -/
theorem insertLink_of_new (sane : tables.Integrity) (carries : tables.Carries id seen)
    (article : ∃ row ∈ tables.articles, row.id = id) (there : tables.HasTag tag)
    (new : tag.name ∉ seen) :
    ∃ after, insertLink [] id tag.id tables = .ok after ∧ after.Carries id (tag.name :: seen) := by
  cases made : insertLink [] id tag.id tables with
  | error refusal =>
    rcases insertLink_error made with ⟨-, link, present, to_article, to_tag⟩ | ⟨-, missing⟩
    · exact absurd ((carries tag there).mp ⟨link, present, to_article, to_tag⟩) new
    · rcases missing with no_article | no_tag
      · obtain ⟨row, present, same⟩ := article
        exact absurd same (no_article row present)
      · rw [sane.tag?_eq there] at no_tag
        cases no_tag
  | ok after =>
    obtain ⟨-, -, -, rfl⟩ := insertLink_eq_ok made
    refine ⟨_, rfl, fun other present => ?_⟩
    have other_there : tables.HasTag other := present
    rw [List.mem_cons, ← carries other other_there, ← sane.tag_ids_iff other_there there]
    constructor
    · rintro ⟨link, placed, to_article, to_tag⟩
      rcases mem_place placed with rfl | old
      · exact .inl (Cell.integer.inj to_tag).symm
      · exact .inr ⟨link, old, to_article, to_tag⟩
    · rintro (same | ⟨link, old, to_article, to_tag⟩)
      · exact ⟨_, (place_perm _ _ _).mem_iff.mpr List.mem_cons_self, rfl, by rw [same]⟩
      · exact ⟨link, (place_perm _ _ _).mem_iff.mpr (List.mem_cons_of_mem _ old), to_article,
          to_tag⟩

end Links

end Tables

namespace Database

variable {db : Database} {start : Tables} {names : List String} {id : Int64}

/-- A unit of work that is undone. -/
theorem undone_of_opened (opened : db.beforeWork = some start) :
    db.undone = { db with tables := start, beforeWork := none } := by
  rw [undone, opened]

/-- What a statement that gives no value does on a healthy database. -/
theorem run_execute (healthy : db.Healthy) (needs : List Need) (entity id : String)
    (change : List Trigger → Tables → Except Refusal Tables) :
    (Engine.about (execute needs change) entity id).run db =
      match change [] db.tables with
      | .ok tables => (.ok (), { db with tables })
      | .error refusal =>
        (.error (refusal.error.about entity id), if refusal.endsWork then db.undone else db) := by
  rw [execute, run_statement healthy]
  cases change [] db.tables <;> rfl

/-- A tag is read as soon as it has been asked for. -/
theorem run_saveTag {name : String} {tables : Tables} (healthy : db.Healthy)
    (asked : upsertTag [] name db.tables = .ok tables) :
    ∃ tag : Tag, tag.name = name ∧ tables.HasTag tag ∧
      (saveTag name).run db = (.ok tag, { db with tables }) := by
  have known : ∃ row ∈ tables.tags, row.name = .text name := by
    obtain ⟨id, -, ⟨there, rfl⟩ | ⟨-, rfl⟩⟩ := upsertTag_eq_ok asked
    · exact there
    · exact ⟨_, List.mem_append_right _ List.mem_cons_self, rfl⟩
  obtain ⟨tag, read, named, there⟩ := read_tag known
  have still : Healthy { db with tables } := ⟨healthy.triggers, healthy.missing, healthy.locked⟩
  refine ⟨tag, named, there, ?_⟩
  unfold saveTag
  rw [run_bind, run_execute healthy, asked]
  dsimp only
  rw [run_query still, read]
  rfl

/-- A tag that is asked for in vain ends the unit of work. -/
theorem run_saveTag_of_full {name : String} (healthy : db.Healthy)
    (full : db.tables.lastTag = Int64.maxValue) :
    (saveTag name).run db = (.error .outOfIds, db.undone) := by
  unfold saveTag
  rw [run_bind, run_execute healthy, upsertTag_eq_full full]
  rfl

/-- All tags of a list are read as soon as they have been asked for. -/
theorem run_saveTags {tables : Tables} (healthy : db.Healthy)
    (asked : db.tables.upsertTags names = .ok tables) :
    ∃ tags : List Tag, tags.map Tag.name = names ∧ (∀ tag ∈ tags, tables.HasTag tag) ∧
      (names.mapM saveTag).run db = (.ok tags, { db with tables }) := by
  induction names generalizing db with
  | nil =>
    cases asked
    exact ⟨[], rfl, by simp, rfl⟩
  | cons name names ih =>
    obtain ⟨between, first, rest⟩ := upsertTags_cons.mp asked
    obtain ⟨tag, named, there, ran⟩ := run_saveTag healthy first
    have still : Healthy { db with tables := between } :=
      ⟨healthy.triggers, healthy.missing, healthy.locked⟩
    obtain ⟨tags, all_named, all_there, ran_rest⟩ := ih still rest
    refine ⟨tag :: tags, by rw [List.map_cons, named, all_named], ?_, ?_⟩
    · exact List.forall_mem_cons.mpr
        ⟨upsertTags_induction (fun one old => HasTag.upsertTag old one) there rest, all_there⟩
    · rw [List.mapM_cons, run_bind, ran]
      dsimp only
      rw [run_bind, ran_rest]
      rfl

/-- If there are not ids enough for all tags of a list, the unit of work is undone. -/
theorem run_saveTags_of_full (healthy : db.Healthy) (opened : db.beforeWork = some start)
    (scarce : Int64.maxValue.toInt < db.tables.lastTag.toInt + names.length) :
    (names.mapM saveTag).run db =
      (.error .outOfIds, { db with tables := start, beforeWork := none }) := by
  induction names generalizing db with
  | nil =>
    have given := Int64.toInt_le db.tables.lastTag
    have largest : Int64.maxValue.toInt = 2 ^ 63 - 1 := by decide
    rw [List.length_nil, Nat.cast_zero] at scarce
    omega
  | cons name names ih =>
    rw [List.mapM_cons, run_bind]
    by_cases full : db.tables.lastTag = Int64.maxValue
    · rw [run_saveTag_of_full healthy full, undone_of_opened opened]
    · obtain ⟨between, first⟩ := exists_upsertTag name full
      obtain ⟨tag, -, -, ran⟩ := run_saveTag healthy first
      have one := toInt_lastTag_upsertTag first
      have still : Healthy { db with tables := between } :=
        ⟨healthy.triggers, healthy.missing, healthy.locked⟩
      rw [List.length_cons, Nat.cast_succ] at scarce
      have rest := ih still opened (by dsimp only; omega)
      rw [ran]
      dsimp only
      rw [run_bind, rest]

/-- Attaching some tags to an article one after the other. -/
def attachAll (articleId : Int64) (tags : List Tag) : Session Database PUnit :=
  forIn tags PUnit.unit fun tag _ => do
    Engine.about (execute [.itself .articleTags, .referred .tags, .referred .articles]
      fun triggers => Tables.insertLink triggers articleId tag.id) tagEntity tag.name
    pure (ForInStep.yield PUnit.unit)

/-- The tags are attached up to the first one that the article carries already. -/
theorem run_attachAll {tags : List Tag} {seen : List String} {shown : Instant → Prop}
    (healthy : db.Healthy) (orderly : db.tables.Orderly shown) (carries : db.tables.Carries id seen)
    (article : ∃ row ∈ db.tables.articles, row.id = id ∧ row.isActive)
    (there : ∀ tag ∈ tags, db.tables.HasTag tag) :
    ∃ tables, match firstRepeated? seen (tags.map Tag.name) with
      | none => db.tables.attachTags id tags = .ok tables ∧
          (attachAll id tags).run db = (.ok PUnit.unit, { db with tables })
      | some name =>
          (attachAll id tags).run db = (.error (.keyConflict tagEntity name), { db with tables }) := by
  induction tags generalizing db seen with
  | nil => exact ⟨db.tables, rfl, rfl⟩
  | cons tag tags ih =>
    have own := there tag List.mem_cons_self
    have first : (attachAll id (tag :: tags)).run db =
        (match (Engine.about (execute [.itself .articleTags, .referred .tags, .referred .articles]
            fun triggers => Tables.insertLink triggers id tag.id) tagEntity tag.name).run db with
          | (.ok _, after) => (attachAll id tags).run after
          | (.error error, after) => (.error error, after)) := by
      unfold attachAll
      rw [List.forIn_cons, run_bind, run_bind]
      cases (Engine.about (execute [.itself .articleTags, .referred .tags, .referred .articles]
        fun triggers => Tables.insertLink triggers id tag.id) tagEntity tag.name).run db with
      | mk result after => cases result <;> rfl
    rw [first, run_execute healthy, List.map_cons, firstRepeated?]
    by_cases again : tag.name ∈ seen
    · rw [if_pos again, insertLink_of_carried carries own again]
      exact ⟨db.tables, rfl⟩
    · obtain ⟨row, present, same_id, active⟩ := article
      obtain ⟨between, done, still_carries⟩ :=
        insertLink_of_new orderly.toIntegrity carries ⟨row, present, same_id⟩ own again
      have still_orderly : between.Orderly shown :=
        ⟨orderly.toIntegrity.insertLink ⟨row, present, same_id, active⟩ done,
          orderly.toWritten.insertLink done⟩
      have same_tables := (insertLink_eq_ok done).2.2.2
      have still : Healthy { db with tables := between } :=
        ⟨healthy.triggers, healthy.missing, healthy.locked⟩
      obtain ⟨tables, rest⟩ := ih still still_orderly still_carries
        ⟨row, same_tables ▸ present, same_id, active⟩
        (fun other old => same_tables ▸ there other (List.mem_cons_of_mem _ old))
      refine ⟨tables, ?_⟩
      rw [if_neg again, done]
      dsimp only at rest ⊢
      cases repeated : firstRepeated? (tag.name :: seen) (tags.map Tag.name) with
      | some name =>
        rw [repeated] at rest
        exact rest
      | none =>
        rw [repeated] at rest
        refine ⟨?_, rest.2⟩
        unfold attachTags
        rw [List.foldlM_cons, bind_ok_iff]
        exact ⟨between, done, rest.1⟩

end Database

end Gazette
