import Mathlib.Data.List.Basic
import Gazette.Proofs.Storage.Publishing
import Gazette.Proofs.Text.Slugs

/-!
# Titles without a slug

An article is saved under the slug of its title.  A title in which no letter and no digit is shown
has the empty slug, and its article is refused for this; every other failure of a save is one that
the engine reports, in whatever circumstances the database is.
-/

set_option autoImplicit false

namespace Gazette

open Session Database

/-- The refusal of an article whose title has no slug. -/
def StorageError.emptySlug (title : String) : StorageError :=
  .invalidData ("title " ++ quoted title ++ " yields an empty slug")

/-- Whether an error is one that the engine has reported about something. -/
def StorageError.IsReported (error : StorageError) : Prop :=
  ∃ entity id engine, error = EngineError.about entity id engine

/-- What the engine reports is never that a slug is empty. -/
theorem StorageError.not_isReported_emptySlug (title : String) :
    ¬ (emptySlug title).IsReported := by
  rintro ⟨entity, id, engine, same⟩
  unfold emptySlug EngineError.about at same
  split at same
  · split at same
    · cases same
    · split at same
      · have begins := congrArg (fun text => text.toList.head?) (StorageError.invalidData.inj same)
        simp at begins
      · split at same <;> cases same
  · cases same
  · cases same

namespace Session

variable {α β γ : Type}

/-- A session that fails with errors of the engine only. -/
def FailsAsReported (session : Session Database α) : Prop :=
  ∀ (db : Database) (error : StorageError), (session.run db).1 = .error error → error.IsReported

/-- An operation of the engine fails with what the engine reports. -/
theorem failsAsReported_about (operation : Engine α) (entity id : String) :
    FailsAsReported (operation.about entity id) := by
  intro db error failed
  rw [Engine.run_about] at failed
  cases ran : (operation.run db).1 with
  | ok value =>
    rw [ran] at failed
    cases failed
  | error engine =>
    rw [ran] at failed
    cases failed
    exact ⟨entity, id, engine, rfl⟩

/-- A session that only answers does not fail. -/
theorem failsAsReported_pure (value : α) : FailsAsReported (pure value : Session Database α) :=
  fun _ _ => nofun

/-- Reading the clock does not fail. -/
theorem failsAsReported_now : FailsAsReported Database.now :=
  fun _ _ => nofun

/-- Two sessions one after the other fail with errors of the engine only, if each of them does. -/
theorem failsAsReported_bind {session : Session Database β} {next : β → Session Database α}
    (first : FailsAsReported session) (second : ∀ value, FailsAsReported (next value)) :
    FailsAsReported (session >>= next) := by
  intro db error failed
  rw [run_bind] at failed
  rcases ran : session.run db with ⟨cause | value, after⟩
  · rw [ran] at failed
    cases failed
    exact first db error (by rw [ran])
  · rw [ran] at failed
    exact second value after error failed

/-- A session for each item fails with errors of the engine only, if each of them does. -/
theorem failsAsReported_mapM {session : γ → Session Database α} {items : List γ}
    (each : ∀ item, FailsAsReported (session item)) : FailsAsReported (items.mapM session) := by
  induction items with
  | nil => exact failsAsReported_pure []
  | cons item items ih =>
    rw [List.mapM_cons]
    exact failsAsReported_bind (each item) fun value =>
      failsAsReported_bind ih fun values => failsAsReported_pure (value :: values)

end Session

namespace Database

variable {db : Database} {new : NewArticle}

/-- Asking for a tag fails with errors of the engine only. -/
theorem failsAsReported_saveTag (name : String) : FailsAsReported (saveTag name) :=
  failsAsReported_bind (failsAsReported_about _ _ _) fun _ => failsAsReported_about _ _ _

/-- Attaching tags fails with errors of the engine only. -/
theorem failsAsReported_attachAll (id : Int64) (tags : List Tag) :
    FailsAsReported (attachAll id tags) := by
  induction tags with
  | nil => exact failsAsReported_pure PUnit.unit
  | cons tag tags ih =>
    unfold attachAll at ih ⊢
    rw [List.forIn_cons]
    exact failsAsReported_bind
      (failsAsReported_bind (failsAsReported_about _ _ _) fun _ => failsAsReported_pure _)
      fun step => match step with
        | .done value => failsAsReported_pure value
        | .yield _ => ih

/-- The lookup of an article fails with errors of the engine only. -/
theorem failsAsReported_findArticle (slug : String) : FailsAsReported (findArticle slug) :=
  failsAsReported_bind (failsAsReported_about _ _ _) fun _ =>
    failsAsReported_bind (failsAsReported_about _ _ _) fun _ => failsAsReported_pure _

/-- An article that has a slug is saved, or the engine reports a failure. -/
theorem failsAsReported_insertArticle (slugged : new.slug ≠ "") :
    FailsAsReported (insertArticle new) := by
  rw [insertArticle_of_slug slugged]
  exact failsAsReported_bind (failsAsReported_mapM failsAsReported_saveTag) fun tags =>
    failsAsReported_bind failsAsReported_now fun stamp =>
      failsAsReported_bind (failsAsReported_about _ _ _) fun id =>
        failsAsReported_bind (failsAsReported_attachAll id tags) fun _ =>
          failsAsReported_findArticle new.slug

/-- A transaction that fails with an error about its data fails as its session does. -/
theorem run_eq_invalidData {α : Type} {session : Session Database α} {text : String}
    (failed : ((transaction session).run db).1 = .error (.invalidData text)) :
    (session.run { db with beforeWork := some db.tables }).1 = .error (.invalidData text) := by
  obtain ⟨body, reports, through⟩ := run_transaction session
  have inside := reports { db with beforeWork := some db.tables }
  rw [through] at failed
  unfold unitOfWork at failed
  rw [inside] at failed
  split at failed
  · cases failed
  · cases ran : (session.run { db with beforeWork := some db.tables }).1 with
    | ok value =>
      rw [ran] at failed
      dsimp only at failed
      split at failed <;> cases failed
    | error cause =>
      rw [ran] at failed
      dsimp only at failed
      split at failed
      · exact failed
      · cases failed

/-- Saving an article in a transaction of its own is refused for the empty slug only if the slug is
empty. -/
theorem slug_of_run_save
    (failed : ((transaction (insertArticle new)).run db).1 = .error (.emptySlug new.title)) :
    new.slug = "" := by
  by_contra slugged
  exact StorageError.not_isReported_emptySlug new.title
    (failsAsReported_insertArticle slugged _ _ (run_eq_invalidData failed))

/-- An article with an empty slug is refused for this if the transaction can be started. -/
theorem run_save_of_empty (unlocked : db.locked = false) (empty : new.slug = "") :
    ((transaction (insertArticle new)).run db).1 = .error (.emptySlug new.title) := by
  rw [transaction_rollback unlocked (run_insertArticle_of_empty empty) rfl]
  rfl

end Database

/-- Slugs are canonical, whatever stands for the characters outside ASCII.  The slug of a title
consists of words of lower-case letters and digits joined by single hyphens, with no hyphen at
either end, and it has the letters and digits of the spelled title in their order.  It is its own
slug.  Separators before and behind a title do not change its slug, nor does it matter which separators
stand inside, as long as some do.  The slug is empty just if no character of the title is or is
rendered with a letter or a digit, and it is just then that an article with this title and slug is
refused for its empty slug, whatever the database holds, unless it is locked and refuses every
article for that. -/
theorem slugs_canonical (rendering : Char → Option String) (title : String) :
    slugify = slugifyBy Transliteration.ascii? ∧
      Slug.IsCanonical (slugifyBy rendering title) ∧
      ((slugifyBy rendering title).toList.head? ≠ some '-' ∧
        (slugifyBy rendering title).toList.getLast? ≠ some '-') ∧
      (slugifyBy rendering title).toList.filter (· ≠ '-') =
        ((Slug.spelling rendering title).filter Slug.keeps).map Char.toLower ∧
      slugifyBy rendering (slugifyBy rendering title) = slugifyBy rendering title ∧
      (∀ gap, Slug.IsGap gap → slugifyBy rendering (gap ++ title) = slugifyBy rendering title ∧
        slugifyBy rendering (title ++ gap) = slugifyBy rendering title) ∧
      (∀ front back gap other, gap ≠ "" → other ≠ "" → Slug.IsGap gap → Slug.IsGap other →
        title = front ++ gap ++ back →
        slugifyBy rendering (front ++ other ++ back) = slugifyBy rendering title) ∧
      (slugifyBy rendering title = "" ↔ ¬ ∃ c ∈ title.toList, Slug.Shows rendering c) ∧
      ∀ (db : Database) (tagBatch : Nat) (body : String) (authorId : Int64),
        let new := (NewArticle.ofTitle title body authorId).withSlug (slugifyBy rendering title)
        let refused := ∃ after, ((articleRepository tagBatch).save new).run.outcome db =
          (.ok (.error (.invalidData ("title " ++ quoted title ++ " yields an empty slug"))), after)
        (refused → slugifyBy rendering title = "") ∧
          (db.locked = false → (refused ↔ slugifyBy rendering title = "")) := by
  have canonical := isCanonical_slugifyBy rendering title
  refine ⟨slugify_eq, canonical, ends_of_isCanonical canonical, ?_,
    slugifyBy_of_isCanonical canonical, ?_, ?_, slugifyBy_eq_empty, ?_⟩
  · rw [slugifyBy, String.toList_ofList]
    exact Slug.filter_ofSpelling _
  · intro gap separates
    exact ⟨slugifyBy_gap_append separates, slugifyBy_append_gap separates⟩
  · rintro front back gap other some_gap some_other separates other_separates rfl
    exact slugifyBy_append_gap_append front back some_other other_separates some_gap separates
  · intro db tagBatch body authorId new refused
    have saved : ((articleRepository tagBatch).save new).run.outcome db =
        (.ok ((transaction (insertArticle new)).run db).1,
          ((transaction (insertArticle new)).run db).2) := outcome_of_run rfl
    have slugless : refused → slugifyBy rendering title = "" := by
      rintro ⟨after, ended⟩
      rw [saved] at ended
      exact slug_of_run_save (Except.ok.inj (Prod.mk.inj ended).1)
    refine ⟨slugless, fun unlocked => ⟨slugless, fun empty => ?_⟩⟩
    refine ⟨((transaction (insertArticle new)).run db).2, ?_⟩
    rw [saved, run_save_of_empty unlocked empty]
    rfl

/-- The separators of a title with letters outside ASCII are changed, and its slug stays.  A title
of separators has none, and its article is refused by an empty database. -/
theorem slugs_canonical_accented :
    Slug.IsGap " -- " ∧ Slug.IsGap "/" ∧ slugify "Crème -- brûlée!" = "creme-brulee" ∧
      slugify "Crème/brûlée!" = "creme-brulee" ∧ Sample.database.locked = false ∧
      ∃ after,
        ((articleRepository 100).save (.ofTitle "!!! ???" "b" 1)).run.outcome Sample.database =
          (.ok (.error (.invalidData ("title " ++ quoted "!!! ???" ++ " yields an empty slug"))),
            after) := by
  have spaced : Slug.IsGap " -- " := by simp [Slug.IsGap, Slug.keeps]
  have slashed : Slug.IsGap "/" := by simp [Slug.IsGap, Slug.keeps]
  have slug : slugify "Crème -- brûlée!" = "creme-brulee" := by decide +kernel
  have none_shown : slugify "!!! ???" = "" := by decide +kernel
  obtain ⟨-, -, -, -, -, -, changed, -⟩ :=
    slugs_canonical Transliteration.ascii? "Crème -- brûlée!"
  obtain ⟨-, -, -, -, -, -, -, -, refused⟩ := slugs_canonical Transliteration.ascii? "!!! ???"
  have still := changed "Crème" "brûlée!" " -- " "/" (by decide) (by decide) spaced slashed rfl
  exact ⟨spaced, slashed, slug, still.trans slug, rfl,
    ((refused Sample.database 100 "b" 1).2 rfl).mpr none_shown⟩

end Gazette
