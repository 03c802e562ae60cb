import Mathlib.Data.List.Basic
import Gazette.Proofs.Storage.Transactions
import Gazette.Storage.Repository

/-!
# What deleting an article leaves

The tables hold at most one active article with a slug, and saving and deleting articles keep it so.
After an article has been deleted there is no active one with its slug, and a lookup says so.
-/

set_option autoImplicit false

namespace Gazette

open Tables Session Database

namespace Tables

variable {tables before after : Tables} {slug : String}

/-- There is at most one active article with a slug. -/
def OneActive (tables : Tables) : Prop :=
  ∀ slug, (tables.activeWithSlug slug).length ≤ 1

/-- Two active articles with a slug are one. -/
theorem OneActive.eq (one : OneActive tables) {first second : ArticleRow}
    (there : first ∈ tables.activeWithSlug slug)
    (also_there : second ∈ tables.activeWithSlug slug) : first = second := by
  have short := one slug
  generalize tables.activeWithSlug slug = rows at short there also_there
  match rows with
  | [] => cases there
  | [row] => rw [List.mem_singleton.mp there, List.mem_singleton.mp also_there]
  | _ :: _ :: _ => simp at short

/-- Saving an article keeps it so, since it is refused if there is one with the slug. -/
theorem OneActive.insertArticle {triggers : List Trigger} {article : NewArticle} {stamp : Cell}
    {id : Int64} (one : OneActive before)
    (done : Tables.insertArticle triggers article stamp before = .ok (id, after)) :
    OneActive after := by
  simp only [Tables.insertArticle, bind_ok_iff, unless_ok_iff, pure_ok_iff, Prod.mk.injEq] at done
  obtain ⟨-, -, given, -, free, -, rfl, rfl⟩ := done
  have free : before.activeWithSlug article.slug = [] := Decidable.not_not.mp free
  intro slug
  have there := one slug
  unfold activeWithSlug at free there ⊢
  rw [List.filter_append, List.length_append]
  by_cases same : slug = article.slug
  · rw [same, free, List.length_nil, Nat.zero_add]
    exact List.length_filter_le _ _
  · have other : Cell.text article.slug ≠ .text slug := fun h => same (Cell.text.inj h).symm
    rw [List.filter_singleton]
    simp [other, there]

/-- Deleting keeps it so. -/
theorem OneActive.removes (one : OneActive before) (removes : Removes before after) :
    OneActive after :=
  fun slug => Nat.le_trans (removes.articles slug) (one slug)

/-- What is gone stays so. -/
theorem gone_of_removes (gone : before.activeWithSlug slug = []) (removes : Removes before after) :
    after.activeWithSlug slug = [] := by
  have fewer := removes.articles slug
  rw [gone] at fewer
  exact List.length_eq_zero_iff.mp (Nat.le_zero.mp fewer)

/-- A lookup for a slug without an active article. -/
theorem lookup_of_gone (gone : tables.activeWithSlug slug = []) :
    tables.lookup slug = .error (.notFound articleEntity slug) := by
  unfold lookup
  rw [gone]
  rfl

/-- After an article has been marked with a date there is no active one with its slug. -/
theorem gone_of_tombstone {triggers : List Trigger} {authorId id : Int64} {unix stamp : Cell}
    (one : OneActive tables) (dated : unix ≠ .integer 0)
    (done : tombstoneArticle triggers authorId slug unix stamp tables = .ok (some id, after)) :
    after.activeWithSlug slug = [] := by
  unfold tombstoneArticle at done
  dsimp only at done
  split at done
  · cases pure_ok_iff.mp done
  · rename_i found there
    simp only [bind_ok_iff, pure_ok_iff, Prod.mk.injEq] at done
    obtain ⟨-, -, -, rfl⟩ := done
    have owned := List.find?_some there
    simp only [Bool.and_eq_true, decide_eq_true_eq] at owned
    have active : found ∈ tables.activeWithSlug slug := by
      refine List.mem_filter.mpr ⟨List.mem_of_find?_eq_some there, ?_⟩
      simp [owned.1.1, owned.2]
    unfold activeWithSlug
    apply List.filter_eq_nil_iff.mpr
    intro row changed
    obtain ⟨old, present, rfl⟩ := List.mem_map.mp changed
    intro still
    split at still
    · simp [ArticleRow.isActive, dated] at still
    · rename_i other
      -- the only active row with the slug is the one that has been found
      have same : old = found := one.eq (List.mem_filter.mpr ⟨present, still⟩) active
      subst same
      exact other (by simp [owned])

end Tables

namespace Database

variable {db after : Database} {authorId : Int64} {slug : String}

/-- No reading of the clock is stored as zero, which stands for articles that have not been
deleted. -/
def Dated (db : Database) : Prop :=
  ∀ reading, Int64.ofInt (db.clock reading).unix ≠ 0

/-- A database between two operations: healthy, with at most one active article with a slug, no unit
of work open, and a clock whose readings are told from zero. -/
structure Tidy (db : Database) : Prop extends db.Healthy where
  closed : db.beforeWork = none
  one : OneActive db.tables
  dated : db.Dated

/-- A database stays tidy while articles are deleted. -/
theorem Tidy.removes (tidy : db.Tidy) (alike : db.Alike after) (closed : after.beforeWork = none)
    (removes : Removes db.tables after.tables) : after.Tidy where
  toHealthy := alike.healthy tidy.toHealthy
  closed := closed
  one := tidy.one.removes removes
  dated := by
    unfold Dated
    rw [alike.clock]
    exact tidy.dated

/-- An article that has been removed is gone. -/
theorem gone_of_removeArticle (one : OneActive db.tables) (dated : db.Dated)
    (ran : (removeArticle authorId slug).run db = (.ok (), after)) :
    after.tables.activeWithSlug slug = [] := by
  obtain ⟨stamp, ready, read, ran⟩ := run_bind_eq_ok ran
  cases read
  obtain ⟨chosen, between, marked, ran⟩ := run_bind_eq_ok ran
  cases chosen with
  | none => cases ran
  | some id =>
    have gone := gone_of_tombstone one (fun zero => dated db.readings (Cell.integer.inj zero))
      (statement_eq_ok marked)
    have unlinks : Composed Removes
        (Engine.about (execute [.itself .articleTags, .referred .tags, .referred .articles]
          fun triggers => Tables.deleteLinks triggers id) articleEntity slug) :=
      .execute fun triggers tables after done => removes_deleteLinks done
    have left := unlinks.leaves Removes.refl Removes.trans between
    rw [ran] at left
    exact gone_of_removes gone left.done

/-- A transaction that has succeeded has left the tables as its session has. -/
theorem transaction_eq_ok {α : Type} {session : Session Database α} {value : α}
    (ran : (transaction session).run db = (.ok value, after)) :
    ∃ inner, session.run { db with beforeWork := some db.tables } = (.ok value, inner) ∧
      after.tables = inner.tables := by
  rcases Bool.eq_false_or_eq_true db.locked with held | unlocked
  · obtain ⟨error, untouched⟩ := transaction_locked session held
    cases (untouched.symm.trans ran)
  · cases inside : session.run { db with beforeWork := some db.tables } with
    | mk result inner =>
      cases opened : inner.beforeWork with
      | none =>
        obtain ⟨error, ended⟩ := transaction_ended unlocked inside opened
        cases (ended.symm.trans ran)
      | some start =>
        cases result with
        | error cause => cases ((transaction_rollback unlocked inside opened).symm.trans ran)
        | ok other =>
          cases ((transaction_commit unlocked inside opened).symm.trans ran)
          exact ⟨inner, rfl, rfl⟩

end Database

/-- A way to delete an article: alone, or together with its author's comments on it. -/
inductive Removal where
  | article (authorId : Int64) (slug : String)
  | withComments (authorId : Int64) (slug : String)

namespace Removal

/-- The slug of the article that is deleted. -/
def slug : Removal → String
  | article _ slug => slug
  | withComments _ slug => slug

/-- What deleting an article does to the database, and whether it succeeds. -/
def effect : Removal → Database → Except StorageError Unit × Database
  | article authorId slug, db => (transaction (removeArticle authorId slug)).run db
  | withComments authorId slug, db =>
    let (removed, after) := (removeWithComments authorId slug).run db
    (removed.map fun _ => (), after)

variable {db after : Database}

/-- Deleting an article with comments has the effect of the operation, but for the number it answers
with. -/
theorem effect_withComments {authorId : Int64} {slug : String} {result : Except StorageError Nat}
    (ran : (removeWithComments authorId slug).run db = (result, after)) :
    (withComments authorId slug).effect db = (result.map fun _ => (), after) := by
  have unfolded : (withComments authorId slug).effect db =
      (((removeWithComments authorId slug).run db).1.map fun _ => (),
        ((removeWithComments authorId slug).run db).2) := rfl
  rw [unfolded, ran]

/-- Articles are deleted as a whole, or nothing is. -/
theorem whole_effect (removal : Removal) (closed : db.beforeWork = none) :
    Whole Removes db (removal.effect db) := by
  cases removal with
  | article authorId slug =>
    exact whole_transaction Removes.refl Removes.trans (composed_removeArticle authorId slug) closed
  | withComments authorId slug =>
    have composed : Composed Removes
        (do
          removeArticle authorId slug
          removeComments authorId slug) :=
      .bind (composed_removeArticle authorId slug) fun _ => composed_removeComments authorId slug
    have whole : Whole Removes db ((removeWithComments authorId slug).run db) :=
      whole_transaction Removes.refl Removes.trans composed closed
    cases ran : (removeWithComments authorId slug).run db with
    | mk result after =>
      rw [ran] at whole
      rw [effect_withComments ran]
      cases result with
      | error error => exact ⟨whole.alike, whole.closed, nofun, fun _ => whole.failed rfl⟩
      | ok count => exact ⟨whole.alike, whole.closed, fun _ => whole.done rfl, nofun⟩

/-- Whether it succeeds or not, deleting leaves a tidy database and brings no article back. -/
theorem tidy_effect (removal : Removal) (tidy : db.Tidy) :
    (removal.effect db).2.Tidy ∧ Removes db.tables (removal.effect db).2.tables := by
  have whole := removal.whole_effect tidy.closed
  have removes : Removes db.tables (removal.effect db).2.tables := by
    cases result : (removal.effect db).1 with
    | error error =>
      rw [whole.failed result]
      exact Removes.refl _
    | ok value => exact whole.done result
  exact ⟨tidy.removes whole.alike whole.closed removes, removes⟩

/-- After an article has been deleted there is no active one with its slug. -/
theorem gone_of_effect {removal : Removal} (tidy : db.Tidy)
    (ran : removal.effect db = (.ok (), after)) :
    after.tables.activeWithSlug removal.slug = [] := by
  have one_within : OneActive { db with beforeWork := some db.tables }.tables := tidy.one
  have dated_within : Dated { db with beforeWork := some db.tables } := tidy.dated
  cases removal with
  | article authorId slug =>
    obtain ⟨inner, removed, same⟩ := transaction_eq_ok ran
    rw [same]
    exact gone_of_removeArticle one_within dated_within removed
  | withComments authorId slug =>
    cases whole : (removeWithComments authorId slug).run db with
    | mk result last =>
      rw [effect_withComments whole] at ran
      cases result with
      | error error => cases ran
      | ok count =>
        cases ran
        obtain ⟨inner, both, same⟩ := transaction_eq_ok whole
        obtain ⟨_, between, removed, counted⟩ := run_bind_eq_ok both
        have gone := gone_of_removeArticle one_within dated_within removed
        have left :=
          (composed_removeComments authorId slug).leaves Removes.refl Removes.trans between
        rw [counted] at left
        rw [same]
        exact gone_of_removes gone left.done

end Removal

end Gazette
