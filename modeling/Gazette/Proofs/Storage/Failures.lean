import Mathlib.Data.List.Basic
import Mathlib.Order.WellFounded
import Gazette.Proofs.Storage.Reachable
import Gazette.Proofs.Storage.Readings

/-!
# What failed steps leave behind

A unit of work may pass over the error of a step and commit all the same.  Most steps that fail
have left no trace in the tables then, so that the unit of work has done what it would have done
without them.  But an article that is refused has left its tags, since a step of a unit of work is
not undone on its own.
-/

set_option autoImplicit false

namespace Gazette

open Tables Session Database

/-- A step that has been performed, with the database before and after it. -/
structure Stage extends Performed where
  before : Database
  after : Database

/-- Whether a step has succeeded or has at least changed the tables. -/
def Stage.mattered (stage : Stage) : Bool :=
  stage.succeeded || stage.after.tables ≠ stage.before.tables

namespace Work

/-- The stages of a unit of work, one for each step. -/
def stages (tagBatch : Nat) : Work → Database → List Stage
  | .finish _, _ => []
  | .perform step next, db =>
    let (result, after) := (step.perform tagBatch).run db
    ⟨⟨step, result⟩, db, after⟩ :: (next result).stages tagBatch after

/-- The steps of a record once more, written down in advance and with all errors tolerated. -/
def again (record : List Performed) : Work :=
  .ofDirectives (record.map fun performed => (.perform performed.step, true))

end Work

/-- Whether a step saves something. -/
def Step.Saves : Step → Prop
  | .saveAccount _ => True
  | .saveArticle _ => True
  | .saveComment _ _ => True
  | _ => False

/-- What a step that has failed may leave in the tables while its unit of work is open. -/
inductive Step.Remnant (clock : Nat → Instant) : Step → Tables → Tables → Prop where
  /-- Nothing is left. -/
  | nothing {step : Step} {tables : Tables} : Remnant clock step tables tables
  /-- An article that is refused leaves its tags. -/
  | tags {article : NewArticle} {before after : Tables} :
      article.slug ≠ "" → before.upsertTags article.tags = .ok after →
      Remnant clock (.saveArticle article) before after
  /-- An article that names a tag twice is left with its tags up to there. -/
  | repeated {article : NewArticle} {reading : Nat} {id : Int64} {tags : List Tag} {name : String}
      {rest : List String} {before tagged published after : Tables} :
      article.slug ≠ "" → before.upsertTags article.tags = .ok tagged →
      Tables.insertArticle [] article (.text (clock reading).stored) tagged = .ok (id, published) →
      article.tags = tags.map Tag.name ++ name :: rest → name ∈ tags.map Tag.name →
      (∀ tag ∈ tags, tagged.HasTag tag) → published.attachTags id tags = .ok after →
      Remnant clock (.saveArticle article) before after
  /-- What is saved is left if its stamp cannot be read back. -/
  | unread {step : Step} {reading : Nat} {before after : Tables} :
      step.Saves → ¬ (clock reading).ReadsBack →
      step.Makes ⟨fun stamp => stamp = clock reading, False⟩ false before after →
      Remnant clock step before after

variable {clock : Nat → Instant} {db : Database} {tagBatch : Nat} {stage : Stage}

/-- What a step makes of the tables when it fails is what it leaves. -/
theorem Step.Makes.remnant {step : Step} {before after : Tables}
    (makes : step.Makes ⟨ShownBy clock, False⟩ true before after) :
    step.Remnant clock before after := by
  cases makes with
  | nothing => exact .nothing
  | account dated unread done =>
    obtain ⟨reading, rfl⟩ := dated
    exact .unread trivial (unread rfl) (.account rfl nofun done)
  | tags named _ all done =>
    rcases all with rfl | outside
    · exact .tags named done
    · exact outside.elim
  | article named dated unread tagged done same there attached =>
    obtain ⟨reading, rfl⟩ := dated
    exact .unread trivial (unread rfl) (.article named rfl nofun tagged done same there attached)
  | repeated named dated tagged done split twice there attached =>
    obtain ⟨reading, rfl⟩ := dated
    exact .repeated named tagged done split twice there attached
  | comment active dated unread done =>
    obtain ⟨reading, rfl⟩ := dated
    exact .unread trivial (unread rfl) (.comment active rfl nofun done)

namespace Work

/-- The first stage of a work is that of its first step, and the others are those of the rest. -/
theorem stages_perform (step : Step) (next : Except StorageError step.Answer → Work) :
    (perform step next).stages tagBatch db =
      ⟨⟨step, ((step.perform tagBatch).run db).1⟩, db, ((step.perform tagBatch).run db).2⟩ ::
        (next ((step.perform tagBatch).run db).1).stages tagBatch
          ((step.perform tagBatch).run db).2 :=
  rfl

/-- The stages are those of the steps that are recorded. -/
theorem record_eq_stages (work : Work) (tagBatch : Nat) (db : Database) :
    (work.carryOut tagBatch db).1.2 = (work.stages tagBatch db).map Stage.toPerformed := by
  induction work generalizing db with
  | finish outcome => rfl
  | perform step next ih =>
    rw [stages_perform, List.map_cons, ← ih]
    rfl

/-- The steps of a unit of work leave it open or have ended it. -/
theorem leaves_perform (step : Step) (tagBatch : Nat) (db : Database) :
    Session.Leaves (fun _ => anyChange) db ((step.perform tagBatch).run db) :=
  (step.composed_perform tagBatch).leaves (fun _ => trivial) (fun _ _ => trivial) db

end Work

/-- Whether a stage begins on an orderly database, in the given unit of work if it is still open,
and tells what has happened then. -/
structure Stage.Fits (tagBatch : Nat) (clock : Nat → Instant) (work : Option Tables)
    (stage : Stage) : Prop where
  orderly : stage.before.Orderly clock
  same_work : stage.before.beforeWork = none ∨ stage.before.beforeWork = work
  ran : (stage.step.perform tagBatch).run stage.before = (stage.result, stage.after)

/-- The stages of a unit of work tell what happens. -/
theorem Work.stage_fits (work : Work) (orderly : db.Orderly clock)
    (there : stage ∈ work.stages tagBatch db) : stage.Fits tagBatch clock db.beforeWork := by
  induction work generalizing db with
  | finish outcome => cases there
  | perform step next ih =>
    rw [stages_perform, List.mem_cons] at there
    rcases there with rfl | later
    · exact ⟨orderly, .inr rfl, rfl⟩
    · have fits := ih _ (orderly.perform tagBatch step) later
      have left := leaves_perform step tagBatch db
      refine ⟨fits.orderly, ?_, fits.ran⟩
      rcases fits.same_work with ended | same_work
      · exact .inl ended
      · generalize (step.perform tagBatch).run db = outcome at same_work left
        cases left with
        | kept _ still_open _ => exact .inr (same_work.trans still_open)
        | lost _ _ ended _ => exact .inl (same_work.trans ended)

/-- A step that has failed in an open unit of work has either ended the unit of work for lack of
ids, or has left what it is told to leave. -/
theorem Stage.Fits.remnant {start : Tables} (fits : stage.Fits tagBatch clock (some start))
    (opened : stage.before.beforeWork ≠ none) (failed : stage.succeeded = false) :
    (stage.result = .error .outOfIds ∧ stage.after.beforeWork = none ∧
        stage.after.tables = start) ∨
      stage.after.beforeWork = some start ∧
        stage.step.Remnant clock stage.before.tables stage.after.tables := by
  have same_work := fits.same_work.resolve_left opened
  have holds : Setting.Holds ⟨ShownBy clock, False⟩ stage.before :=
    ⟨fits.orderly.toHealthy, fun reading => ⟨reading, congrFun fits.orderly.same_clock reading⟩,
      opened⟩
  have ended := stage.step.meets_perform tagBatch fits.orderly.tables stage.before holds rfl
  rw [fits.ran] at ended
  generalize result_eq : stage.result = result at ended
  cases ended with
  | done _ _ _ =>
    unfold Performed.succeeded at failed
    rw [result_eq] at failed
    cases failed
  | failed _ still_open makes => exact .inr ⟨still_open.trans same_work, makes.remnant⟩
  | lost _ was_open closed back =>
    cases was_open.symm.trans same_work
    exact .inl ⟨rfl, closed, back⟩

/-- A database that differs from another one in its readings only. -/
theorem Database.Alike.eq_withClock {after : Database} {readings : Nat} (alike : db.Alike after)
    (same_tables : after.tables = db.tables) (same_work : after.beforeWork = db.beforeWork)
    (gone_by : after.readings = readings) : after = db.withClock db.clock readings := by
  cases after
  simp only [withClock, Database.mk.injEq]
  exact ⟨same_tables, same_work, alike.triggers, alike.missing, alike.locked, alike.clock, gone_by⟩

/-- A choice of readings that passes over some of them. -/
def passOver (pick : Nat → Nat) (readings taken n : Nat) : Nat :=
  if n < readings then n else pick (n + taken)

/-- A choice of readings stays in order if some are passed over. -/
theorem strictMono_passOver {pick : Nat → Nat} (mono : StrictMono pick) (readings taken : Nat) :
    StrictMono (passOver pick readings taken) := by
  intro early late less
  have further : late + taken ≤ pick (late + taken) := mono.le_apply
  unfold passOver
  split
  · split
    · exact less
    · omega
  · rw [if_neg (by omega)]
    exact mono (by omega)

/-- An operation does not notice that readings before it have been passed over. -/
theorem ReadsClock.earlier {ρ : Type} {operation : Database → ρ × Database} {result : ρ}
    {after : Database} {pick : Nat → Nat} {taken readings more : Nat}
    (reads : ReadsClock more operation (db.withClock (db.clock ∘ pick) (db.readings + taken)))
    (ran : operation (db.withClock (db.clock ∘ pick) (db.readings + taken)) =
      (result, after.withClock (db.clock ∘ pick) readings)) :
    operation (db.withClock (db.clock ∘ passOver pick db.readings taken) db.readings) =
      (result,
        after.withClock (db.clock ∘ passOver pick db.readings taken) (db.readings + more)) := by
  have shows : (db.withClock (db.clock ∘ pick) (db.readings + taken)).Shows more
      (db.clock ∘ passOver pick db.readings taken) db.readings := by
    intro k _
    have later : ¬ db.readings + k < db.readings := by omega
    simp only [Function.comp_apply, passOver, if_neg later, withClock, Nat.add_right_comm]
  have same := reads _ _ shows
  rw [ran, withClock_withClock, withClock_withClock] at same
  exact same

namespace Work

/-- A record is performed again one step after the other. -/
theorem again_cons (performed : Performed) (record : List Performed) :
    again (performed :: record) = .perform performed.step fun _ => again record := by
  unfold again
  rw [List.map_cons, ofDirectives]
  congr 1
  funext result
  cases result <;> rfl

/-- A unit of work that one of its steps has ended is not opened again. -/
theorem closed_of_stage (work : Work) {stage : Stage} (there : stage ∈ work.stages tagBatch db)
    (closed : stage.after.beforeWork = none) : (work.carryOut tagBatch db).2.beforeWork = none := by
  induction work generalizing db with
  | finish outcome => cases there
  | perform step next ih =>
    rw [stages_perform, List.mem_cons] at there
    rcases there with rfl | later
    · have open_or_not := ((next ((step.perform tagBatch).run db).1).alike_carryOut tagBatch
        ((step.perform tagBatch).run db).2).2
      rw [closed, or_self] at open_or_not
      exact open_or_not
    · exact ih _ later

/-- The steps that have mattered do the same once more without the others, as long as the unit of
work is open and the clock shows to each of them what it has shown. -/
theorem carryOut_again (work : Work) {after : Database} {outcome : Except StorageError Unit}
    {record : List Performed} (ran : work.carryOut tagBatch db = ((outcome, record), after))
    (opened : after.beforeWork ≠ none) :
    ∃ pick readings, StrictMono pick ∧ (∀ n < db.readings, pick n = n) ∧
      (again (((work.stages tagBatch db).filter Stage.mattered).map Stage.toPerformed)).carryOut
          tagBatch (db.withClock (db.clock ∘ pick) db.readings) =
        ((.ok (), ((work.stages tagBatch db).filter Stage.mattered).map Stage.toPerformed),
          after.withClock (db.clock ∘ pick) readings) := by
  -- the later steps choose their readings first, and leave those before their own alone
  induction work generalizing db outcome record with
  | finish result =>
    cases ran
    exact ⟨id, _, strictMono_id, fun _ _ => rfl, rfl⟩
  | perform step next ih =>
    obtain ⟨taken, reads⟩ := (step.composed_perform tagBatch).readsClock db
    have left := leaves_perform step tagBatch db
    obtain ⟨same_clock, gone_by⟩ := reads.after_eq
    rw [stages_perform]
    rcases stepped : (step.perform tagBatch).run db with ⟨result, between⟩
    rw [stepped] at left same_clock gone_by
    dsimp only at same_clock gone_by ⊢
    rcases went_on : (next result).carryOut tagBatch between with ⟨⟨last, others⟩, final⟩
    rw [carryOut_perform stepped went_on] at ran
    cases ran
    obtain ⟨pick, readings, mono, fixed, rest⟩ := ih result went_on
    rw [same_clock, gone_by] at rest
    rw [gone_by] at fixed
    rw [List.filter_cons]
    generalize ((next result).stages tagBatch between).filter Stage.mattered = kept at rest ⊢
    cases mattered : Stage.mattered ⟨⟨step, result⟩, db, between⟩ with
    | true =>
      rw [if_pos rfl, List.map_cons, again_cons]
      have shows : db.Shows taken (db.clock ∘ pick) db.readings := by
        intro k less
        rw [Function.comp_apply, fixed _ (Nat.add_lt_add_left less _)]
      have repeated := reads _ _ shows
      rw [stepped] at repeated
      exact ⟨pick, readings, mono, fun n less => fixed n (Nat.lt_add_right _ less),
        carryOut_perform repeated rest⟩
    | false =>
      rw [if_neg Bool.false_ne_true]
      obtain ⟨-, same_tables⟩ : _ ∧ between.tables = db.tables := by
        simpa [Stage.mattered] using mattered
      -- a step that has ended the unit of work is ruled out, since nothing opens it again
      have still_closed := ((next result).alike_carryOut tagBatch between).2
      rw [went_on] at still_closed
      have same_work : between.beforeWork = db.beforeWork := by
        cases left with
        | kept _ same_work _ => exact same_work
        | lost _ _ closed _ =>
          rw [closed] at still_closed
          exact absurd (still_closed.elim id id) opened
      -- the step may still have read the clock, and its readings are passed over
      have silent : between = db.withClock db.clock (db.readings + taken) :=
        left.alike.eq_withClock same_tables same_work gone_by
      rw [silent, withClock_withClock] at rest
      obtain ⟨more, reads_rest⟩ :=
        (again (kept.map Stage.toPerformed)).readsClock_carryOut tagBatch
          (db.withClock (db.clock ∘ pick) (db.readings + taken))
      refine ⟨passOver pick db.readings taken, db.readings + more,
        strictMono_passOver mono _ _, fun n less => if_pos less, ?_⟩
      exact reads_rest.earlier rest

end Work

/-- A step that fails while its unit of work is open leaves no trace in the tables, except that an
article with a slug that is refused leaves its tags, and if it names a tag twice even the article
with the tags up to there, and that what is saved with a stamp that cannot be read back is left.
Only for lack of ids it ends the unit of work, which is undone then and cannot commit any more.  A unit
of work that commits has done what it would have done without the failed steps that have left no
trace. -/
theorem what_failed_steps_leave (tagBatch : Nat) (work : Work) (reachable : db.Reachable) :
    let stages := work.stages tagBatch { db with beforeWork := some db.tables }
    let kept := (stages.filter Stage.mattered).map Stage.toPerformed
    (∀ stage ∈ stages, stage.before.beforeWork ≠ none → stage.succeeded = false →
      (stage.result = .error .outOfIds ∧ stage.after.beforeWork = none ∧
          stage.after.tables = db.tables ∧ (Database.carryOut tagBatch work db).1.1 ≠ .ok ()) ∨
        stage.after.beforeWork = some db.tables ∧
          stage.step.Remnant db.clock stage.before.tables stage.after.tables) ∧
    ∀ record after, Database.carryOut tagBatch work db = ((.ok (), record), after) →
      record = some (stages.map Stage.toPerformed) ∧
      ∃ pick readings, StrictMono pick ∧
        Database.carryOut tagBatch (.again kept) { db with clock := db.clock ∘ pick } =
          ((.ok (), some kept), after.withClock (db.clock ∘ pick) readings) := by
  intro stages kept
  refine ⟨?_, ?_⟩
  · intro stage there opened failed
    rcases (work.stage_fits reachable.orderly.opened there).remnant opened failed with
      ⟨lacking, closed, back⟩ | remnant
    · refine .inl ⟨lacking, closed, back, ?_⟩
      intro committed
      rcases done : Database.carryOut tagBatch work db with ⟨⟨outcome, record⟩, after⟩
      rw [done] at committed
      cases committed
      obtain ⟨-, steps, inside, start, ran, still_open, -⟩ := Database.carryOut_eq_ok done
      have at_the_end := work.closed_of_stage there closed
      rw [ran, still_open] at at_the_end
      cases at_the_end
    · exact .inr remnant
  · intro record after done
    obtain ⟨unlocked, steps, inside, start, ran, opened, rfl, rfl⟩ := Database.carryOut_eq_ok done
    have still_open : inside.beforeWork ≠ none := by simp [opened]
    have recorded := work.record_eq_stages tagBatch { db with beforeWork := some db.tables }
    rw [ran] at recorded
    obtain ⟨pick, readings, mono, -, rest⟩ := work.carryOut_again ran still_open
    refine ⟨congrArg some recorded, pick, readings, mono, ?_⟩
    have still_unlocked : Database.locked { db with clock := db.clock ∘ pick } = false := unlocked
    have whole := unitOfWork_commit still_unlocked rest opened
    unfold Database.carryOut
    rw [whole]
    rfl

namespace Sample

/-- A unit of work that passes over three errors: the second account has the email of the first one,
the first article has an unknown author, and the comment is on an unknown article. -/
def passingOver : Work :=
  .ofDirectives [(.perform (.saveAccount ⟨"u", "u@x.com", "p", "", ""⟩), false),
    (.perform (.saveAccount ⟨"v", "u@x.com", "p", "", ""⟩), true),
    (.perform (.saveArticle ⟨"by-nobody", "By Nobody", "b", 9, ["go"]⟩), true),
    (.perform (.saveComment "by-nobody" ⟨"c", 1⟩), true),
    (.perform (.saveArticle ⟨"hello-world", "Hello World", "b", 1, ["rust"]⟩), false)]

end Sample

/-- Of a unit of work with three failed steps, two have left no trace. -/
theorem what_failed_steps_leave_tags :
    let stages := Sample.passingOver.stages 100
      { Sample.database with beforeWork := some Sample.database.tables }
    let kept := (stages.filter Stage.mattered).map Stage.toPerformed
    stages.map (fun stage => (stage.succeeded, stage.mattered)) =
        [(true, true), (false, false), (false, true), (false, false), (true, true)] ∧
      ∃ pick readings after, StrictMono pick ∧
        Database.carryOut 100 Sample.passingOver Sample.database =
          ((.ok (), some (stages.map Stage.toPerformed)), after) ∧
        Database.carryOut 100 (.again kept)
            { Sample.database with clock := Sample.database.clock ∘ pick } =
          ((.ok (), some kept), after.withClock (Sample.database.clock ∘ pick) readings) := by
  intro stages kept
  refine ⟨by decide +kernel, ?_⟩
  have committed : (Database.carryOut 100 Sample.passingOver Sample.database).1.1.toBool := by
    decide +kernel
  rcases ran : Database.carryOut 100 Sample.passingOver Sample.database with
    ⟨⟨outcome, record⟩, after⟩
  rw [ran] at committed
  cases outcome with
  | error error => cases committed
  | ok value =>
    obtain ⟨recorded, pick, readings, mono, again⟩ :=
      (what_failed_steps_leave 100 Sample.passingOver (.empty _)).2 record after ran
    subst recorded
    exact ⟨pick, readings, after, mono, rfl, again⟩

/-- A unit of work that passes over the refusal of an article commits the article's tag. -/
theorem failed_step_leaves_tag :
    let work :=
      Work.ofDirectives [(.perform (.saveArticle ⟨"hello", "Hello", "b", 1, ["go"]⟩), true)]
    let stages := work.stages 100 { Sample.database with beforeWork := some Sample.database.tables }
    Sample.database.Reachable ∧
      (∃ stage ∈ stages, stage.succeeded = false ∧ stage.after.tables ≠ stage.before.tables) ∧
      (Database.carryOut 100 work Sample.database).1.1 = .ok () ∧
      (Database.carryOut 100 work Sample.database).2.tables.tags = [⟨1, .text "go"⟩] ∧
      (Database.carryOut 100 (.ofDirectives []) Sample.database).2.tables.tags = [] := by
  intro work stages
  have failed : (stages.any fun stage =>
      !stage.succeeded && stage.after.tables ≠ stage.before.tables) = true := by
    decide +kernel
  obtain ⟨stage, there, changed⟩ := List.any_eq_true.mp failed
  simp only [Bool.and_eq_true, Bool.not_eq_true', decide_eq_true_eq] at changed
  exact ⟨.empty _, ⟨stage, there, changed⟩, by rfl, by decide +kernel, by decide +kernel⟩

end Gazette
