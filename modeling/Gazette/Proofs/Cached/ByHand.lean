import Mathlib.Data.List.Basic
import Gazette.Proofs.Cached.Causes
import Gazette.Proofs.Cached.Invalidations
import Gazette.Proofs.Storage.Scoping

/-!
# Units of work written by hand

A unit of work whose steps are written down in advance, none of them with its errors passed over, is
a transaction of the same steps: it has the same effect, it succeeds on the same databases, and its
error has the same root cause.  So whoever deletes an article with its comments step by step loses
nothing against the operation that does both at once, and the caches are left alike too, although
the one knows the key that it has to remove and the other looks it up in the record of its steps.
-/

set_option autoImplicit false

namespace Gazette

open Database Session

namespace Database

section UnitOfWork

variable {α β ρ κ : Type} {result : Except StorageError α} {form : α → β} {report : ρ}
  {other_report : κ} {db inside : Database} {body : StateM Database (Except StorageError α × ρ)}
  {other : StateM Database (Except StorageError β × κ)}

/-- Two bodies that come to the same result, put in another form, and leave the same database do so
as units of work too. -/
theorem unitOfWork_map
    (ran : body { db with beforeWork := some db.tables } = ((result, report), inside))
    (other_ran : other { db with beforeWork := some db.tables } =
      ((result.map form, other_report), inside)) :
    (unitOfWork other db).1.1 = (unitOfWork body db).1.1.map form ∧
      (unitOfWork other db).2 = (unitOfWork body db).2 ∧
      ∀ value, (unitOfWork body db).1.1 = .ok value →
        result = .ok value ∧ (unitOfWork other db).1.2 = some other_report := by
  rcases Bool.eq_false_or_eq_true db.locked with held | unlocked
  · rw [unitOfWork_locked held, unitOfWork_locked held]
    simp [Except.map]
  · cases opened : inside.beforeWork with
    | some start =>
      cases result with
      | ok value =>
        rw [unitOfWork_commit unlocked ran opened, unitOfWork_commit unlocked other_ran opened]
        simp [Except.map]
      | error cause =>
        rw [unitOfWork_rollback unlocked ran opened, unitOfWork_rollback unlocked other_ran opened]
        simp [Except.map]
    | none =>
      unfold unitOfWork
      rw [if_neg (by simp [unlocked]), if_neg (by simp [unlocked]), ran, other_ran]
      cases result <;> simp [Except.map, opened]

end UnitOfWork

end Database

namespace Work

variable {α : Type} {tagBatch : Nat} {work : Work} {session : Session Database α}
  {recorded : α → List Performed → Prop}

/-- Whether a unit of work does step by step what a session does, with a record of the steps that
fits what the session answers. -/
def Does (tagBatch : Nat) (work : Work) (session : Session Database α)
    (recorded : α → List Performed → Prop) : Prop :=
  ∀ db, ∃ record, work.carryOut tagBatch db =
      ((((session.run db).1.map fun _ => ()), record), (session.run db).2) ∧
    ∀ value, (session.run db).1 = .ok value → recorded value record

/-- A single step. -/
theorem does_step (tagBatch : Nat) (step : Step) :
    Does tagBatch (.ofDirectives [(.perform step, false)]) (step.perform tagBatch)
      fun value record => record = [⟨step, .ok value⟩] := by
  intro db
  rcases ran : (step.perform tagBatch).run db with ⟨error | value, after⟩
  · exact ⟨_, carryOut_perform ran rfl, nofun⟩
  · refine ⟨_, carryOut_perform ran rfl, ?_⟩
    rintro _ ⟨⟩
    rfl

/-- A step in front of others, which are not performed if it fails. -/
theorem Does.cons {lines : List (Directive × Bool)} (step : Step)
    (rest : Does tagBatch (.ofDirectives lines) session recorded) :
    Does tagBatch (.ofDirectives ((.perform step, false) :: lines))
      (step.perform tagBatch >>= fun _ => session) fun value record =>
        ∃ first later, record = ⟨step, .ok first⟩ :: later ∧ recorded value later := by
  intro db
  rw [run_bind]
  rcases ran : (step.perform tagBatch).run db with ⟨error | first, between⟩
  · exact ⟨_, carryOut_perform ran rfl, nofun⟩
  · obtain ⟨later, went_on, fits⟩ := rest between
    exact ⟨_, carryOut_perform ran went_on, fun value ended => ⟨first, later, rfl, fits value ended⟩⟩

/-- A unit of work that does what a session does ends like the transaction of the session, and leaves
the same database. -/
theorem Does.carryOut (does : Does tagBatch work session recorded) (db : Database) :
    ∃ record, Database.carryOut tagBatch work db =
        (((((transaction session).run db).1.map fun _ => ()).mapError Work.abortion, record),
          ((transaction session).run db).2) ∧
      ∀ value, ((transaction session).run db).1 = .ok value →
        ∃ steps, record = some steps ∧ recorded value steps := by
  obtain ⟨steps, ran, fits⟩ := does { db with beforeWork := some db.tables }
  obtain ⟨body, reports, through⟩ := run_transaction session
  obtain ⟨same, same_after, reported⟩ :=
    unitOfWork_map (reports { db with beforeWork := some db.tables }) ran
  refine ⟨(unitOfWork (work.carryOut tagBatch) db).1.2, ?_, ?_⟩
  · rw [Database.run_carryOut, through, same, same_after]
  · intro value succeeded
    rw [through] at succeeded
    obtain ⟨inside, record⟩ := reported value succeeded
    exact ⟨steps, record, fits value inside⟩

/-- The work that deletes an author's article, and then the author's comments on it. -/
def deletion (authorId : Int64) (slug : String) : Work :=
  .ofDirectives [(.perform (.deleteArticle authorId slug), false),
    (.perform (.deleteComments authorId slug), false)]

/-- The record of this work when it has succeeded. -/
def deletionRecord (authorId : Int64) (slug : String) (count : Nat) : List Performed :=
  [⟨.deleteArticle authorId slug, .ok ()⟩, ⟨.deleteComments authorId slug, .ok count⟩]

/-- After an article has been deleted with the comments on it, the copy of the article is stale and
no other. -/
theorem staleKeys_deletionRecord (authorId : Int64) (slug : String) (count : Nat) :
    staleKeys (deletionRecord authorId slug count) = [CacheKey.articleBySlug slug] :=
  rfl

/-- Deleting an article with the comments on it in a unit of work takes the two steps that it takes
by itself. -/
theorem does_deletion (tagBatch : Nat) (authorId : Int64) (slug : String) :
    Does tagBatch (deletion authorId slug)
      (do
        removeArticle authorId slug
        removeComments authorId slug)
      fun count record => record = deletionRecord authorId slug count := by
  have both := (does_step tagBatch (.deleteComments authorId slug)).cons
    (.deleteArticle authorId slug)
  intro db
  obtain ⟨record, ran, fits⟩ := both db
  refine ⟨record, ran, ?_⟩
  intro count succeeded
  obtain ⟨-, later, rfl, rfl⟩ := fits count succeeded
  rfl

end Work

/-- How it ends alike to delete an article with its comments at once and by hand: both have
succeeded, and the number of comments is that in the record; or both have failed, and the errors are
classified in the same way; or the cache has stopped both. -/
inductive DeletionsAlike (authorId : Int64) (slug : String) :
    Except DeadlineOverflow (Except StorageError Nat) →
      Except DeadlineOverflow (Except StorageError Unit × Option (List Performed)) → Prop where
  | deleted (count : Nat) : DeletionsAlike authorId slug (.ok (.ok count))
      (.ok (.ok (), some (Work.deletionRecord authorId slug count)))
  | failed (error reported : StorageError) (record : Option (List Performed)) :
      reported.ClassedLike error →
      DeletionsAlike authorId slug (.ok (.error error)) (.ok (.error reported, record))
  | stopped (cause : DeadlineOverflow) : DeletionsAlike authorId slug (.error cause) (.error cause)

/-- If one of the two answers, so does the other. -/
theorem DeletionsAlike.answers {authorId : Int64} {slug : String} {result : Except StorageError Nat}
    {answer : Except DeadlineOverflow (Except StorageError Unit × Option (List Performed))}
    (alike : DeletionsAlike authorId slug (.ok result) answer) : ∃ report, answer = .ok report := by
  cases alike <;> exact ⟨_, rfl⟩

namespace CacheFront

variable {σ β : Type}

/-- Invalidating a single key as one of several is invalidating it. -/
theorem outcome_invalidateAll_single (front : CacheFront β) (key : String) (state : Layered σ β) :
    (front.invalidateAll [key]).run.outcome state =
      (((front.invalidate key).run.outcome state).1.map fun _ => PUnit.unit,
        ((front.invalidate key).run.outcome state).2) :=
  Activity.outcome_bind_pure (front.invalidate key) (fun _ => PUnit.unit) state

end CacheFront

section Deletion

variable {β : Type} (tagBatch : Nat) (authorId : Int64) (slug : String)

/-- Past the cache, an article is deleted with its comments in one transaction. -/
theorem outcome_onSource_deleteWithComments (state : Layered Database β) :
    ((articleRepository tagBatch).deleteWithComments authorId slug).onSource.run.outcome state =
      (.ok ((removeWithComments authorId slug).run state.source).1,
        { state with source := ((removeWithComments authorId slug).run state.source).2 }) := by
  have answers : ((articleRepository tagBatch).deleteWithComments authorId slug).run.outcome
      state.source = _ :=
    ArticleOperation.outcome_effect tagBatch (.deleteWithComments authorId slug) state.source
  rw [Activity.outcome_run_onSource, answers]
  rfl

/-- Whatever the cache in front does, deleting an article with its comments at once and by hand ends
alike and leaves the same behind. -/
theorem deletionsAlike_cached (front : CacheFront β) (state : Layered Database β) :
    let repository := (articleRepository tagBatch).cached front
    let whole := (repository.deleteWithComments authorId slug).run.outcome state
    let byHand := (repository.carryOut (.deletion authorId slug)).run.outcome state
    byHand.2 = whole.2 ∧ DeletionsAlike authorId slug whole.1 byHand.1 := by
  intro repository whole byHand
  obtain ⟨record, worked, fits⟩ :=
    (Work.does_deletion tagBatch authorId slug).carryOut state.source
  change Database.carryOut tagBatch (.deletion authorId slug) state.source =
    (((((removeWithComments authorId slug).run state.source).1.map fun _ => ()).mapError
      Work.abortion, record), ((removeWithComments authorId slug).run state.source).2) at worked
  have begun := outcome_onSource_deleteWithComments tagBatch authorId slug state
  have worked_through := ArticleOperation.outcome_effect tagBatch
    (.carryOut (.deletion authorId slug)) state.source
  rw [ArticleOperation.effect, worked] at worked_through
  rcases ended : (removeWithComments authorId slug).run state.source with ⟨error | count, source⟩
  · rw [ended] at begun worked_through
    have one : whole = _ := Activity.outcome_also_of_error begun
    have other : byHand = _ :=
      ArticleRepository.outcome_cached_carryOut_of_error front worked_through
    rw [one, other]
    exact ⟨rfl, .failed _ _ _ (.of_rootCause (Work.rootCause_abortion error))⟩
  · obtain ⟨steps, rfl, rfl⟩ := fits count (congrArg Prod.fst ended)
    rw [ended] at begun worked_through
    have one : whole = _ := Activity.outcome_also_of_ok begun
    have other : byHand = _ := ArticleRepository.outcome_cached_carryOut_of_ok front worked_through
    rw [Option.getD_some, Work.staleKeys_deletionRecord,
      CacheFront.outcome_invalidateAll_single] at other
    rw [one, other]
    refine ⟨rfl, ?_⟩
    unfold ArticleRepository.invalidateArticle
    cases ((front.invalidate (CacheKey.articleBySlug slug)).run.outcome { state with source }).1 with
    | error cause => exact .stopped cause
    | ok done => exact .deleted count

/-- Deleting an article with its comments through a cache in memory. -/
theorem outcome_cached_deleteWithComments {authorId : Int64} {slug : String} (tagBatch : Nat)
    (keyStart : String) (ttl : Duration) (observing : Bool) {state : Layered Database TimedCache}
    {result : Except StorageError Nat} {source : Database}
    (ran : (removeWithComments authorId slug).run state.source = (result, source)) :
    (((articleRepository tagBatch).cached
        (CacheFront.inMemory keyStart ttl observing)).deleteWithComments authorId slug).run.outcome
          state =
      (.ok result,
        { source
          cache := if result.toBool then state.cache.without [articleKey keyStart slug]
            else state.cache
          observed := state.observed }) := by
  have begun := outcome_onSource_deleteWithComments tagBatch authorId slug state
  rw [ran] at begun
  cases result with
  | error error => exact Activity.outcome_also_of_error begun
  | ok count =>
    refine (Activity.outcome_also_of_ok begun).trans ?_
    rw [ArticleRepository.invalidateArticle,
      CacheFront.outcome_invalidate articleBySlug_ne_empty { state with source }]
    rfl

/-- Deleting an article with its comments by hand, in a unit of work of the two steps, is the same as
doing both at once.  Whatever cache is in front, and whatever has been done to the database before,
the two end alike and leave the same database, the same cache and the same observations.  With a
healthy database and a cache in memory both always answer: they succeed exactly if the author owns an
active article with the slug, and then nothing but the entry of the article is left out of the cache;
else the article is said to be missing and nothing has changed. -/
theorem deletion_by_hand_agrees :
    (∀ (β : Type) (front : CacheFront β) (state : Layered Database β),
      let repository := (articleRepository tagBatch).cached front
      let whole := (repository.deleteWithComments authorId slug).run.outcome state
      let byHand := (repository.carryOut (.deletion authorId slug)).run.outcome state
      byHand.2 = whole.2 ∧ DeletionsAlike authorId slug whole.1 byHand.1) ∧
    ∀ (keyStart : String) (ttl : Duration) (observing : Bool) (state : Layered Database TimedCache),
      state.source.Reachable →
      let repository :=
        (articleRepository tagBatch).cached (CacheFront.inMemory keyStart ttl observing)
      ∃ result report after,
        (repository.deleteWithComments authorId slug).run.outcome state = (.ok result, after) ∧
        (repository.carryOut (.deletion authorId slug)).run.outcome state = (.ok report, after) ∧
        DeletionsAlike authorId slug (.ok result) (.ok report) ∧
        DeletionEnds authorId slug state.source.tables after.source.tables result ∧
        after.cache = if result.toBool then state.cache.without [articleKey keyStart slug]
          else state.cache := by
  refine ⟨fun β front state => deletionsAlike_cached tagBatch authorId slug front state, ?_⟩
  intro keyStart ttl observing state reachable repository
  obtain ⟨same, alike⟩ := deletionsAlike_cached tagBatch authorId slug
    (CacheFront.inMemory keyStart ttl observing) state
  have ends := @ends_removeWithComments state.source authorId slug reachable.orderly.toHealthy
  rcases ran : (removeWithComments authorId slug).run state.source with ⟨result, source⟩
  have whole := outcome_cached_deleteWithComments tagBatch keyStart ttl observing ran
  rw [ran] at ends
  rcases byHand : (repository.carryOut (.deletion authorId slug)).run.outcome state with ⟨answer, after⟩
  rw [whole, byHand] at same alike
  cases same
  obtain ⟨report, rfl⟩ := alike.answers
  exact ⟨result, report, _, whole, rfl, alike, ends, rfl⟩

end Deletion

namespace Sample

/-- A database with an article and a comment of its author on it. -/
def answered : Database :=
  (((articleRepository 100).saveComment "hello-world" ⟨"c", 1⟩).run.outcome commented).2

/-- Operations lead to the sample. -/
theorem reachable_answered : answered.Reachable :=
  reachable_commented.article 100 (.saveComment "hello-world" ⟨"c", 1⟩)

/-- On the sample the author of the article deletes one comment with it. -/
theorem deletes_one : ∃ after, (removeWithComments 1 "hello-world").run answered = (.ok 1, after) := by
  have counted : ((removeWithComments 1 "hello-world").run answered).1 = .ok 1 := by
    decide +kernel
  rcases ran : (removeWithComments 1 "hello-world").run answered with ⟨result, after⟩
  rw [ran] at counted
  exact ⟨after, congrArg (·, after) counted⟩

/-- On the sample the article is not that of the other account. -/
theorem not_owns_answered : ¬ answered.tables.Owns 2 "hello-world" := by
  unfold Tables.Owns
  decide +kernel

/-- A cache with entries under the keys of two articles. -/
def twoEntries : TimedCache where
  cache := { capacity := 9, entries := [⟨articleKey "a-" "hello-world", [], none⟩,
    ⟨articleKey "a-" "other", [], none⟩] }

end Sample

/-- The author deletes the article and one comment, and only the other entry stays in the cache.
Whoever has merely commented on the article is refused, and both entries stay. -/
theorem deletion_by_hand_agrees_answered :
    let repository := (articleRepository 100).cached (CacheFront.inMemory "a-" 60 true)
    let state : Layered Database TimedCache := ⟨Sample.answered, Sample.twoEntries, []⟩
    (∃ after, (repository.deleteWithComments 1 "hello-world").run.outcome state =
        (.ok (.ok 1), after) ∧
      (repository.carryOut (.deletion 1 "hello-world")).run.outcome state =
        (.ok (.ok (), some (Work.deletionRecord 1 "hello-world" 1)), after) ∧
      after.cache.cache.entries = [⟨articleKey "a-" "other", [], none⟩]) ∧
    ∃ reported record after,
      (repository.carryOut (.deletion 2 "hello-world")).run.outcome state =
        (.ok (.error reported, record), after) ∧
      reported.rootCause = .notFound articleEntity "hello-world" ∧
      after.source.tables = Sample.answered.tables ∧ after.cache = Sample.twoEntries := by
  -- the database is too large to be opened more than once
  have reachable := Sample.reachable_answered
  have deletes_one := Sample.deletes_one
  have unowned := Sample.not_owns_answered
  generalize Sample.answered = db at reachable deletes_one unowned ⊢
  intro repository state
  constructor
  · obtain ⟨-, inMemory⟩ := deletion_by_hand_agrees 100 1 "hello-world"
    obtain ⟨result, report, after, whole, byHand, alike, -, left⟩ :=
      inMemory "a-" 60 true state reachable
    obtain ⟨source, ran⟩ := deletes_one
    have answer : _ = (Except.ok (Except.ok 1), _) :=
      @outcome_cached_deleteWithComments 1 "hello-world" 100 "a-" 60 true state _ _ ran
    cases whole.symm.trans answer
    cases alike
    refine ⟨_, whole, byHand, ?_⟩
    change (Sample.twoEntries.without [articleKey "a-" "hello-world"]).cache.entries = _
    decide +kernel
  · obtain ⟨-, inMemory⟩ := deletion_by_hand_agrees 100 2 "hello-world"
    obtain ⟨result, report, after, -, byHand, alike, ends, left⟩ :=
      inMemory "a-" 60 true state reachable
    obtain ⟨rfl, untouched⟩ := ends.refused unowned
    cases alike with
    | failed error reported record like =>
      exact ⟨reported, record, after, byHand, like.rootCause, untouched, left⟩

end Gazette
