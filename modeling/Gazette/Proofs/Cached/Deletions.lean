import Mathlib.Data.List.Basic
import Gazette.Proofs.Cached.Company
import Gazette.Proofs.Cached.Effects
import Gazette.Proofs.Flight.LateCallers
import Gazette.Proofs.Storage.Removals

/-!
# Lookups and deletions of articles in company

Deleting an article through the cache marks its row, looks whether there is a cached copy, and if so
removes it.  Nothing keeps a lookup from writing a copy after that.  So while articles are looked up
and deleted at the same time, a lookup that is called after an article has been deleted reports that
there is none, unless it gets what another lookup, under way at the end of the deletion, had got
before.
-/

set_option autoImplicit false

namespace Gazette

open Tables Session Database

variable {β : Type}

/-- Lookups of articles by their slugs and deletions of articles, through a cache. -/
def articleService (front : CacheFront β) (tagBatch : Nat) :
    Service Database β Article String Removal (Except StorageError Unit) where
  store := front.store
  lookup slug :=
    ⟨CacheKey.articleBySlug slug, Article.codec, ((articleRepository tagBatch).find slug).run⟩
  job
    | .article authorId slug => ((articleRepository tagBatch).cached front).delete authorId slug
    | .withComments authorId slug => do
      let removed ← ((articleRepository tagBatch).cached front).deleteWithComments authorId slug
      return removed.map fun _ => ()

/-- How far a deletion has come. -/
inductive RemovalStage where
  /-- It is about to change the tables. -/
  | ordered
  /-- It has changed the tables and is about to look for a cached copy. -/
  | looking
  /-- It has found a copy and is about to remove it. -/
  | forgetting
  /-- It has its result. -/
  | ended (result : Except StorageError Unit)

namespace RemovalStage

/-- What is left of a deletion at a stage. -/
def left (front : CacheFront β) (tagBatch : Nat) (removal : Removal) :
    RemovalStage → Activity (Layered Database β) (Except StorageError Unit)
  | ordered => (articleService front tagBatch).job removal
  | looking => do
    ArticleRepository.invalidateArticle front removal.slug
    return .ok ()
  | forgetting => do
    front.forget (CacheKey.articleBySlug removal.slug)
    return .ok ()
  | ended result => return result

/-- Whether a deletion at a stage has deleted its article from the tables. -/
def Done : RemovalStage → Prop
  | ordered | ended (.error _) => False
  | looking | forgetting | ended (.ok _) => True

end RemovalStage

/-- All that a step of a deletion can do: its stage and the state before the step, and those after
it. -/
inductive RemovalStep (fit : β → Prop) (shown : β → String → Option Payload) (keyStart : String)
    (removal : Removal) :
    RemovalStage → Layered Database β → RemovalStage → Layered Database β → Prop where
  | refused {state : Layered Database β} {source : Database} {error : StorageError}
      (ran : removal.effect state.source = (.error error, source)) :
      RemovalStep fit shown keyStart removal .ordered state (.ended (.error error))
        { state with source }
  | removed {state : Layered Database β} {source : Database}
      (ran : removal.effect state.source = (.ok (), source)) :
      RemovalStep fit shown keyStart removal .ordered state .looking { state with source }
  | absent {state : Layered Database β} {cache : β} (fits : fit cache)
      (fades : Fading (shown state.cache) (shown cache))
      (none : shown state.cache (articleKey keyStart removal.slug) = none) :
      RemovalStep fit shown keyStart removal .looking state (.ended (.ok ())) { state with cache }
  | present {state : Layered Database β} {cache : β} (fits : fit cache)
      (fades : Fading (shown state.cache) (shown cache)) :
      RemovalStep fit shown keyStart removal .looking state .forgetting { state with cache }
  | forgotten {state : Layered Database β} {cache : β} (fits : fit cache)
      (fades : Fading (shown state.cache) (shown cache))
      (gone : shown cache (articleKey keyStart removal.slug) = none) :
      RemovalStep fit shown keyStart removal .forgetting state (.ended (.ok ()))
        { state with cache }
  | rest {state : Layered Database β} {result : Except StorageError Unit} :
      RemovalStep fit shown keyStart removal (.ended result) state (.ended result) state

variable {front : CacheFront β} {tagBatch : Nat} {fit : β → Prop}
  {shown : β → String → Option Payload}

/-- The first step of a deletion changes the tables, and after a success the copy is dealt with. -/
theorem RemovalStage.advance_ordered (removal : Removal) {state : Layered Database β}
    {result : Except StorageError Unit} {source : Database}
    (ran : removal.effect state.source = (result, source)) :
    (ordered.left front tagBatch removal).advance state =
      (.ok (match result with
        | .error error => (ended (.error error)).left front tagBatch removal
        | .ok () => looking.left front tagBatch removal), { state with source }) := by
  cases removal with
  | article authorId slug =>
    have alone : (transaction (removeArticle authorId slug)).run state.source = (result, source) :=
      ran
    have answered : (Layered.onSource (β := β)
        (transaction (removeArticle authorId slug)).task).outcome state =
          (.ok result, { state with source }) := by
      rw [Layered.outcome_onSource, Session.task, Task.outcome_ofState, alone]
    cases result with
    | error error => exact Activity.advance_step answered
    | ok value => exact Activity.advance_step answered
  | withComments authorId slug =>
    cases both : (removeWithComments authorId slug).run state.source with
    | mk count last =>
      rw [Removal.effect_withComments both] at ran
      have answered : (Layered.onSource (β := β) (removeWithComments authorId slug).task).outcome
          state = (.ok count, { state with source := last }) := by
        rw [Layered.outcome_onSource, Session.task, Task.outcome_ofState, both]
      cases ran
      cases count with
      | error error => exact Activity.advance_step answered
      | ok count =>
        -- how many comments there were is passed on, and then forgotten
        have same : ((ArticleRepository.invalidateArticle front slug).bind fun _ =>
              (.done (.ok count) : Activity (Layered Database β) (Except StorageError Nat))).bind
            (fun removed => .done (removed.map fun _ => ())) =
              looking.left front tagBatch (.withComments authorId slug) :=
          Activity.bind_assoc _ _ _
        exact (Activity.advance_step answered).trans (by rw [← same]; rfl)

/-- A deletion makes only steps of these rules, and never stops without a result. -/
theorem RemovalStage.advance_left (reliable : Reliable front.store fit shown)
    (stage : RemovalStage) (removal : Removal) {state : Layered Database β}
    (fits : fit state.cache) :
    ∃ next after, (stage.left front tagBatch removal).advance state =
        (.ok (next.left front tagBatch removal), after) ∧
      RemovalStep fit shown front.store.keyStart removal stage state next after := by
  have named : CacheKey.articleBySlug removal.slug ≠ "" := articleBySlug_ne_empty
  cases stage with
  | ordered =>
    cases ran : removal.effect state.source with
    | mk result source =>
      cases result with
      | error error => exact ⟨.ended (.error error), _, advance_ordered removal ran, .refused ran⟩
      | ok value => exact ⟨.looking, _, advance_ordered removal ran, .removed ran⟩
  | looking =>
    obtain ⟨cache, answered, still_fits, fades⟩ := reliable.onCache_contains named fits
    cases there : shown state.cache
        (CacheKey.namespaced front.store.keyStart (CacheKey.articleBySlug removal.slug)) with
    | none =>
      rw [there] at answered
      exact ⟨.ended (.ok ()), _, Activity.advance_step answered, .absent still_fits fades there⟩
    | some payload =>
      rw [there] at answered
      exact ⟨.forgetting, _, Activity.advance_step answered, .present still_fits fades⟩
  | forgetting =>
    obtain ⟨cache, answered, still_fits, fades, gone⟩ := reliable.onCache_forget named fits
    exact ⟨.ended (.ok ()), _, Activity.advance_step answered, .forgotten still_fits fades gone⟩
  | ended result => exact ⟨.ended result, state, rfl, .rest⟩

/-- What a step of a deletion keeps: it brings no article back and puts nothing into the cache, and
whoever has deleted an article from the tables leaves none with its slug. -/
structure RemovalKeeps (fit : β → Prop) (shown : β → String → Option Payload) (removal : Removal)
    (state : Layered Database β) (next : RemovalStage) (after : Layered Database β) : Prop where
  tidy : after.source.Tidy
  removes : Removes state.source.tables after.source.tables
  fits : fit after.cache
  fades : Fading (shown state.cache) (shown after.cache)
  gone : next.Done → after.source.tables.activeWithSlug removal.slug = []

/-- Every step of a deletion keeps what it has to, given that a deletion that has been done has left
no article with its slug. -/
theorem RemovalStep.keeps {keyStart : String} {removal : Removal} {stage next : RemovalStage}
    {state after : Layered Database β}
    (step : RemovalStep fit shown keyStart removal stage state next after)
    (tidy : state.source.Tidy) (fits : fit state.cache)
    (gone : stage.Done → state.source.tables.activeWithSlug removal.slug = []) :
    RemovalKeeps fit shown removal state next after := by
  obtain ⟨still_tidy, removes⟩ := removal.tidy_effect tidy
  cases step with
  | refused ran =>
    rw [ran] at still_tidy removes
    exact ⟨still_tidy, removes, fits, fun _ _ live => live, nofun⟩
  | removed ran =>
    rw [ran] at still_tidy removes
    exact ⟨still_tidy, removes, fits, fun _ _ live => live,
      fun _ => Removal.gone_of_effect tidy ran⟩
  | absent still_fits fades | present still_fits fades | forgotten still_fits fades =>
    exact ⟨tidy, .refl _, still_fits, fades, fun _ => gone trivial⟩
  | rest => exact ⟨tidy, .refl _, fits, fun _ _ live => live, gone⟩

/-- A deletion with a result has ended with it. -/
theorem RemovalStage.eq_ended {removal : Removal} {stage : RemovalStage}
    {result : Except StorageError Unit}
    (returned : (Job.mk removal (.ok (stage.left front tagBatch removal)) :
      Job Database β Removal (Except StorageError Unit)).result? = some result) :
    stage = .ended result := by
  cases stage with
  | ended other =>
    cases returned
    rfl
  | ordered => cases removal <;> cases returned
  | looking | forgetting => cases returned

/-- The step with which a deletion returns leaves nothing in the cache under the slug. -/
theorem RemovalStep.empty_of_returns {keyStart : String} {removal : Removal} {stage : RemovalStage}
    {state after : Layered Database β}
    (step : RemovalStep fit shown keyStart removal stage state (.ended (.ok ())) after)
    (busy : stage ≠ .ended (.ok ())) :
    shown after.cache (articleKey keyStart removal.slug) = none := by
  cases step with
  | absent _ fades none =>
    rw [Option.eq_none_iff_forall_ne_some]
    intro payload live
    rw [fades _ _ live] at none
    cases none
  | forgotten _ _ gone => exact gone
  | rest => exact absurd rfl busy

/-- Lookups and deletions of articles that are under way. -/
abbrev Deletions (β : Type) := Company Database β Article Removal (Except StorageError Unit)

/-- Whether a fetch looks for an article. -/
def FindsArticle (front : CacheFront β) (tagBatch : Nat) (call : FetchCall Database Article) :
    Prop :=
  ∃ slug, call = ⟨articleKey front.store.keyStart slug, Article.codec,
    ((articleRepository tagBatch).find slug).run⟩

/-- What is known of the outcomes for a key suits the tables: anything is known, or the key is that
of an article that is gone, and so it is known that there is none. -/
def Suits (keyStart : String) (tables : Tables) (key : String)
    (known : Except StorageError Payload → Prop) : Prop :=
  (∀ outcome, known outcome) ∨ ∃ slug, key = articleKey keyStart slug ∧
    tables.activeWithSlug slug = [] ∧ known (.error (.notFound articleEntity slug))

/-- A lookup for an article reads the tables, and what it finds is known. -/
theorem reads_of_suits {db : Database} (healthy : db.Healthy) {key : String}
    {known : Except StorageError Payload → Prop}
    (suits : Suits front.store.keyStart db.tables key known) {call : FetchCall Database Article}
    (finds : FindsArticle front tagBatch call) :
    ∃ result, call.generate.outcome db = (.ok result, db) ∧
      (call.key = key → known (result.map Article.codec.encode)) := by
  obtain ⟨slug, rfl⟩ := finds
  have read : ((articleRepository tagBatch).find slug).run.outcome db =
      (.ok (db.tables.lookup slug), db) := by
    have task : (findArticle slug).task.outcome db = (.ok (db.tables.lookup slug), db) := by
      rw [Session.task, Task.outcome_ofState, run_findArticle healthy]
    exact Task.outcome_bind_of_ok task
  refine ⟨_, read, ?_⟩
  intro same
  rcases suits with any | ⟨other, rfl, gone, known_gone⟩
  · exact any _
  · cases articleKey_inj same
    rw [lookup_of_gone gone]
    exact known_gone

/-- What holds at every moment while articles are looked up and deleted. -/
structure Deleting (front : CacheFront β) (tagBatch : Nat) (fit : β → Prop)
    (shown : β → String → Option Payload) (key : String)
    (known : Except StorageError Payload → Prop) (early : Nat) (company : Deletions β)
    (stages : Nat → RemovalStage) : Prop where
  tidy : company.state.source.Tidy
  staged : company.Staged (fun removal stage => stage.left front tagBatch removal) stages
  gone {k : Nat} {removal : Removal}
      {rest : Except DeadlineOverflow (Activity (Layered Database β) (Except StorageError Unit))} :
    company.jobs[k]? = some ⟨removal, rest⟩ → (stages k).Done →
    company.state.source.tables.activeWithSlug removal.slug = []
  finds (caller : Caller Database Article) :
    caller ∈ company.burst.callers → FindsArticle front tagBatch caller.call
  suits : Suits front.store.keyStart company.state.source.tables key known
  informed : Informed fit shown Article.codec key known early company.burst

namespace Deleting

variable {key : String} {known : Except StorageError Payload → Prop} {early : Nat}
  {company next : Deletions β} {stages : Nat → RemovalStage} {k : Nat}

/-- A lookup is called. -/
theorem call (h : Deleting front tagBatch fit shown key known early company stages)
    (slug : String) :
    Deleting front tagBatch fit shown key known early
      ((articleService front tagBatch).call company slug) stages := by
  have finds : FindsArticle front tagBatch
      ⟨articleKey front.store.keyStart slug, Article.codec,
        ((articleRepository tagBatch).find slug).run⟩ := ⟨slug, rfl⟩
  have called : (articleService front tagBatch).call company slug =
      { company with
        burst.callers := company.burst.callers ++
          [⟨⟨articleKey front.store.keyStart slug, Article.codec,
            ((articleRepository tagBatch).find slug).run⟩, .called⟩] } := by
    unfold Service.call
    rw [CacheStore.caller_of_ne articleBySlug_ne_empty]
    rfl
  rw [called]
  refine ⟨h.tidy, h.staged, h.gone, ?_, h.suits, ?_⟩
  · intro caller there
    rcases List.mem_append.mp there with old | new
    · exact h.finds caller old
    · rw [List.mem_singleton.mp new]
      exact finds
  · exact h.informed.of_call rfl rfl (reads_of_suits h.tidy.toHealthy h.suits finds)

/-- Another deletion is ordered. -/
theorem order (h : Deleting front tagBatch fit shown key known early company stages)
    (removal : Removal) :
    Deleting front tagBatch fit shown key known early
      ((articleService front tagBatch).order company removal)
      (Function.update stages company.jobs.length .ordered) := by
  refine ⟨h.tidy, h.staged.ordered rfl, ?_, h.finds, h.suits, h.informed⟩
  intro k removal rest present done
  change (company.jobs ++ [_])[k]? = _ at present
  rcases Nat.lt_trichotomy k company.jobs.length with before | rfl | after
  · rw [List.getElem?_append_left before] at present
    rw [Function.update_of_ne (Nat.ne_of_lt before)] at done
    exact h.gone present done
  · rw [Function.update_self] at done
    exact done.elim
  · rw [List.getElem?_eq_none (by simp; omega)] at present
    cases present

/-- What is known of the outcomes goes on to suit the tables while articles are deleted. -/
theorem suits_of_removes (h : Deleting front tagBatch fit shown key known early company stages)
    {tables : Tables} (removes : Removes company.state.source.tables tables) :
    Suits front.store.keyStart tables key known := by
  rcases h.suits with any | ⟨slug, same, gone, known_gone⟩
  · exact .inl any
  · exact .inr ⟨slug, same, gone_of_removes gone removes, known_gone⟩

/-- What is known stays known while articles are deleted and the cache loses entries. -/
theorem informed_of_removes
    (h : Deleting front tagBatch fit shown key known early company stages)
    {state : Layered Database β} (healthy : state.source.Healthy)
    (removes : Removes company.state.source.tables state.source.tables) (fits : fit state.cache)
    (fades : Fading (shown company.state.cache) (shown state.cache)) :
    Informed fit shown Article.codec key known early
      { company.burst with world.state := state } :=
  h.informed.of_outside fits fades fun caller there =>
    reads_of_suits healthy (h.suits_of_removes removes) (h.finds caller there)

/-- The cache loses entries. -/
theorem lapse (h : Deleting front tagBatch fit shown key known early company stages) {cache : β}
    (lost : Lapses fit shown company.state.cache cache) :
    Deleting front tagBatch fit shown key known early (company.withCache cache) stages :=
  ⟨h.tidy, h.staged, h.gone, h.finds, h.suits,
    h.informed_of_removes h.tidy.toHealthy (.refl _) lost.1 lost.2⟩

/-- A lookup takes its next step. -/
theorem advance (h : Deleting front tagBatch fit shown key known early company stages)
    (reliable : Reliable front.store fit shown) (i : Nat) :
    Deleting front tagBatch fit shown key known early
      ((articleService front tagBatch).advance company i) stages := by
  rcases (articleService front tagBatch).advance_cases company i with
    same | ⟨caller, world, phase, present, step, moved⟩
  · rwa [same]
  · have source : world.state.source = company.state.source :=
      (h.informed.learns_step reliable present step).source
    have informed := h.informed.step_keeps reliable present step Article.lawful_codec
    rw [moved]
    refine ⟨?_, h.staged, ?_, ?_, ?_, informed⟩
    · change world.state.source.Tidy
      rw [source]
      exact h.tidy
    · intro k removal rest there done
      change world.state.source.tables.activeWithSlug removal.slug = []
      rw [source]
      exact h.gone there done
    · intro other there
      rcases List.mem_or_eq_of_mem_set there with old | rfl
      · exact h.finds other old
      · exact h.finds caller (List.mem_of_getElem? present)
    · change Suits front.store.keyStart world.state.source.tables key known
      rw [source]
      exact h.suits

/-- A deletion has taken a step from its stage to another one. -/
theorem moved (h : Deleting front tagBatch fit shown key known early company stages)
    {removal : Removal} {stage : RemovalStage} {after : Layered Database β}
    {rest : Except DeadlineOverflow (Activity (Layered Database β) (Except StorageError Unit))}
    (present : company.jobs[k]? = some ⟨removal, rest⟩)
    (advanced : ((stages k).left front tagBatch removal).advance company.state =
      (.ok (stage.left front tagBatch removal), after))
    (keeps : RemovalKeeps fit shown removal company.state stage after) :
    Deleting front tagBatch fit shown key known early (company.proceed k)
      (Function.update stages k stage) := by
  obtain ⟨same, staged⟩ := h.staged.proceed present advanced
  have informed := h.informed_of_removes keeps.tidy.toHealthy keeps.removes keeps.fits keeps.fades
  rw [same] at staged ⊢
  refine ⟨keeps.tidy, staged, ?_, h.finds, h.suits_of_removes keeps.removes, informed⟩
  intro j other rest there done
  change (company.jobs.set k _)[j]? = _ at there
  rcases eq_or_ne j k with rfl | different
  · rw [List.getElem?_set_self (List.getElem?_eq_some_iff.mp present).1] at there
    cases there
    rw [Function.update_self] at done
    exact keeps.gone done
  · rw [List.getElem?_set_ne different.symm] at there
    rw [Function.update_of_ne different] at done
    exact gone_of_removes (h.gone there done) keeps.removes

/-- A deletion takes its next step. -/
theorem proceed (h : Deleting front tagBatch fit shown key known early company stages)
    (reliable : Reliable front.store fit shown) (k : Nat) :
    ∃ stages, Deleting front tagBatch fit shown key known early (company.proceed k) stages := by
  cases present : company.jobs[k]? with
  | none => exact ⟨stages, by rwa [Company.proceed_of_absent present]⟩
  | some job =>
    obtain ⟨removal, rest⟩ := job
    obtain ⟨stage, after, advanced, step⟩ :=
      (stages k).advance_left reliable removal h.informed.fits
    exact ⟨_, h.moved present advanced (step.keeps h.tidy h.informed.fits (h.gone present))⟩

/-- Whatever happens next. -/
theorem step (h : Deleting front tagBatch fit shown key known early company stages)
    (reliable : Reliable front.store fit shown)
    (step : (articleService front tagBatch).Step (Lapses fit shown) company next) :
    ∃ stages, Deleting front tagBatch fit shown key known early next stages := by
  cases step with
  | call slug => exact ⟨stages, h.call slug⟩
  | advance i => exact ⟨stages, h.advance reliable i⟩
  | order removal => exact ⟨_, h.order removal⟩
  | proceed k => exact h.proceed reliable k
  | lapse lost => exact ⟨stages, h.lapse lost⟩

/-- Whatever has happened. -/
theorem after_run (h : Deleting front tagBatch fit shown key known early company stages)
    (reliable : Reliable front.store fit shown)
    (run : (articleService front tagBatch).Run (Lapses fit shown) company next) :
    ∃ stages, Deleting front tagBatch fit shown key known early next stages := by
  induction run with
  | refl => exact ⟨stages, h⟩
  | tail _ step ih =>
    obtain ⟨stages, deleting⟩ := ih
    exact deleting.step reliable step

/-- Before anything is asked for. -/
theorem begins {db : Database} {cache : β} {observed : List Observation} (tidy : db.Tidy)
    (fits : fit cache) :
    Deleting front tagBatch fit shown key (fun _ => True) early (.start ⟨db, cache, observed⟩)
      fun _ => .ordered where
  tidy := tidy
  staged k job there := by simp [Company.start] at there
  gone there := by simp [Company.start] at there
  finds caller there := by cases there
  suits := .inl fun _ => trivial
  informed := .of_start fits

/-- From the end of a deletion on it is known that there is no article, and what callers under way
have got is known as well. -/
theorem from_return {other : String} {removal : Removal}
    (h : Deleting front tagBatch fit shown other known early company stages)
    (reliable : Reliable front.store fit shown) (returns : company.Returns k removal (.ok ())) :
    ∃ stages, Deleting front tagBatch fit shown (articleKey front.store.keyStart removal.slug)
      (fun outcome => outcome = .error (.notFound articleEntity removal.slug) ∨
        ∃ caller ∈ (company.proceed k).burst.callers,
          caller.call.key = articleKey front.store.keyStart removal.slug ∧
            caller.phase.outcome? Article.codec = some outcome)
      (company.proceed k).burst.callers.length (company.proceed k) stages := by
  obtain ⟨⟨order, rest⟩, later, present, rfl, busy, there, result⟩ := returns
  obtain ⟨stage, after, advanced, step⟩ : ∃ stage after,
      ((stages k).left front tagBatch order).advance company.state =
        (.ok (stage.left front tagBatch order), after) ∧
      RemovalStep fit shown front.store.keyStart order (stages k) company.state stage after :=
    (stages k).advance_left reliable order h.informed.fits
  have keeps := step.keeps h.tidy h.informed.fits (h.gone present)
  have next := h.moved present advanced keeps
  obtain ⟨same, -⟩ := h.staged.proceed present advanced
  have state : (company.proceed k).state = after := by
    rw [same]
    rfl
  have returned : stage = .ended (.ok ()) := by
    have inside := (List.getElem?_eq_some_iff.mp present).1
    rw [same] at there
    cases (List.getElem?_set_self inside).symm.trans there
    exact RemovalStage.eq_ended result
  have not_before : stages k ≠ .ended (.ok ()) := by
    intro ended
    have under_way : rest = .ok ((stages k).left front tagBatch order) := h.staged k _ present
    rw [under_way, ended] at busy
    cases busy
  subst returned
  have empty := step.empty_of_returns not_before
  have gone := keeps.gone trivial
  rw [← state] at empty gone
  have suits : Suits front.store.keyStart (company.proceed k).state.source.tables
      (articleKey front.store.keyStart order.slug)
      (fun outcome => outcome = .error (.notFound articleEntity order.slug)) :=
    .inr ⟨_, rfl, gone, rfl⟩
  refine ⟨_, next.tidy, next.staged, next.gone, next.finds, .inr ⟨_, rfl, gone, .inl rfl⟩, ?_⟩
  exact next.informed.from_now empty fun caller there =>
    reads_of_suits next.tidy.toHealthy suits (next.finds caller there)

end Deleting

/-- A lookup that is called after an article has been deleted reports that there is no article with
the slug, unless it gets what a lookup that was under way when the deletion returned had got by then
from the tables or from the cache.  It is not lost: when nobody can make a step any more it has
returned. -/
theorem lookups_after_deletion (front : CacheFront β) {fit : β → Prop}
    {shown : β → String → Option Payload} (reliable : Reliable front.store fit shown)
    (tagBatch : Nat) {db : Database} (tidy : db.Tidy) {cache : β} (fits : fit cache)
    (observed : List Observation) {before calling ended : Deletions β}
    (run : (articleService front tagBatch).Run (Lapses fit shown) (.start ⟨db, cache, observed⟩)
      before)
    {k : Nat} {removal : Removal} (returns : before.Returns k removal (.ok ()))
    (later : (articleService front tagBatch).Run (Lapses fit shown) (before.proceed k) calling)
    (rest : (articleService front tagBatch).Run (Lapses fit shown)
      ((articleService front tagBatch).call calling removal.slug) ended) :
    ∃ caller, ended.burst.callers[calling.burst.callers.length]? = some caller ∧
      (∀ result, caller.phase.result? = some result →
        result.map Fetched.value = .error (.notFound articleEntity removal.slug) ∨
          ∃ other ∈ (before.proceed k).burst.callers,
            other.call.key = articleKey front.store.keyStart removal.slug ∧
            ∃ outcome, other.phase.outcome? Article.codec = some outcome ∧
              result.map Fetched.value = CacheStore.shared Article.codec outcome) ∧
      ((∀ i, front.store.stepBurst ended.burst i = none) → caller.phase.result?.isSome) := by
  have begun : Deleting front tagBatch fit shown "" (fun _ => True) 0 (.start ⟨db, cache, observed⟩)
      fun _ => .ordered := .begins tidy fits
  obtain ⟨_, start⟩ := begun.after_run reliable run
  obtain ⟨_, returned⟩ := start.from_return reliable returns
  obtain ⟨_, deleting⟩ := returned.after_run reliable
    (later.trans (.head (.call calling removal.slug) rest))
  obtain ⟨caller, there, same⟩ := rest.caller (List.getElem?_concat_length :
    (calling.burst.callers ++ [_])[calling.burst.callers.length]? = _)
  have fetches : caller.call.key = articleKey front.store.keyStart removal.slug := by
    rw [same, CacheStore.caller_of_ne articleBySlug_ne_empty]
    rfl
  refine ⟨caller, there, ?_, fun stuck => deleting.informed.result_of_stuck stuck there⟩
  intro result got
  have phase : caller.phase = .returned result := by
    cases phase : caller.phase with
    | returned other =>
      rw [phase] at got
      cases got
      rfl
    | _ =>
      rw [phase] at got
      cases got
  obtain ⟨outcome, rfl | ⟨other, present, other_fetches, held⟩, same_result⟩ :=
    deleting.informed.returned later.length_le there fetches phase
  · exact .inl same_result
  · exact .inr ⟨other, present, other_fetches, outcome, held, same_result⟩

namespace Sample

/-- A published article and its author. -/
def onePublished : Layered Database TimedCache where
  source :=
    { tables :=
        { accounts :=
            [{ id := 1, username := .text "u", email := .text "u@x.com", password := .text "p"
               bio := .text "", image := .text "", disabled := .integer 0
               createdAt := .text moment.stored, updatedAt := .text moment.stored }]
          articles :=
            [{ id := 1, slug := .text "a", title := .text "A", body := .text "b"
               authorId := .integer 1, createdAt := .text moment.stored
               updatedAt := .text moment.stored, deletedAtUnix := .integer 0 }]
          lastAccount := 1
          lastArticle := 1 }
      clock := fun _ => moment }
  cache := { cache := { capacity := 8 } }

/-- Lookups and deletions through a cache in memory. -/
def articles : Service Database TimedCache Article String Removal (Except StorageError Unit) :=
  articleService (.inMemory "article-" Duration.second true) 100

/-- Some steps of the lookup with a number. -/
def looked (company : Deletions TimedCache) (i steps : Nat) : Deletions TimedCache :=
  (List.replicate steps i).foldl articles.advance company

/-- The steps of a single lookup are a run. -/
theorem run_looked (lapses : TimedCache → TimedCache → Prop) (company : Deletions TimedCache)
    (i steps : Nat) : articles.Run lapses company (looked company i steps) := by
  unfold looked
  induction steps generalizing company with
  | zero => exact .refl
  | succ steps ih => exact .head (.advance company i) (ih (articles.advance company i))

/-- The title that the lookup with a number has returned. -/
def titleOf (company : Deletions TimedCache) (i : Nat) : Option String := do
  let caller ← company.burst.callers[i]?
  let result ← caller.phase.result?
  let fetched ← result.toOption
  return fetched.value.title

/-- The article has been looked up, and its deletion is about to remove the copy. -/
def forgetting : Deletions TimedCache :=
  [0, 0].foldl Company.proceed
    (articles.order (looked (articles.call (.start onePublished) "a") 0 9) (.article 1 "a"))

/-- The lookup has read the article, and its deletion has found no copy. -/
def overlapping : Deletions TimedCache :=
  [0].foldl Company.proceed
    (articles.order (looked (articles.call (.start onePublished) "a") 0 6) (.article 1 "a"))

/-- The tables of the sample are tidy. -/
theorem tidy_onePublished : onePublished.source.Tidy where
  triggers := rfl
  missing := rfl
  locked := rfl
  closed := rfl
  one slug := List.length_filter_le _ _
  dated reading := by
    have apart : Int64.ofInt moment.unix ≠ 0 := by decide
    exact apart

end Sample

/-- A lookup after the end of a deletion that has met nobody. -/
theorem lookups_after_deletion_alone :
    Sample.onePublished.source.Tidy ∧ TimedCache.fitsClock 0 (some Duration.second) ∧
      Sample.forgetting.Returns 0 (.article 1 "a") (.ok ()) ∧
      ∃ caller result,
        (Sample.looked (Sample.articles.call (Sample.forgetting.proceed 0) "a") 1 7).burst.callers[
            (Sample.forgetting.proceed 0).burst.callers.length]? = some caller ∧
          caller.phase.result? = some result ∧
          result.map Fetched.value = .error (.notFound articleEntity "a") := by
  have fits : TimedCache.fitsClock 0 (some Duration.second) := by
    intro time same
    cases same
    decide
  have returns : Sample.forgetting.Returns 0 (.article 1 "a") (.ok ()) :=
    Company.returns_of_results rfl rfl rfl
  have got :
      ((Sample.looked (Sample.articles.call (Sample.forgetting.proceed 0) "a") 1 7).burst.callers[
        (Sample.forgetting.proceed 0).burst.callers.length]?.bind
          fun caller => caller.phase.result?).isSome = true := by
    decide +kernel
  have nobody : ((Sample.forgetting.proceed 0).burst.callers.all
      fun caller => (caller.phase.outcome? Article.codec).isNone) = true := by
    decide +kernel
  have begun : Sample.articles.Run (Lapses (fun cache => 0 < cache.cache.capacity ∧
      TimedCache.fitsClock cache.now (some Duration.second)) TimedCache.live?)
      (.start Sample.onePublished) Sample.forgetting :=
    .trans (.head (.call _ _) (Sample.run_looked _ _ _ _))
      (.head (.order _ _) (Service.run_proceed _ _ _ _))
  obtain ⟨caller, there, answers, -⟩ := lookups_after_deletion
    (.inMemory "article-" Duration.second true) (TimedCache.reliable "article-" Duration.second) 100
    Sample.tidy_onePublished ⟨by decide, fits⟩ [] begun returns .refl
    (Sample.run_looked _ (Sample.articles.call (Sample.forgetting.proceed 0) "a") 1 7)
  refine ⟨Sample.tidy_onePublished, fits, returns, caller, ?_⟩
  rw [there] at got
  obtain ⟨result, returned⟩ := Option.isSome_iff_exists.mp got
  refine ⟨result, there, returned, ?_⟩
  rcases answers result returned with missing | ⟨other, present, -, outcome, held, -⟩
  · exact missing
  · have holds := List.all_eq_true.mp nobody other present
    rw [held] at holds
    cases holds

/-- A lookup after the end of a deletion can show the article that has been deleted: another lookup
has read it before, and writes the copy afterwards. -/
theorem late_lookup_shows_deleted_article :
    Sample.articles.Run (fun _ _ => False) (.start Sample.onePublished) Sample.overlapping ∧
      Sample.overlapping.Returns 0 (.article 1 "a") (.ok ()) ∧
      Sample.titleOf (Sample.looked
        (Sample.articles.call (Sample.looked (Sample.overlapping.proceed 0) 0 1) "a") 1 1) 1 =
          some "A" :=
  ⟨.trans (.head (.call _ _) (Sample.run_looked _ _ _ _))
      (.head (.order _ _) (Service.run_proceed _ _ _ _)),
    Company.returns_of_results rfl rfl rfl, by decide +kernel⟩

end Gazette
