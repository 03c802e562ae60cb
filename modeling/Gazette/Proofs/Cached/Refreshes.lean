import Mathlib.Data.List.Basic
import Gazette.Proofs.Cache.Reliable
import Gazette.Proofs.Cached.Company
import Gazette.Proofs.Cached.Effects
import Gazette.Proofs.Json.RoundTrip

/-!
# Updates of one account in company

An update through the cache writes the row, looks whether there is a cached copy, and if so reads
the account again and writes the copy.  Nothing holds these steps together.  So updates of one
account that run at the same time leave a copy that is up to date, unless another update has written
the row between the reading and the writing of the copy.
-/

set_option autoImplicit false

namespace Gazette

open Tables Session Database

variable {β : Type}

/-- Updates of the account with an email, through a cache. -/
def accountUpdates (front : CacheFront β) (email : String) :
    Service Database β Account Empty AccountPatch (Except StorageError Unit) where
  store := front.store
  lookup := nofun
  job patch := (accountRepository.cached front).update email patch

/-- How far an update has come. -/
inductive UpdateStage where
  /-- It is about to write the row. -/
  | ordered
  /-- It has written the row and is about to look for a cached copy. -/
  | looking
  /-- It has found a copy and is about to read the account again. -/
  | reading
  /-- It is about to write the copy of an account. -/
  | keeping (account : Account)
  /-- It could not read the account again and is about to remove the copy. -/
  | forgetting
  /-- It has its result. -/
  | ended (result : Except StorageError Unit)

namespace UpdateStage

/-- What is left of an update at a stage. -/
def left (front : CacheFront β) (email : String) (patch : AccountPatch) :
    UpdateStage → Activity (Layered Database β) (Except StorageError Unit)
  | ordered => (accountRepository.cached front).update email patch
  | looking => do
    accountRepository.refresh front email
    return .ok ()
  | reading => do
    (do match ← (accountRepository.find email).onSource with
      | .ok account => AccountRepository.keepAccount front account
      | .error _ => front.forget (CacheKey.userByEmail email))
    return .ok ()
  | keeping account => do
    AccountRepository.keepAccount front account
    return .ok ()
  | forgetting => do
    front.forget (CacheKey.userByEmail email)
    return .ok ()
  | ended result => return result

/-- Whether an update at a stage has written the row and is going to deal with the copy. -/
def Pending : UpdateStage → Prop
  | ordered | ended _ => False
  | looking | reading | keeping _ | forgetting => True

/-- Whether an update at a stage has not written the row. -/
def Unwritten : UpdateStage → Prop
  | ordered | ended (.error _) => True
  | looking | reading | keeping _ | forgetting | ended (.ok _) => False

end UpdateStage

/-- All that a step of an update can do: its stage and the state before the step, and those after
it. -/
inductive UpdateStep (fit : β → Prop) (shown : β → String → Option Payload)
    (keyStart email : String) (patch : AccountPatch) :
    UpdateStage → Layered Database β → UpdateStage → Layered Database β → Prop where
  | refused {state : Layered Database β} {source : Database} {error : StorageError}
      (ran : (updateAccount email patch).run state.source = (.error error, source)) :
      UpdateStep fit shown keyStart email patch .ordered state (.ended (.error error))
        { state with source }
  | written {state : Layered Database β} {source : Database}
      (ran : (updateAccount email patch).run state.source = (.ok (), source)) :
      UpdateStep fit shown keyStart email patch .ordered state .looking { state with source }
  | absent {state : Layered Database β} {cache : β} (fits : fit cache)
      (fades : Fading (shown state.cache) (shown cache))
      (none : shown state.cache (userKey keyStart email) = none) :
      UpdateStep fit shown keyStart email patch .looking state (.ended (.ok ()))
        { state with cache }
  | present {state : Layered Database β} {cache : β} (fits : fit cache)
      (fades : Fading (shown state.cache) (shown cache)) :
      UpdateStep fit shown keyStart email patch .looking state .reading { state with cache }
  | read {state : Layered Database β} {account : Account}
      (held : state.source.tables.holder email = .ok account) :
      UpdateStep fit shown keyStart email patch .reading state (.keeping account) state
  | unreadable {state : Layered Database β} {error : StorageError}
      (held : state.source.tables.holder email = .error error) :
      UpdateStep fit shown keyStart email patch .reading state .forgetting state
  | kept {state : Layered Database β} {cache : β} {account : Account} (fits : fit cache)
      (shows_ : ∀ key payload, shown cache key = some payload →
        key = userKey keyStart account.email ∧ payload = Account.codec.encode account.redacted ∨
          key ≠ userKey keyStart account.email ∧ shown state.cache key = some payload) :
      UpdateStep fit shown keyStart email patch (.keeping account) state (.ended (.ok ()))
        { state with cache }
  | forgotten {state : Layered Database β} {cache : β} (fits : fit cache)
      (fades : Fading (shown state.cache) (shown cache))
      (gone : shown cache (userKey keyStart email) = none) :
      UpdateStep fit shown keyStart email patch .forgetting state (.ended (.ok ()))
        { state with cache }
  | rest {state : Layered Database β} {result : Except StorageError Unit} :
      UpdateStep fit shown keyStart email patch (.ended result) state (.ended result) state

variable {front : CacheFront β} {fit : β → Prop} {shown : β → String → Option Payload}
  {email : String}

/-- An update makes only steps of these rules, and never stops without a result. -/
theorem UpdateStage.advance_left (reliable : Reliable front.store fit shown)
    (stage : UpdateStage) (patch : AccountPatch) {state : Layered Database β}
    (healthy : state.source.Healthy) (fits : fit state.cache) :
    ∃ next after, (stage.left front email patch).advance state =
        (.ok (next.left front email patch), after) ∧
      UpdateStep fit shown front.store.keyStart email patch stage state next after := by
  have named (email : String) : CacheKey.userByEmail email ≠ "" := userByEmail_ne_empty
  cases stage with
  | ordered =>
    cases ran : (updateAccount email patch).run state.source with
    | mk result source =>
      have answered : (Layered.onSource (β := β) (updateAccount email patch).task).outcome state =
          (.ok result, { state with source }) := by
        rw [Layered.outcome_onSource, Session.task, Task.outcome_ofState, ran]
      cases result with
      | error error =>
        exact ⟨.ended (.error error), _, Activity.advance_step answered, .refused ran⟩
      | ok value => exact ⟨.looking, _, Activity.advance_step answered, .written ran⟩
  | looking =>
    obtain ⟨cache, answered, still_fits, fades⟩ := reliable.onCache_contains (named email) fits
    cases there : shown state.cache
        (CacheKey.namespaced front.store.keyStart (CacheKey.userByEmail email)) with
    | none =>
      rw [there] at answered
      exact ⟨.ended (.ok ()), _, Activity.advance_step answered, .absent still_fits fades there⟩
    | some payload =>
      rw [there] at answered
      exact ⟨.reading, _, Activity.advance_step answered, .present still_fits fades⟩
  | reading =>
    have answered : (Layered.onSource (β := β) (findAccount email).task).outcome state =
        (.ok (state.source.tables.holder email), state) := by
      rw [Layered.outcome_onSource, Session.task, Task.outcome_ofState, findAccount_eq healthy]
    cases held : state.source.tables.holder email with
    | ok account =>
      rw [held] at answered
      exact ⟨.keeping account, _, Activity.advance_step answered, .read held⟩
    | error error =>
      rw [held] at answered
      exact ⟨.forgetting, _, Activity.advance_step answered, .unreadable held⟩
  | keeping account =>
    obtain ⟨cache, answered, still_fits, shows_⟩ :=
      reliable.onCache_keep (named account.email) fits Account.codec account.redacted
    exact ⟨.ended (.ok ()), _, Activity.advance_step answered, .kept still_fits shows_⟩
  | forgetting =>
    obtain ⟨cache, answered, still_fits, fades, gone⟩ := reliable.onCache_forget (named email) fits
    exact ⟨.ended (.ok ()), _, Activity.advance_step answered, .forgotten still_fits fades gone⟩
  | ended result => exact ⟨.ended result, state, rfl, .rest⟩

/-- An update with a result has ended with it. -/
theorem UpdateStage.eq_ended {stage : UpdateStage} {patch : AccountPatch}
    {result : Except StorageError Unit}
    (returned : (Job.mk patch (.ok (stage.left front email patch)) :
      Job Database β AccountPatch (Except StorageError Unit)).result? = some result) :
    stage = .ended result := by
  cases stage with
  | ended other =>
    cases returned
    rfl
  | ordered | looking | reading | keeping | forgetting => cases returned

/-- A copy that says, without the credential, what account the database holds. -/
def UpToDate (email : String) (db : Database) (payload : Payload) : Prop :=
  ∃ account, db.tables.holder email = .ok account ∧
    Account.codec.decode payload = .ok account.redacted

/-- Updates of one account that are under way. -/
abbrev Updates (β : Type) := Company Database β Account AccountPatch (Except StorageError Unit)

/-- The update with number `k` is at a stage. -/
def Updates.At (front : CacheFront β) (email : String) (company : Updates β) (k : Nat)
    (stage : UpdateStage) : Prop :=
  ∃ patch, company.jobs[k]? = some ⟨patch, .ok (stage.left front email patch)⟩

/-- What is found under the email at the moment. -/
def Updates.holder (company : Updates β) (email : String) : Except StorageError Account :=
  company.state.source.tables.holder email

/-- The update with number `k` has read an account: what was under way when it was about to read,
and what is under way since. -/
structure ReadBy (front : CacheFront β) (email : String) (lapses : β → β → Prop)
    (start read after : Updates β) (k : Nat) (account : Account) : Prop where
  begun : (accountUpdates front email).Run lapses start read
  reading : read.At front email k .reading
  held : read.holder email = .ok account
  since : (accountUpdates front email).Run lapses (read.proceed k) after

/-- The update with number `k` has read an account and then written the copy of it, and the account
has not changed since: what was under way when it was about to read, when it was about to write,
and what is under way now. -/
structure KeptBy (front : CacheFront β) (email : String) (lapses : β → β → Prop)
    (start read written after : Updates β) (k : Nat) (account : Account) : Prop where
  before : ReadBy front email lapses start read written k account
  keeping : written.At front email k (.keeping account)
  since : (accountUpdates front email).Run lapses (written.proceed k) after
  unchanged : after.holder email = written.holder email

/-- A copy has been overtaken: another update has changed the row between the reading of the account
and the writing of the copy. -/
def Overtaken (front : CacheFront β) (email : String) (lapses : β → β → Prop)
    (start after : Updates β) (payload : Payload) : Prop :=
  ∃ read written k account, KeptBy front email lapses start read written after k account ∧
    written.holder email ≠ .ok account ∧ Account.codec.decode payload = .ok account.redacted

/-- A copy has not been touched: no update has succeeded, and the copy and the account are as they
were at the start. -/
structure Untouched (front : CacheFront β) (email : String) (shown : β → String → Option Payload)
    (start after : Updates β) (payload : Payload) : Prop where
  failed : ∀ job ∈ after.jobs, job.result? ≠ some (.ok ())
  copied : shown start.state.cache (userKey front.store.keyStart email) = some payload
  unchanged : after.holder email = start.holder email

/-- What is known of a copy while updates are under way: one of them is going to deal with it, or it
is up to date, or it has been overtaken, or no update has written the row. -/
inductive Explained (front : CacheFront β) (email : String) (lapses : β → β → Prop)
    (shown : β → String → Option Payload) (start company : Updates β) (stages : Nat → UpdateStage)
    (payload : Payload) : Prop where
  | pending {k : Nat} (there : k < company.jobs.length) (pending : (stages k).Pending)
  | synced (synced : UpToDate email company.state.source payload)
  | overtaken (overtaken : Overtaken front email lapses start company payload)
  | unwritten (unwritten : ∀ k < company.jobs.length, (stages k).Unwritten)
      (copied : shown start.state.cache (userKey front.store.keyStart email) = some payload)
      (unchanged : company.holder email = start.holder email)

section Runs

variable {lapses : β → β → Prop} {start company next : Updates β}
  {stages : Nat → UpdateStage} {k : Nat} {account : Account} {payload : Payload}

/-- What has been read has been read whatever happens next. -/
theorem ReadBy.tail {read : Updates β} (h : ReadBy front email lapses start read company k account)
    (step : (accountUpdates front email).Step lapses company next) :
    ReadBy front email lapses start read next k account :=
  ⟨h.begun, h.reading, h.held, h.since.tail step⟩

/-- A copy that has been overtaken stays so as long as the account does not change. -/
theorem Overtaken.tail (h : Overtaken front email lapses start company payload)
    (step : (accountUpdates front email).Step lapses company next)
    (same : next.holder email = company.holder email) :
    Overtaken front email lapses start next payload := by
  obtain ⟨read, written, k, account, kept, changed, decoded⟩ := h
  exact ⟨read, written, k, account,
    ⟨kept.before, kept.keeping, kept.since.tail step, same.trans kept.unchanged⟩, changed, decoded⟩

/-- What holds of the updates of one account at every moment. -/
structure Refreshing (front : CacheFront β) (email : String) (fit : β → Prop)
    (shown : β → String → Option Payload) (start company : Updates β) (stages : Nat → UpdateStage) :
    Prop where
  run : (accountUpdates front email).Run (Lapses fit shown) start company
  alone : company.burst.callers = []
  healthy : company.state.source.Healthy
  closed : company.state.source.beforeWork = none
  fits : fit company.state.cache
  staged : company.Staged (fun patch stage => stage.left front email patch) stages
  read : ∀ k account, k < company.jobs.length → stages k = .keeping account →
    ∃ read, ReadBy front email (Lapses fit shown) start read company k account
  copy : ∀ payload, shown company.state.cache (userKey front.store.keyStart email) = some payload →
    Explained front email (Lapses fit shown) shown start company stages payload

namespace Refreshing

/-- Before the first update is ordered. -/
theorem begins {db : Database} {cache : β} {observed : List Observation} (healthy : db.Healthy)
    (closed : db.beforeWork = none) (fits : fit cache) :
    Refreshing front email fit shown (.start ⟨db, cache, observed⟩) (.start ⟨db, cache, observed⟩)
      fun _ => .ordered where
  run := .refl
  alone := rfl
  healthy := healthy
  closed := closed
  fits := fits
  staged k job there := by simp [Company.start] at there
  read k account there := absurd there (Nat.not_lt_zero k)
  copy payload live := .unwritten (fun k there => absurd there (Nat.not_lt_zero k)) live rfl

/-- Another update is ordered. -/
theorem order (h : Refreshing front email fit shown start company stages) (patch : AccountPatch) :
    Refreshing front email fit shown start ((accountUpdates front email).order company patch)
      (Function.update stages company.jobs.length .ordered) := by
  have step : (accountUpdates front email).Step (Lapses fit shown) company
      ((accountUpdates front email).order company patch) := .order company patch
  have before {k : Nat} (there : k < company.jobs.length) :
      Function.update stages company.jobs.length .ordered k = stages k :=
    Function.update_of_ne (Nat.ne_of_lt there) _ _
  have length : ((accountUpdates front email).order company patch).jobs.length =
      company.jobs.length + 1 := by
    simp [Service.order]
  refine ⟨h.run.tail step, h.alone, h.healthy, h.closed, h.fits, h.staged.ordered rfl, ?_, ?_⟩
  · intro k account there keeping
    rcases Nat.lt_or_eq_of_le (Nat.lt_succ_iff.mp (length ▸ there)) with old | rfl
    · rw [before old] at keeping
      obtain ⟨read, readBy⟩ := h.read k account old keeping
      exact ⟨read, readBy.tail step⟩
    · rw [Function.update_self] at keeping
      cases keeping
  · intro payload live
    cases h.copy payload live with
    | pending there pending =>
      exact .pending (Nat.lt_of_lt_of_eq (Nat.lt_succ_of_lt there) length.symm)
        (by rwa [before there])
    | synced synced => exact .synced synced
    | overtaken overtaken => exact .overtaken (overtaken.tail step rfl)
    | unwritten unwritten copied unchanged =>
      refine .unwritten ?_ copied unchanged
      intro k there
      rcases Nat.lt_or_eq_of_le (Nat.lt_succ_iff.mp (length ▸ there)) with old | rfl
      · rw [before old]
        exact unwritten k old
      · rw [Function.update_self]
        trivial

/-- The cache loses entries. -/
theorem lapse (h : Refreshing front email fit shown start company stages) {cache : β}
    (lost : Lapses fit shown company.state.cache cache) :
    Refreshing front email fit shown start (company.withCache cache) stages := by
  have step : (accountUpdates front email).Step (Lapses fit shown) company
      (company.withCache cache) := .lapse company lost
  refine ⟨h.run.tail step, h.alone, h.healthy, h.closed, lost.1, h.staged, ?_, ?_⟩
  · intro k account there keeping
    obtain ⟨read, readBy⟩ := h.read k account there keeping
    exact ⟨read, readBy.tail step⟩
  · intro payload live
    cases h.copy payload (lost.2 _ _ live) with
    | pending there pending => exact .pending there pending
    | synced synced => exact .synced synced
    | overtaken overtaken => exact .overtaken (overtaken.tail step rfl)
    | unwritten unwritten copied unchanged => exact .unwritten unwritten copied unchanged

/-- An update has taken a step from its stage to another one.  Whoever is about to write a copy now
has just read the account. -/
theorem moved (h : Refreshing front email fit shown start company stages) {patch : AccountPatch}
    {rest : Except DeadlineOverflow (Activity (Layered Database β) (Except StorageError Unit))}
    (present : company.jobs[k]? = some ⟨patch, rest⟩) {stage : UpdateStage}
    {after : Layered Database β}
    (advanced : ((stages k).left front email patch).advance company.state =
      (.ok (stage.left front email patch), after))
    (healthy : after.source.Healthy) (closed : after.source.beforeWork = none)
    (fits : fit after.cache)
    (read : ∀ account, stage = .keeping account →
      stages k = .reading ∧ company.holder email = .ok account)
    (copy : ∀ payload, shown after.cache (userKey front.store.keyStart email) = some payload →
      Explained front email (Lapses fit shown) shown start (company.proceed k)
        (Function.update stages k stage) payload) :
    Refreshing front email fit shown start (company.proceed k)
      (Function.update stages k stage) := by
  have step : (accountUpdates front email).Step (Lapses fit shown) company (company.proceed k) :=
    .proceed company k
  obtain ⟨same, staged⟩ := h.staged.proceed present advanced
  have state : (company.proceed k).state = after := by
    rw [same]
    rfl
  refine ⟨h.run.tail step, ?_, ?_, ?_, ?_, staged, ?_, ?_⟩
  · rw [same]
    exact h.alone
  · rwa [state]
  · rwa [state]
  · rwa [state]
  · intro j account there keeping
    rw [Company.length_proceed] at there
    rcases eq_or_ne j k with rfl | different
    · rw [Function.update_self] at keeping
      obtain ⟨reading, held⟩ := read account keeping
      have under_way : rest = .ok ((stages j).left front email patch) := h.staged j _ present
      exact ⟨company, h.run, ⟨patch, by rw [present, under_way, reading]⟩, held, .refl⟩
    · rw [Function.update_of_ne different] at keeping
      obtain ⟨read, readBy⟩ := h.read j account there keeping
      exact ⟨read, readBy.tail step⟩
  · rwa [state]

/-- What is known of a copy stays known while nothing changes under the email, if the update that
has taken a step has neither written the row with it nor been going to deal with the copy. -/
theorem stays (h : Refreshing front email fit shown start company stages) (k : Nat)
    (payload : Payload) (idle : ¬ (stages k).Pending) (stage : UpdateStage)
    (unwritten : (stages k).Unwritten → stage.Unwritten)
    (same : Updates.holder (company.proceed k) email = company.holder email)
    (live : shown company.state.cache (userKey front.store.keyStart email) = some payload) :
    Explained front email (Lapses fit shown) shown start (company.proceed k)
      (Function.update stages k stage) payload := by
  cases h.copy payload live with
  | @pending j there pending =>
    have different : j ≠ k := by
      rintro rfl
      exact idle pending
    exact .pending (by rwa [Company.length_proceed]) (by rwa [Function.update_of_ne different])
  | synced synced =>
    obtain ⟨account, held, decoded⟩ := synced
    exact .synced ⟨account, same.trans held, decoded⟩
  | overtaken overtaken => exact .overtaken (overtaken.tail (.proceed company k) same)
  | unwritten before copied unchanged =>
    refine .unwritten ?_ copied (same.trans unchanged)
    intro j there
    rw [Company.length_proceed] at there
    rcases eq_or_ne j k with rfl | different
    · rw [Function.update_self]
      exact unwritten (before j there)
    · rw [Function.update_of_ne different]
      exact before j there

/-- An update takes its next step. -/
theorem proceed (h : Refreshing front email fit shown start company stages)
    (reliable : Reliable front.store fit shown) (k : Nat) :
    ∃ stages, Refreshing front email fit shown start (company.proceed k) stages := by
  cases present : company.jobs[k]? with
  | none => exact ⟨stages, by rwa [Company.proceed_of_absent present]⟩
  | some job =>
    obtain ⟨patch, rest⟩ := job
    have here : k < company.jobs.length := (List.getElem?_eq_some_iff.mp present).1
    have under_way : rest = .ok ((stages k).left front email patch) := h.staged k _ present
    obtain ⟨stage, after, advanced, step⟩ :=
      (stages k).advance_left reliable patch h.healthy h.fits
    have move := h.moved present advanced
    have state : (company.proceed k).state = after := by
      rw [(h.staged.proceed present advanced).1]
      rfl
    have stays := h.stays k
    have begun (pending : stage.Pending) (payload : Payload) :
        Explained front email (Lapses fit shown) shown start (company.proceed k)
          (Function.update stages k stage) payload :=
      .pending (by rwa [Company.length_proceed]) (by rwa [Function.update_self])
    refine ⟨Function.update stages k stage, ?_⟩
    unfold Updates.holder at stays
    rw [state] at stays
    generalize was : stages k = before at step under_way stays
    cases step with
    | refused ran =>
      have left := leaves_updateAccount email patch company.state.source
      rw [ran] at left
      obtain ⟨closed, -, same⟩ := left.outside h.closed
      exact move (left.alike.healthy h.healthy) closed h.fits (by rintro _ ⟨⟩)
        fun payload live => stays payload id _ id (by rw [same rfl]) live
    | written ran =>
      have left := leaves_updateAccount email patch company.state.source
      rw [ran] at left
      exact move (left.alike.healthy h.healthy) (left.outside h.closed).1 h.fits (by rintro _ ⟨⟩)
        fun payload _ => begun trivial payload
    | absent fits fades none =>
      refine move h.healthy h.closed fits (by rintro _ ⟨⟩) ?_
      intro payload live
      rw [fades _ _ live] at none
      cases none
    | present fits fades =>
      exact move h.healthy h.closed fits (by rintro _ ⟨⟩) fun payload _ => begun trivial payload
    | read held =>
      refine move h.healthy h.closed h.fits ?_ fun payload _ => begun trivial payload
      rintro account ⟨⟩
      exact ⟨was, held⟩
    | unreadable held =>
      exact move h.healthy h.closed h.fits (by rintro _ ⟨⟩) fun payload _ => begun trivial payload
    | @kept _ cache account fits shows_ =>
      refine move h.healthy h.closed fits (by rintro _ ⟨⟩) ?_
      intro payload live
      obtain ⟨read, readBy⟩ := h.read k account here was
      rcases shows_ _ _ live with ⟨-, rfl⟩ | ⟨elsewhere, -⟩
      · have decoded := Account.lawful_codec.decode_encode account.redacted
        by_cases held : company.holder email = .ok account
        · exact .synced ⟨account, by rwa [state], decoded⟩
        · have keeping : company.At front email k (.keeping account) :=
            ⟨patch, by rw [present, under_way]⟩
          have unchanged : Updates.holder (company.proceed k) email = company.holder email := by
            unfold Updates.holder
            rw [state]
          exact .overtaken ⟨read, company, k, account, ⟨readBy, keeping, .refl, unchanged⟩, held,
            decoded⟩
      · rw [email_of_holder readBy.held] at elsewhere
        exact absurd rfl elsewhere
    | forgotten fits fades gone =>
      refine move h.healthy h.closed fits (by rintro _ ⟨⟩) ?_
      intro payload live
      rw [gone] at live
      cases live
    | rest =>
      exact move h.healthy h.closed h.fits (by rintro _ ⟨⟩) fun payload live =>
        stays payload id _ id rfl live

/-- Whatever happens next. -/
theorem step (h : Refreshing front email fit shown start company stages)
    (reliable : Reliable front.store fit shown)
    (step : (accountUpdates front email).Step (Lapses fit shown) company next) :
    ∃ stages, Refreshing front email fit shown start next stages := by
  cases step with
  | call wanted => exact wanted.elim
  | order patch => exact ⟨_, h.order patch⟩
  | lapse lost => exact ⟨stages, h.lapse lost⟩
  | proceed k => exact h.proceed reliable k
  | advance i =>
    rcases (accountUpdates front email).advance_cases company i with
      same | ⟨caller, world, phase, present, -, -⟩
    · exact ⟨stages, by rwa [same]⟩
    · rw [h.alone] at present
      cases present

/-- Whatever has happened since the first update was ordered. -/
theorem after_run {db : Database} {cache : β} {observed : List Observation} (healthy : db.Healthy)
    (closed : db.beforeWork = none) (fits : fit cache)
    (reliable : Reliable front.store fit shown)
    (run : (accountUpdates front email).Run (Lapses fit shown) (.start ⟨db, cache, observed⟩)
      company) :
    ∃ stages, Refreshing front email fit shown (.start ⟨db, cache, observed⟩) company stages := by
  induction run with
  | refl => exact ⟨_, begins healthy closed fits⟩
  | tail _ step ih =>
    obtain ⟨stages, refreshing⟩ := ih
    exact refreshing.step reliable step

end Refreshing

end Runs

/-- When all updates of an account that ran at the same time have returned, a copy that the cache
shows is up to date, unless it has been overtaken: the update that has written it had read the
account before another update changed the row, and has written the copy afterwards.  If no update
has succeeded, the copy may be the one that was there at the start, and the account is the same. -/
theorem concurrent_updates_refresh (front : CacheFront β) {fit : β → Prop}
    {shown : β → String → Option Payload} (reliable : Reliable front.store fit shown)
    (email : String) {db : Database} (healthy : db.Healthy) (closed : db.beforeWork = none)
    {cache : β} (fits : fit cache) (observed : List Observation) {ended : Updates β}
    (run : (accountUpdates front email).Run (Lapses fit shown) (.start ⟨db, cache, observed⟩) ended)
    (returned : ∀ job ∈ ended.jobs, job.result?.isSome) {payload : Payload}
    (live : shown ended.state.cache (userKey front.store.keyStart email) = some payload) :
    UpToDate email ended.state.source payload ∨
      Overtaken front email (Lapses fit shown) (.start ⟨db, cache, observed⟩) ended payload ∨
      Untouched front email shown (.start ⟨db, cache, observed⟩) ended payload := by
  obtain ⟨stages, refreshing⟩ := Refreshing.after_run healthy closed fits reliable run
  have at_end {k : Nat} (there : k < ended.jobs.length) {result : Except StorageError Unit}
      (got : ended.jobs[k].result? = some result) : stages k = .ended result := by
    have under_way := refreshing.staged k _ (List.getElem?_eq_getElem there)
    rw [Job.result?, under_way] at got
    exact UpdateStage.eq_ended got
  cases refreshing.copy payload live with
  | pending there pending =>
    obtain ⟨result, got⟩ := Option.isSome_iff_exists.mp (returned _ (List.getElem_mem there))
    rw [at_end there got] at pending
    cases pending
  | synced synced => exact .inl synced
  | overtaken overtaken => exact .inr (.inl overtaken)
  | unwritten unwritten copied unchanged =>
    refine .inr (.inr ⟨?_, copied, unchanged⟩)
    intro job there succeeded
    obtain ⟨k, inside, rfl⟩ := List.getElem_of_mem there
    have still := unwritten k inside
    rw [at_end inside succeeded] at still
    cases still

namespace Sample

/-- An account and its cached copy. -/
def copied : Layered Database TimedCache where
  source :=
    { tables :=
        { accounts :=
            [{ id := 1, username := .text "u", email := .text "u@x.com", password := .text "p"
               bio := .text "zero", image := .text "", disabled := .integer 0
               createdAt := .text moment.stored, updatedAt := .text moment.stored }]
          lastAccount := 1 }
      clock := fun _ => moment }
  cache :=
    { cache :=
        { capacity := 8
          entries :=
            [⟨userKey "article-" "u@x.com",
              Account.codec.encode ⟨1, "u", "u@x.com", "", "zero", "", false, moment, moment⟩,
              none⟩] } }

/-- Two updates of the bio are ordered, and then the steps are made in the given order. -/
def updated (steps : List Nat) : Updates TimedCache :=
  let updates := accountUpdates (.inMemory "article-" Duration.second true) "u@x.com"
  steps.foldl Company.proceed
    (updates.order (updates.order (.start copied) { bio := some "one" }) { bio := some "two" })

/-- The steps of the sample are a run. -/
theorem run_updated (lapses : TimedCache → TimedCache → Prop) (steps : List Nat) :
    (accountUpdates (.inMemory "article-" Duration.second true) "u@x.com").Run lapses
      (.start copied) (updated steps) :=
  .head (.order _ _) (.head (.order _ _) (Service.run_proceed _ lapses _ steps))

/-- The bio that the cache shows. -/
def shownBio (state : Layered Database TimedCache) : Option String := do
  let payload ← state.cache.live? (userKey "article-" "u@x.com")
  let copy ← (Account.codec.decode payload).toOption
  return copy.bio

/-- The bio that the table holds. -/
def heldBio (state : Layered Database TimedCache) : Option String := do
  let account ← (state.source.tables.holder "u@x.com").toOption
  return account.bio

/-- A copy that is up to date shows the bio that the table holds. -/
theorem shownBio_eq {state : Layered Database TimedCache} {payload : Payload}
    (live : state.cache.live? (userKey "article-" "u@x.com") = some payload)
    (synced : UpToDate "u@x.com" state.source payload) : shownBio state = heldBio state := by
  obtain ⟨account, held, decoded⟩ := synced
  simp [shownBio, heldBio, live, held, decoded, Except.toOption, Account.redacted]

/-- The copy is up to date. -/
theorem synced_copied : ∃ payload,
    copied.cache.live? (userKey "article-" "u@x.com") = some payload ∧
      UpToDate "u@x.com" copied.source payload := by
  have read : (copied.source.tables.holder "u@x.com").toOption =
      some ⟨1, "u", "u@x.com", "p", "zero", "", false, moment, moment⟩ := by
    decide +kernel
  have held : copied.source.tables.holder "u@x.com" =
      .ok ⟨1, "u", "u@x.com", "p", "zero", "", false, moment, moment⟩ := by
    cases found : copied.source.tables.holder "u@x.com" with
    | error error =>
      rw [found] at read
      cases read
    | ok account =>
      rw [found] at read
      exact congrArg Except.ok (Option.some.inj read)
  exact ⟨_, by decide +kernel, _, held, Account.lawful_codec.decode_encode _⟩

/-- Both updates have written the row before they read the account. -/
def early : List Nat := [0, 0, 1, 1, 0, 1, 0, 1]

/-- The first update has read the account before the second one writes the row, and writes the copy
after the second one has returned. -/
def late : List Nat := [0, 0, 0, 1, 1, 1, 1, 0]

end Sample

/-- Two updates at the same time after which the copy is up to date. -/
theorem concurrent_updates_refresh_early :
    TimedCache.fitsClock Sample.copied.cache.now (some Duration.second) ∧
      Sample.shownBio Sample.copied = some "zero" ∧
      (∀ job ∈ (Sample.updated Sample.early).jobs, job.result?.isSome) ∧
      Sample.shownBio (Sample.updated Sample.early).state = some "two" ∧
      ∃ payload, (Sample.updated Sample.early).state.cache.live? (userKey "article-" "u@x.com") =
          some payload ∧
        (UpToDate "u@x.com" (Sample.updated Sample.early).state.source payload ∨
          Overtaken (.inMemory "article-" Duration.second true) "u@x.com"
              (Lapses (fun cache => 0 < cache.cache.capacity ∧
                TimedCache.fitsClock cache.now (some Duration.second)) TimedCache.live?)
              (.start Sample.copied) (Sample.updated Sample.early) payload ∨
          Untouched (.inMemory "article-" Duration.second true) "u@x.com" TimedCache.live?
            (.start Sample.copied) (Sample.updated Sample.early) payload) := by
  have fits : TimedCache.fitsClock Sample.copied.cache.now (some Duration.second) := by
    intro time same
    cases same
    decide
  have returned :
      ((Sample.updated Sample.early).jobs.all fun job => job.result?.isSome) = true := by
    decide +kernel
  have new : Sample.shownBio (Sample.updated Sample.early).state = some "two" := by
    decide +kernel
  refine ⟨fits, by decide +kernel, List.all_eq_true.mp returned, new, ?_⟩
  cases live : (Sample.updated Sample.early).state.cache.live? (userKey "article-" "u@x.com") with
  | none =>
    rw [Sample.shownBio, live] at new
    cases new
  | some payload =>
    exact ⟨payload, rfl, concurrent_updates_refresh (.inMemory "article-" Duration.second true)
      (TimedCache.reliable "article-" Duration.second) "u@x.com" ⟨rfl, rfl, rfl⟩ rfl
      ⟨by decide, fits⟩ [] (Sample.run_updated _ Sample.early)
      (List.all_eq_true.mp returned) live⟩

/-- An update at the same time as another one can leave a copy that is outdated, although there was
one that was up to date. -/
theorem late_refresh_shows_old_bio :
    (accountUpdates (.inMemory "article-" Duration.second true) "u@x.com").Run (fun _ _ => False)
        (.start Sample.copied) (Sample.updated Sample.late) ∧
      (∃ payload, Sample.copied.cache.live? (userKey "article-" "u@x.com") = some payload ∧
        UpToDate "u@x.com" Sample.copied.source payload) ∧
      (∀ job ∈ (Sample.updated Sample.late).jobs, job.result?.isSome) ∧
      Sample.shownBio (Sample.updated Sample.late).state = some "one" ∧
      Sample.heldBio (Sample.updated Sample.late).state = some "two" ∧
      ∃ payload, (Sample.updated Sample.late).state.cache.live? (userKey "article-" "u@x.com") =
          some payload ∧
        ¬ UpToDate "u@x.com" (Sample.updated Sample.late).state.source payload := by
  have old : Sample.shownBio (Sample.updated Sample.late).state = some "one" := by
    decide +kernel
  have new : Sample.heldBio (Sample.updated Sample.late).state = some "two" := by
    decide +kernel
  have returned : ((Sample.updated Sample.late).jobs.all fun job => job.result?.isSome) = true := by
    decide +kernel
  refine ⟨Sample.run_updated _ _, Sample.synced_copied, List.all_eq_true.mp returned, old, new, ?_⟩
  cases live : (Sample.updated Sample.late).state.cache.live? (userKey "article-" "u@x.com") with
  | none =>
    rw [Sample.shownBio, live] at old
    cases old
  | some payload =>
    refine ⟨payload, rfl, ?_⟩
    intro synced
    rw [Sample.shownBio_eq live synced, new] at old
    exact absurd old (by decide)

end Gazette
