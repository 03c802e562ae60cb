import Mathlib.Data.List.Basic
import Gazette.Application
import Gazette.Proofs.Cached.Harmless
import Gazette.Proofs.Cached.Invalidations
import Gazette.Proofs.Storage.ReadBack

/-!
# Deadlines past the end of the clock

A time to live may be any number of seconds that the settings can hold, but the clock that a cache in
memory looks at has an end.  An entry that would expire after it cannot be written, and the attempt
stops the whole operation, also when the repository behind the cache has already done its part.
-/

set_option autoImplicit false

namespace Gazette

open Database

/-- Whether the clock can show, at a moment, when an entry expires that is written then. -/
def Settings.InTime (settings : Settings) (now : Nat) : Prop :=
  settings.ttlSeconds = 0 ∨
    now + settings.ttlSeconds.toNat * Duration.second < MemoryCache.clockEnd

namespace Application

/-- The entries of a program's cache can be dated if its settings are in time. -/
theorem fitsClock_iff_inTime (settings : Settings) (now : Nat) :
    TimedCache.fitsClock now (front settings).store.entryTtl ↔ settings.InTime now := by
  have second : Duration.second ≠ 0 := by decide
  unfold TimedCache.fitsClock CacheStore.entryTtl front Settings.ttl Settings.InTime
  by_cases lasting : settings.ttlSeconds = 0
  · simp [lasting]
  · have timed : settings.ttlSeconds.toNat ≠ 0 := by
      intro zero
      exact lasting (UInt64.toNat_inj.mp zero)
    have some_time := Nat.mul_ne_zero timed second
    simp [lasting, some_time]

end Application

section Writes

variable {key full : String} {payload : Payload} {ttl : Option Duration} {cache : TimedCache}

/-- A write is stopped if the clock cannot show its deadline, and then nothing has changed. -/
theorem TimedCache.outcome_set_of_unfit (unfit : ¬ fitsClock cache.now ttl) :
    (backend.set key payload ttl).outcome cache = (.error .deadlineOverflow, cache) := by
  cases ttl with
  | none => exact absurd nofun unfit
  | some time =>
    have late : ¬ cache.now + time < MemoryCache.clockEnd := by
      intro inside
      refine unfit ?_
      rintro _ ⟨⟩
      exact inside
    simp [backend, Task.outcome, ExceptT.run, ExceptT.mk, MemoryCache.set, MemoryCache.deadline, late,
      bind, Except.bind]

end Writes

/-- How an activity in front of a cache in memory ends that may come to write an entry.  If the clock
cannot show when the entry expires, the activity is stopped; it has left the source as told all the
same, and no payload has appeared in the cache.  In all other cases it answers. -/
inductive Activity.EndsInTime {σ α : Type} (state : Layered σ TimedCache) (writes fits : Prop)
    (answer : α) (source : σ) : Except DeadlineOverflow α × Layered σ TimedCache → Prop where
  | answered {after : Layered σ TimedCache} : (writes → fits) → after.source = source →
      EndsInTime state writes fits answer source (.ok answer, after)
  | stopped {after : Layered σ TimedCache} : writes → ¬ fits → after.source = source →
      CacheChange [] nothingWritten state.cache after.cache →
      EndsInTime state writes fits answer source (.error .deadlineOverflow, after)

namespace Activity.EndsInTime

variable {σ α : Type} {state between : Layered σ TimedCache} {writes same_writes fits : Prop}
  {answer : α} {source : σ} {outcome : Except DeadlineOverflow α × Layered σ TimedCache}

/-- An activity that comes to its answer, and may be dated if it writes, ends in time. -/
theorem of_comes {activity : Activity (Layered σ TimedCache) α} {cleared : List String}
    {written : String → Payload → Prop}
    (comes : activity.Comes state answer source cleared written) (allowed : writes → fits) :
    EndsInTime state writes fits answer source (activity.run.outcome state) := by
  obtain ⟨after, ran, same, -⟩ := comes.outcome
  rw [ran]
  exact .answered allowed same

/-- How an activity ends can be told from an earlier state on, if nothing has been written since. -/
theorem earlier (ends : EndsInTime between writes fits answer source outcome)
    (change : CacheChange [] nothingWritten state.cache between.cache) :
    EndsInTime state writes fits answer source outcome := by
  cases ends with
  | answered allowed same => exact .answered allowed same
  | stopped wrote unfit same change_last =>
    refine .stopped wrote unfit same ?_
    exact (change.trans change_last).mono (fun _ => id) fun _ _ never => never.elim id id

/-- How an activity ends depends only on whether it writes. -/
theorem congr (ends : EndsInTime state writes fits answer source outcome)
    (same : same_writes ↔ writes) : EndsInTime state same_writes fits answer source outcome :=
  propext same ▸ ends

/-- An activity of the source writes nothing and is never stopped. -/
theorem onSource {inner : Activity σ α}
    (ran : inner.run.outcome state.source = (.ok answer, source)) :
    EndsInTime state False fits answer source (inner.onSource.run.outcome state) := by
  rw [outcome_run_onSource, ran]
  exact .answered nofun rfl

/-- An activity of the source, and then something that is done about the cache with its value. -/
theorem also {inner : Answers σ α} {use : α → Activity (Layered σ TimedCache) Unit}
    {result : Except StorageError α}
    (ran : inner.run.outcome state.source = (.ok result, source))
    (used : ∀ value, result = .ok value → EndsInTime { state with source } writes fits () source
      ((use value).run.outcome { state with source })) :
    EndsInTime state (result.toBool ∧ writes) fits result source
      ((inner.onSource.also use).run.outcome state) := by
  have begun : inner.onSource.run.outcome state = (.ok result, { state with source }) := by
    rw [outcome_run_onSource, ran]
  cases result with
  | error error =>
    rw [outcome_also_of_error begun]
    exact .answered (by simp [Except.toBool]) rfl
  | ok value =>
    have ends := used value rfl
    rw [outcome_also_of_ok begun]
    generalize (use value).run.outcome { state with source } = outcome at ends ⊢
    cases ends with
    | answered allowed same => exact .answered (fun wrote => allowed wrote.2) same
    | stopped wrote unfit same change => exact .stopped ⟨rfl, wrote⟩ unfit same change

end Activity.EndsInTime

namespace CacheFront

variable {σ α : Type} {keyStart : String} {ttl : Duration} {observing : Bool} {key : String}
  {codec : Codec α} {state : Layered σ TimedCache} {source : σ} {value : α}

section Unfit

variable (unfit : ¬ TimedCache.fitsClock state.cache.now
  (inMemory keyStart ttl observing).store.entryTtl)

include unfit

/-- Putting a value under a key is stopped. -/
theorem outcome_set_of_unfit (named : key ≠ "") (codec : Codec α) (value : α) :
    ((inMemory keyStart ttl observing).store.set codec key value).outcome state.cache =
      (.error .deadlineOverflow, state.cache) := by
  rw [CacheStore.set, onKey_inMemory named]
  exact TimedCache.outcome_set_of_unfit unfit

/-- A value that is to be kept too long stops everything. -/
theorem outcome_keep_of_unfit (named : key ≠ "") :
    ((inMemory keyStart ttl observing).keep codec key value).run.outcome state =
      (.error .deadlineOverflow, state) := by
  unfold keep
  rw [Activity.outcome_run_onCache,
    Task.outcome_bind_of_error (outcome_set_of_unfit unfit named codec value)]

/-- Writing an entry whose deadline the clock cannot show stops everything and changes nothing. -/
theorem outcome_populate_of_unfit (codec : Codec α) (full : String) (value : α) :
    (Activity.onCache ((inMemory keyStart ttl observing).store.populate codec full value)).run.outcome
      state = (.error .deadlineOverflow, state) := by
  have stored : ((inMemory keyStart ttl observing).store.backend.set full (codec.encode value)
      (inMemory keyStart ttl observing).store.entryTtl).outcome state.cache =
        (.error .deadlineOverflow, state.cache) :=
    TimedCache.outcome_set_of_unfit unfit
  unfold CacheStore.populate
  rw [Activity.outcome_run_onCache, Task.outcome_bind_of_error stored]

end Unfit

variable (keyStart ttl observing) in
/-- Whether the clock can show the deadline of an entry that is written now. -/
abbrev Fits (state : Layered σ TimedCache) : Prop :=
  TimedCache.fitsClock state.cache.now (inMemory keyStart ttl observing).store.entryTtl

/-- Keeping a value ends in time if the clock can show its deadline. -/
theorem ends_keep (named : key ≠ "") (room : 0 < state.cache.cache.capacity) :
    Activity.EndsInTime state True (Fits keyStart ttl observing state) () state.source
      (((inMemory keyStart ttl observing).keep codec key value).run.outcome state) := by
  by_cases fits : Fits keyStart ttl observing state
  · exact .of_comes (comes_keep named value ⟨room, fits⟩) fun _ => fits
  · rw [outcome_keep_of_unfit fits named]
    exact .stopped trivial fits rfl (.refl _)

/-- A lookup that is stopped while it fetches. -/
theorem outcome_lookup_of_error {front : CacheFront TimedCache} {domain : String}
    {read : Answers σ α} {after : Layered σ TimedCache} {cause : DeadlineOverflow}
    (stopped : (front.store.fetch codec key read).run.outcome state = (.error cause, after)) :
    (front.lookup domain codec key read).run.outcome state = (.error cause, after) := by
  have also_stopped : ((front.store.fetch codec key read).also fun fetched =>
      front.note domain fetched.hit).run.outcome state = (.error cause, after) :=
    Activity.outcome_bind_of_error stopped
  exact Activity.outcome_bind_of_error also_stopped

/-- A lookup in front of a source that reading leaves as it is ends in time if the clock can show the
deadline, or if nothing has to be written: a value is in the cache already, or none is found. -/
theorem ends_lookup (domain : String) (named : key ≠ "") (room : 0 < state.cache.cache.capacity)
    {read : Answers σ α} {result : Except StorageError α}
    (reads : read.run.outcome state.source = (.ok result, state.source)) :
    Activity.EndsInTime state
      (shownValue codec (CacheKey.namespaced keyStart key) state.cache = none ∧ result.toBool)
      (Fits keyStart ttl observing state)
      (answered codec (CacheKey.namespaced keyStart key) state.cache result) state.source
      (((inMemory keyStart ttl observing).lookup domain codec key read).run.outcome state) := by
  unfold answered
  cases shown : shownValue codec (CacheKey.namespaced keyStart key) state.cache with
  | some value =>
    -- the entry is only read, and reading sets no deadline
    have fetched : Activity.Comes ((inMemory keyStart ttl observing).store.fetch codec key read) _ _ _
        _ _ := comes_fetch_of_shown named room shown
    obtain ⟨after, ran, same, -⟩ := fetched.outcome
    rw [outcome_lookup ran]
    exact .answered (by simp) ((source_noted _ _ _ _).trans same)
  | none =>
    obtain ⟨ready, same, change, ran⟩ := @outcome_fetch_of_absent σ α keyStart ttl observing key codec
      state named room read result _ shown reads
    cases result with
    | error error =>
      rw [outcome_lookup ran]
      exact .answered (by simp [Except.toBool]) same
    | ok value =>
      -- the clock stands still while the source is read
      have fits_ready : Fits keyStart ttl observing ready ↔ Fits keyStart ttl observing state := by
        rw [Fits, Fits, change.now]
      by_cases fits : Fits keyStart ttl observing state
      · have fit : ready.cache.Fit (inMemory keyStart ttl observing).store.entryTtl :=
          ⟨by rw [change.capacity]; exact room, fits_ready.mpr fits⟩
        obtain ⟨last, wrote, same_last, -⟩ := (comes_populate codec
          (CacheKey.namespaced keyStart key) value fit).outcome
        rw [outcome_lookup (ran.trans (Activity.outcome_bind_of_ok wrote))]
        exact .answered (fun _ => fits) ((source_noted _ _ _ _).trans (same_last.trans same))
      · have refused := outcome_populate_of_unfit (mt fits_ready.mp fits) codec
          (CacheKey.namespaced keyStart key) value
        rw [outcome_lookup_of_error (ran.trans (Activity.outcome_bind_of_error refused))]
        exact .stopped ⟨rfl, rfl⟩ fits same change

end CacheFront

/-- Whether an operation on accounts comes to write an entry into the cache: an account has been
saved; or one has been updated that has an entry, and it has been read again; or one has been looked
up that the cache does not show, and it has been found. -/
def AccountOperation.Writes (keyStart : String) (state : Layered Database TimedCache) :
    AccountOperation → Prop
  | .save account => ((saveAccount account).run state.source).1.toBool
  | .update email patch =>
    let updated := (updateAccount email patch).run state.source
    updated.1.toBool ∧ (state.cache.live? (userKey keyStart email)).isSome ∧
      ((findAccount email).run updated.2).1.toBool
  | .find email =>
    CacheFront.shownValue Account.codec (userKey keyStart email) state.cache = none ∧
      ((findAccount email).run state.source).1.toBool
  | .findFresh _ => False

/-- Whether an operation on articles comes to write an entry into the cache. -/
def ArticleOperation.Writes (keyStart : String) (state : Layered Database TimedCache) :
    ArticleOperation → Prop
  | .save article => ((transaction (insertArticle article)).run state.source).1.toBool
  | .find slug =>
    CacheFront.shownValue Article.codec (articleKey keyStart slug) state.cache = none ∧
      ((findArticle slug).run state.source).1.toBool
  | _ => False

section Operations

variable {keyStart : String} {ttl : Duration} {observing : Bool}
  {state : Layered Database TimedCache}

/-- Looking for an account past the cache leaves everything as it is. -/
theorem outcome_onSource_findAccount (email : String) (state : Layered Database TimedCache) :
    (accountRepository.find email).onSource.run.outcome state =
      (.ok ((findAccount email).run state.source).1, state) := by
  have answers : (accountRepository.find email).run.outcome state.source = _ :=
    AccountOperation.outcome_effect (.find email) state.source
  rw [Activity.outcome_run_onSource, answers]
  dsimp only [AccountOperation.effect]
  rw [findAccount_leaves]

/-- Bringing the copy of an account up to date ends in time if the clock can show its deadline, or if
nothing has to be written. -/
theorem ends_refresh (email : String) (room : 0 < state.cache.cache.capacity) :
    Activity.EndsInTime state
      ((state.cache.live? (userKey keyStart email)).isSome ∧
        ((findAccount email).run state.source).1.toBool)
      (CacheFront.Fits keyStart ttl observing state) () state.source
      ((accountRepository.refresh (.inMemory keyStart ttl observing) email).run.outcome state) := by
  have looked : ((CacheFront.inMemory keyStart ttl observing).holds
      (CacheKey.userByEmail email)).Comes state (state.cache.live? (userKey keyStart email)).isSome
      state.source [] nothingWritten :=
    CacheFront.comes_holds userByEmail_ne_empty
  obtain ⟨after, ran, same, change⟩ := looked.outcome
  have reads := outcome_onSource_findAccount email after
  rw [same] at reads
  unfold AccountRepository.refresh
  rw [Activity.outcome_bind_of_ok ran]
  cases (state.cache.live? (userKey keyStart email)).isSome with
  | false => exact .answered (by simp) same
  | true =>
    -- an account that cannot be read again is forgotten, and that is no write
    rw [if_pos rfl, Activity.outcome_bind_of_ok reads, ← same]
    cases ((findAccount email).run after.source).1 with
    | error error =>
      have removed : Activity.Comes ((CacheFront.inMemory keyStart ttl observing).forget
          (CacheKey.userByEmail email)) after () after.source _ _ :=
        CacheFront.comes_forget userByEmail_ne_empty
      exact Activity.EndsInTime.earlier (.of_comes removed (by simp [Except.toBool])) change
    | ok account =>
      have kept : Activity.EndsInTime after True (CacheFront.Fits keyStart ttl observing after) ()
          after.source ((AccountRepository.keepAccount (.inMemory keyStart ttl observing)
            account).run.outcome after) :=
        CacheFront.ends_keep userByEmail_ne_empty (by rw [change.capacity]; exact room)
      rw [CacheFront.Fits, change.now] at kept
      exact (kept.earlier change).congr (by simp [Except.toBool])

/-- An operation on accounts through a cache in memory ends in time if the clock can show the deadline
of the entry that it writes, or if it writes none.  Then it answers what it should, and in any case it
leaves the database that it leaves without the cache. -/
theorem AccountOperation.ends_cached (operation : AccountOperation)
    (room : 0 < state.cache.cache.capacity) :
    Activity.EndsInTime state (operation.Writes keyStart state)
      (CacheFront.Fits keyStart ttl observing state)
      (operation.cachedAnswer keyStart state.cache (operation.effect state.source).1)
      (operation.effect state.source).2
      ((operation.perform (accountRepository.cached
        (.inMemory keyStart ttl observing))).run.outcome state) := by
  have ran := operation.outcome_effect state.source
  cases operation with
  | save account =>
    refine (Activity.EndsInTime.also ran ?_).congr (and_iff_left trivial).symm
    intro saved _
    exact CacheFront.ends_keep userByEmail_ne_empty room
  | update email patch =>
    refine Activity.EndsInTime.also ran ?_
    intro updated _
    exact ends_refresh email room
  | find email =>
    have left : ((find email).effect state.source).2 = state.source :=
      findAccount_leaves email state.source
    rw [left] at ran ⊢
    have reads : (accountRepository.findRedacted email).run.outcome state.source =
        (.ok (((find email).effect state.source).1.map Account.redacted), state.source) :=
      Task.outcome_bind_of_ok ran
    refine (CacheFront.ends_lookup CacheKey.userByEmailDomain userByEmail_ne_empty room reads).congr ?_
    have same : (((find email).effect state.source).1.map Account.redacted).toBool =
        ((find email).effect state.source).1.toBool := by
      cases ((find email).effect state.source).1 <;> rfl
    rw [same]
    rfl
  | findFresh email => exact .onSource ran

/-- A deletion, after which a key is invalidated, always ends in time. -/
theorem ends_removal {α : Type} {removal : Answers Database α} {result : Except StorageError α}
    {source : Database} (ran : removal.run.outcome state.source = (.ok result, source))
    (slug : String) :
    Activity.EndsInTime state False (CacheFront.Fits keyStart ttl observing state) result source
      ((removal.onSource.also fun _ => ArticleRepository.invalidateArticle
        (.inMemory keyStart ttl observing) slug).run.outcome state) := by
  refine (Activity.EndsInTime.also ran ?_).congr (iff_of_eq (and_false _)).symm
  intro removed _
  exact .of_comes (CacheFront.comes_invalidate articleBySlug_ne_empty) nofun

/-- An operation on articles through a cache in memory ends in the same way. -/
theorem ArticleOperation.ends_cached (tagBatch : Nat) (operation : ArticleOperation)
    (room : 0 < state.cache.cache.capacity) :
    Activity.EndsInTime state (operation.Writes keyStart state)
      (CacheFront.Fits keyStart ttl observing state)
      (operation.cachedAnswer keyStart state.cache (operation.effect tagBatch state.source).1)
      (operation.effect tagBatch state.source).2
      ((operation.perform ((articleRepository tagBatch).cached
        (.inMemory keyStart ttl observing))).run.outcome state) := by
  have ran := operation.outcome_effect tagBatch state.source
  cases operation with
  | carryOut work =>
    have worked : ((carryOut work).perform ((articleRepository tagBatch).cached
        (.inMemory keyStart ttl observing))).run.outcome state = _ :=
      outcome_cached_carryOut keyStart ttl observing tagBatch work state
    rw [worked]
    exact .answered nofun rfl
  | save article =>
    refine (Activity.EndsInTime.also ran ?_).congr (and_iff_left trivial).symm
    intro saved _
    exact CacheFront.ends_keep articleBySlug_ne_empty room
  | find slug =>
    have left : ((find slug).effect tagBatch state.source).2 = state.source :=
      findArticle_leaves slug state.source
    rw [left] at ran ⊢
    exact CacheFront.ends_lookup CacheKey.articleBySlugDomain articleBySlug_ne_empty room ran
  | delete authorId slug => exact ends_removal ran slug
  | deleteWithComments authorId slug => exact ends_removal ran slug
  | _ => exact .onSource ran

end Operations

/-- Whatever the settings are, a cache in memory stops an operation exactly if it comes to write an
entry whose deadline its clock cannot show: the time to live is not 0, and added to the reading of the
clock it passes the end.  The database is left as it is without the cache then, so what has been saved
there is saved, although nobody is told. -/
theorem overlong_ttl_stops_writes (settings : Settings) (tagBatch : Nat) (state : Site)
    (room : 0 < state.cache.cache.capacity) :
    let front := Application.front settings
    let fits := settings.InTime state.cache.now
    (∀ {α : Type} (codec : Codec α) (key : String) (value : α), key ≠ "" →
      (fits → ((front.store.set codec key value).outcome state.cache).1 = .ok (.ok ())) ∧
      (¬ fits → (front.store.set codec key value).outcome state.cache =
        (.error .deadlineOverflow, state.cache))) ∧
    (∀ operation : AccountOperation,
      Activity.EndsInTime state (operation.Writes settings.keyStart state) fits
        (operation.cachedAnswer settings.keyStart state.cache (operation.effect state.source).1)
        (operation.effect state.source).2
        ((operation.perform (accountRepository.cached front)).run.outcome state)) ∧
    ∀ operation : ArticleOperation,
      Activity.EndsInTime state (operation.Writes settings.keyStart state) fits
        (operation.cachedAnswer settings.keyStart state.cache
          (operation.effect tagBatch state.source).1)
        (operation.effect tagBatch state.source).2
        ((operation.perform ((articleRepository tagBatch).cached front)).run.outcome state) := by
  intro front fits
  have same : CacheFront.Fits settings.keyStart settings.ttl true state = fits :=
    propext (Application.fitsClock_iff_inTime settings state.cache.now)
  refine ⟨?_, ?_, ?_⟩
  · intro α codec key value named
    constructor
    · intro inTime
      obtain ⟨after, stored, -⟩ := CacheFront.change_set named codec value
        (TimedCache.Fit.mk room (same.mpr inTime))
      exact congrArg Prod.fst stored
    · intro late
      exact CacheFront.outcome_set_of_unfit (mt same.mp late) named codec value
  · intro operation
    exact same ▸ operation.ends_cached room
  · intro operation
    exact same ▸ operation.ends_cached tagBatch room

namespace Sample

/-- A user who is about to be saved. -/
def newcomer : NewAccount := ⟨"u", "u@x.com", "p", "", ""⟩

/-- The largest time to live that can be asked for. -/
def longLasting : Environment := fun name =>
  if name = "CACHE_TTL_SECONDS" then some (Utf8.bytes "18446744073709551615") else none

/-- The state in which an application with some settings starts on an empty database. -/
def started (settings : Settings) : Site where
  source := database
  cache := { cache := .ofSize settings.cacheSize.toNat }

/-- The cache of a program that has just started has room for an entry. -/
theorem room_started (settings : Settings) : 0 < (started settings).cache.cache.capacity :=
  Nat.lt_of_lt_of_le Nat.one_pos (Nat.le_max_right _ _)

/-- The newcomer of the sample is saved on a database that has just been created. -/
theorem saves_newcomer (settings : Settings) : ∃ account after,
    (AccountOperation.save newcomer).effect (started settings).source = (.ok account, after) ∧
      after.tables.accounts.length = 1 := by
  have saved : ((saveAccount newcomer).run database).1.toBool ∧
      ((saveAccount newcomer).run database).2.tables.accounts.length = 1 := by
    decide +kernel
  change ∃ account after, (saveAccount newcomer).run database = (.ok account, after) ∧ _
  rcases ran : (saveAccount newcomer).run database with ⟨error | account, after⟩
  · rw [ran] at saved
    exact absurd saved.1 Bool.false_ne_true
  · rw [ran] at saved
    exact ⟨account, after, rfl, saved.2⟩

/-- Saving the user comes to write an entry. -/
theorem writes_newcomer (keyStart : String) (settings : Settings) :
    (AccountOperation.save newcomer).Writes keyStart (started settings) := by
  obtain ⟨account, after, effect, -⟩ := saves_newcomer settings
  change ((AccountOperation.save newcomer).effect (started settings).source).1.toBool
  rw [effect]
  rfl

end Sample

/-- When the clock starts, the longest time to live that it can show lets an account be saved and
kept.  With one second more the account is saved, but nothing is answered, and the cache stays
empty. -/
theorem overlong_ttl_stops_writes_boundary :
    let front (seconds : UInt64) := Application.front { ttlSeconds := seconds }
    let state := Sample.started {}
    let save (seconds : UInt64) :=
      ((accountRepository.cached (front seconds)).save Sample.newcomer).run.outcome state
    (((front 9223372036854775807).store.set .uint32 "k" 7).outcome state.cache).1 = .ok (.ok ()) ∧
    (∃ account after, save 9223372036854775807 = (.ok (.ok account), after) ∧
      after.source.tables.accounts.length = 1) ∧
    ∃ after, save 9223372036854775808 = (.error .deadlineOverflow, after) ∧
      after.source.tables.accounts.length = 1 ∧ ∀ key, after.cache.live? key = none := by
  intro front state save
  have room := Sample.room_started {}
  obtain ⟨account, source, effect, one⟩ := Sample.saves_newcomer {}
  obtain ⟨writable, accounts, -⟩ :=
    overlong_ttl_stops_writes { ttlSeconds := 9223372036854775807 } 100 state room
  obtain ⟨-, accounts_late, -⟩ :=
    overlong_ttl_stops_writes { ttlSeconds := 9223372036854775808 } 100 state room
  refine ⟨(writable .uint32 "k" 7 (by decide)).1 (.inr (by decide)), ?_, ?_⟩
  · have ends := accounts (.save Sample.newcomer)
    rw [effect] at ends
    change Activity.EndsInTime _ _ _ _ _ (save 9223372036854775807) at ends
    generalize save 9223372036854775807 = outcome at ends ⊢
    cases ends with
    | answered _ same => exact ⟨account, _, rfl, by rw [same]; exact one⟩
    | stopped _ late => exact absurd (.inr (by decide)) late
  · have ends := accounts_late (.save Sample.newcomer)
    rw [effect] at ends
    change Activity.EndsInTime _ _ _ _ _ (save 9223372036854775808) at ends
    generalize save 9223372036854775808 = outcome at ends ⊢
    cases ends with
    | answered allowed =>
      exact absurd (allowed (Sample.writes_newcomer _ _)) (by unfold Settings.InTime; decide)
    | stopped _ _ same change =>
      exact ⟨_, rfl, by rw [same]; exact one, fun key => change.absent rfl⟩

/-- With a time to live that the settings take from the environment, the first account that is saved
through the cache is in the database, but its saving is never answered. -/
theorem saved_account_unanswered :
    let settings := Settings.ofEnvironment Sample.longLasting
    settings.ttlSeconds = 18446744073709551615 ∧ ∃ account source after,
      (accountRepository.save Sample.newcomer).run.outcome (Sample.started settings).source =
        (.ok (.ok account), source) ∧
      ((accountRepository.cached (Application.front settings)).save Sample.newcomer).run.outcome
        (Sample.started settings) = (.error .deadlineOverflow, after) ∧
      after.source = source ∧ source.tables.accounts.length = 1 := by
  intro settings
  have seconds : settings.ttlSeconds = 18446744073709551615 := by
    decide +kernel
  have late : ¬ settings.InTime 0 := by
    unfold Settings.InTime
    rw [seconds]
    decide
  obtain ⟨account, source, effect, one⟩ := Sample.saves_newcomer settings
  have saved :=
    (AccountOperation.save Sample.newcomer).outcome_effect (Sample.started settings).source
  have ends := @AccountOperation.ends_cached settings.keyStart settings.ttl true
    (Sample.started settings) (.save Sample.newcomer) (Sample.room_started settings)
  rw [effect] at saved ends
  refine ⟨seconds, account, source, ?_⟩
  change Activity.EndsInTime _ _ _ _ _ (((accountRepository.cached (Application.front
    settings)).save Sample.newcomer).run.outcome (Sample.started settings)) at ends
  generalize ((accountRepository.cached (Application.front settings)).save
    Sample.newcomer).run.outcome (Sample.started settings) = outcome at ends ⊢
  cases ends with
  | answered allowed =>
    have fits := allowed (Sample.writes_newcomer _ settings)
    exact absurd ((Application.fitsClock_iff_inTime settings 0).mp fits) late
  | stopped _ _ same => exact ⟨_, saved, rfl, same, one⟩

end Gazette
