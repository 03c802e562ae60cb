import Mathlib.Data.List.Basic
import Gazette.Cached.Front
import Gazette.Proofs.Cache.Faithful

/-!
# What operations leave in the cache

Whatever is done to the cache in memory through its store, a payload that is shown afterwards was
shown before or has just been written, and what has been removed is shown no more.  This holds
step by step, and so for every activity that is built from such steps.
-/

set_option autoImplicit false

namespace Gazette

/-- How the cache in memory has changed while its clock stood still: some keys have been cleared,
some payloads may have been written, and payloads may have been lost. -/
structure CacheChange (cleared : List String) (written : String → Payload → Prop)
    (before after : TimedCache) : Prop where
  capacity : after.cache.capacity = before.cache.capacity
  now : after.now = before.now
  live {key : String} {payload : Payload} : after.live? key = some payload →
    key ∉ cleared ∧ before.live? key = some payload ∨ written key payload

/-- Nothing is written. -/
def nothingWritten : String → Payload → Prop :=
  fun _ _ => False

namespace CacheChange

variable {cleared more : List String} {written further : String → Payload → Prop}
  {before after later : TimedCache}

/-- A cache that nothing has happened to has changed by nothing. -/
theorem refl (cache : TimedCache) : CacheChange [] nothingWritten cache cache :=
  ⟨rfl, rfl, fun shown => .inl ⟨by simp, shown⟩⟩

/-- Two changes after each other clear and write what either of them does. -/
theorem trans (first : CacheChange cleared written before after)
    (second : CacheChange more further after later) :
    CacheChange (cleared ++ more) (fun key payload => written key payload ∨ further key payload)
      before later where
  capacity := second.capacity.trans first.capacity
  now := second.now.trans first.now
  live {key payload} shown := by
    rcases second.live shown with ⟨kept, between⟩ | new
    · rcases first.live between with ⟨kept_first, old⟩ | new
      · refine .inl ⟨?_, old⟩
        simp [kept, kept_first]
      · exact .inr (.inl new)
    · exact .inr (.inr new)

/-- Fewer keys may be told to be cleared, and more payloads to be written. -/
theorem mono (h : CacheChange cleared written before after) (less : ∀ key, key ∈ more → key ∈ cleared)
    (bound : ∀ key payload, written key payload → further key payload) :
    CacheChange more further before after where
  capacity := h.capacity
  now := h.now
  live shown := by
    rcases h.live shown with ⟨kept, old⟩ | new
    · exact .inl ⟨fun there => kept (less _ there), old⟩
    · exact .inr (bound _ _ new)

/-- A cache that has only lost entries has been written nothing. -/
theorem of_fades (fades : before.Fades after) (now : after.now = before.now) :
    CacheChange [] nothingWritten before after :=
  ⟨fades.capacity, now, fun shown => .inl ⟨by simp, fades.live shown⟩⟩

/-- What is not shown does not appear by itself. -/
theorem absent {key : String} (h : CacheChange [] nothingWritten before after)
    (nothing : before.live? key = none) : after.live? key = none := by
  cases found : after.live? key with
  | none => rfl
  | some payload =>
    rcases h.live found with ⟨-, old⟩ | never
    · rw [nothing] at old
      cases old
    · exact never.elim

/-- If nothing is shown under a key, leaving it alone clears it as well. -/
theorem of_absent {key : String} (h : CacheChange [] nothingWritten before after)
    (absent : before.live? key = none) : CacheChange [key] nothingWritten before after where
  capacity := h.capacity
  now := h.now
  live shown := by
    rcases h.live shown with ⟨-, old⟩ | never
    · refine .inl ⟨?_, old⟩
      intro there
      rw [List.mem_singleton.mp there, absent] at old
      cases old
    · exact never.elim

end CacheChange

/-- A cache in memory with some room, into which entries with a time to live can be written. -/
structure TimedCache.Fit (ttl : Option Duration) (cache : TimedCache) : Prop where
  room : 0 < cache.cache.capacity
  fits : fitsClock cache.now ttl

/-- A cache that has room and time for an entry has them after a change. -/
theorem TimedCache.Fit.change {ttl : Option Duration} {cleared : List String}
    {written : String → Payload → Prop} {before after : TimedCache} (fit : before.Fit ttl)
    (change : CacheChange cleared written before after) : after.Fit ttl :=
  ⟨by rw [change.capacity]; exact fit.room, by rw [change.now]; exact fit.fits⟩

/-- A write shows its payload in place of what was there, and nothing else that is new. -/
theorem TimedCache.change_set (cache : TimedCache) (full : String) (payload : Payload)
    {ttl : Option Duration} (fit : cache.Fit ttl) :
    ∃ after, (backend.set full payload ttl).outcome cache = (.ok (.ok ()), after) ∧
      CacheChange [full] (fun key found => key = full ∧ found = payload) cache after := by
  obtain ⟨after, done, capacity, now, shown, others⟩ :=
    outcome_set cache full payload fit.room fit.fits
  refine ⟨after, done, capacity, now, ?_⟩
  intro key found there
  by_cases same : key = full
  · subst same
    rw [shown] at there
    exact .inr ⟨rfl, (Option.some.inj there).symm⟩
  · exact .inl ⟨by simp [same], others key found same there⟩

variable {σ α γ : Type}

/-- The keys that are cleared after a success. -/
def clearedAfter {ε : Type} (keys : α → List String) : Except ε α → List String
  | .ok value => keys value
  | .error _ => []

/-- What an activity in front of a cache in memory comes to: its answer, the source that it leaves,
and how it changes the cache. -/
structure Activity.Comes (activity : Activity (Layered σ TimedCache) α)
    (state : Layered σ TimedCache) (answer : α) (source : σ) (cleared : List String)
    (written : String → Payload → Prop) : Prop where
  outcome : ∃ after, activity.run.outcome state = (.ok answer, after) ∧ after.source = source ∧
    CacheChange cleared written state.cache after.cache

namespace Activity.Comes

variable {state : Layered σ TimedCache} {answer : α} {between : γ} {source : σ}
  {cleared more : List String} {written further : String → Payload → Prop}
  {activity : Activity (Layered σ TimedCache) α}

/-- Nothing is done. -/
theorem pure (answer : α) (state : Layered σ TimedCache) :
    Comes (Pure.pure answer) state answer state.source [] nothingWritten :=
  ⟨state, rfl, rfl, CacheChange.refl _⟩

/-- An answer alone changes neither the source nor the cache. -/
theorem done (same : state.source = source) :
    Comes (Pure.pure answer) state answer source [] nothingWritten :=
  same ▸ Comes.pure answer state

/-- One activity after the other. -/
theorem bind {first : Activity (Layered σ TimedCache) γ}
    {next : γ → Activity (Layered σ TimedCache) α} {middle : σ}
    (begun : first.Comes state between middle cleared written)
    (goes_on : ∀ after : Layered σ TimedCache, after.source = middle →
      CacheChange cleared written state.cache after.cache →
      (next between).Comes after answer source more further) :
    (first >>= next).Comes state answer source (cleared ++ more)
      fun key payload => written key payload ∨ further key payload := by
  obtain ⟨after, ran, same_source, change⟩ := begun.outcome
  obtain ⟨last, ran_last, source_last, change_last⟩ := (goes_on after same_source change).outcome
  refine ⟨last, ?_, source_last, change.trans change_last⟩
  rw [Activity.run_bind_eq, Task.outcome_bind_of_ok ran, ran_last]

/-- Less is told. -/
theorem mono (h : activity.Comes state answer source cleared written)
    (less : ∀ key, key ∈ more → key ∈ cleared)
    (bound : ∀ key payload, written key payload → further key payload) :
    activity.Comes state answer source more further := by
  obtain ⟨after, ran, same_source, change⟩ := h.outcome
  exact ⟨after, ran, same_source, change.mono less bound⟩

/-- More payloads may be told to be written. -/
theorem weaken (h : activity.Comes state answer source cleared written)
    (bound : ∀ key payload, written key payload → further key payload) :
    activity.Comes state answer source cleared further :=
  h.mono (fun _ => id) bound

/-- It need not be told what has been cleared. -/
theorem uncleared (h : activity.Comes state answer source cleared written) :
    activity.Comes state answer source [] written :=
  h.mono (by simp) fun _ _ => id

/-- An activity that writes nothing writes nothing but what is allowed. -/
theorem quiet (h : activity.Comes state answer source cleared nothingWritten) :
    activity.Comes state answer source cleared further :=
  h.weaken fun _ _ never => never.elim

/-- An activity that leaves everything as it is, and another one after it. -/
theorem bind_quiet {first : Activity (Layered σ TimedCache) γ}
    {next : γ → Activity (Layered σ TimedCache) α} {middle : σ}
    (begun : first.Comes state between middle [] nothingWritten)
    (goes_on : ∀ after : Layered σ TimedCache, after.source = middle →
      CacheChange [] nothingWritten state.cache after.cache →
      (next between).Comes after answer source more further) :
    (first >>= next).Comes state answer source more further := by
  refine (begun.bind goes_on).mono (by simp) ?_
  rintro key payload (never | later)
  · exact never.elim
  · exact later

/-- An activity after which only the answer is made up. -/
theorem bind_done {first : Activity (Layered σ TimedCache) γ}
    {next : γ → Activity (Layered σ TimedCache) α}
    (begun : first.Comes state between source cleared written)
    (answers : next between = Pure.pure answer) :
    (first >>= next).Comes state answer source cleared written := by
  have last : ∀ after : Layered σ TimedCache, after.source = source →
      CacheChange cleared written state.cache after.cache →
      (next between).Comes after answer source [] nothingWritten := by
    intro after same _
    rw [answers]
    exact done same
  refine (begun.bind last).mono (by simp) ?_
  rintro key payload (before | never)
  · exact before
  · exact never.elim

/-- A step of the cache. -/
theorem onCache {task : Task TimedCache α} {cache : TimedCache}
    (ran : task.outcome state.cache = (.ok answer, cache))
    (change : CacheChange cleared written state.cache cache) :
    (Activity.onCache task).Comes state answer state.source cleared written :=
  ⟨{ state with cache }, Activity.outcome_onCache_of_ok ran, rfl, change⟩

/-- An activity of the source. -/
theorem onSource {inner : Activity σ α}
    (ran : inner.run.outcome state.source = (.ok answer, source)) :
    inner.onSource.Comes state answer source [] nothingWritten := by
  refine ⟨{ state with source }, ?_, rfl, CacheChange.refl _⟩
  rw [outcome_run_onSource, ran]

variable {ε : Type} {result : Except ε α} {value : α}

/-- What is done with a value, after the activity that has given it. -/
theorem also_ok {activity : Activity (Layered σ TimedCache) (Except ε α)}
    {use : α → Activity (Layered σ TimedCache) Unit}
    (begun : activity.Comes state (.ok value) source cleared written)
    (goes_on : ∀ after : Layered σ TimedCache, after.source = source →
      CacheChange cleared written state.cache after.cache →
      (use value).Comes after () source more further) :
    (activity.also use).Comes state (.ok value) source (cleared ++ more)
      fun key payload => written key payload ∨ further key payload := by
  have rest : ∀ after : Layered σ TimedCache, after.source = source →
      CacheChange cleared written state.cache after.cache →
      Comes (use value >>= fun _ => Pure.pure (Except.ok value : Except ε α)) after (.ok value) source
        more further :=
    fun after same change => (goes_on after same change).bind_done rfl
  exact begun.bind rest

/-- Nothing more is done after a failure. -/
theorem also_error {activity : Activity (Layered σ TimedCache) (Except ε α)} {error : ε}
    {use : α → Activity (Layered σ TimedCache) Unit}
    (begun : activity.Comes state (.error error) source cleared written) :
    (activity.also use).Comes state (.error error) source cleared written := by
  exact begun.bind_done rfl

/-- Something is done with the value of an activity of the source, if it has one. -/
theorem also {activity : Activity (Layered σ TimedCache) (Except ε α)}
    {use : α → Activity (Layered σ TimedCache) Unit} (keys : α → List String)
    (begun : activity.Comes state result source [] nothingWritten)
    (goes_on : ∀ value, result = .ok value → ∀ after : Layered σ TimedCache,
      after.source = source → CacheChange [] nothingWritten state.cache after.cache →
      (use value).Comes after () source (keys value) written) :
    (activity.also use).Comes state result source (clearedAfter keys result) written := by
  cases result with
  | error error => exact begun.also_error.quiet
  | ok value =>
    refine (begun.also_ok (goes_on value rfl)).weaken ?_
    rintro key payload (never | wrote)
    · exact never.elim
    · exact wrote

/-- What is done with a value after it has been found may write, and the answer stays the same. -/
theorem also_uncleared {activity : Activity (Layered σ TimedCache) (Except ε α)}
    {use : α → Activity (Layered σ TimedCache) Unit}
    (begun : activity.Comes state result source [] nothingWritten)
    (goes_on : ∀ value, result = .ok value → ∀ after : Layered σ TimedCache,
      after.source = source → CacheChange [] nothingWritten state.cache after.cache →
      (use value).Comes after () source [] written) :
    (activity.also use).Comes state result source [] written :=
  (begun.also (fun _ => []) goes_on).uncleared

end Activity.Comes

namespace CacheFront

/-- A front before a cache in memory. -/
def inMemory (keyStart : String) (ttl : Duration) (observing : Bool) : CacheFront TimedCache :=
  ⟨⟨TimedCache.backend, keyStart, ttl⟩, observing⟩

variable {keyStart : String} {ttl : Duration} {observing : Bool} {key : String} {codec : Codec α}
  {state : Layered σ TimedCache}

/-- A store over a memory puts its start before every key that is not empty. -/
theorem fullKey_inMemory (named : key ≠ "") :
    (inMemory keyStart ttl observing).store.fullKey key = .ok (CacheKey.namespaced keyStart key) :=
  CacheStore.fullKey_named named

/-- A value that is put under a key is written in place of what was there. -/
theorem change_set (named : key ≠ "") (codec : Codec α) (value : α) {cache : TimedCache}
    (fit : cache.Fit (inMemory keyStart ttl observing).store.entryTtl) :
    ∃ after,
      ((inMemory keyStart ttl observing).store.set codec key value).outcome cache =
        (.ok (.ok ()), after) ∧
      CacheChange [CacheKey.namespaced keyStart key]
        (fun full payload => full = CacheKey.namespaced keyStart key ∧ payload = codec.encode value)
        cache after := by
  rw [CacheStore.set, CacheStore.onKey_named named]
  exact TimedCache.change_set cache (CacheKey.namespaced keyStart key) (codec.encode value) fit

/-- Keeping a value writes its payload in place of what was there. -/
theorem comes_keep (named : key ≠ "") (value : α)
    (fit : state.cache.Fit (inMemory keyStart ttl observing).store.entryTtl) :
    ((inMemory keyStart ttl observing).keep codec key value).Comes state () state.source
      [CacheKey.namespaced keyStart key]
      fun full payload => full = CacheKey.namespaced keyStart key ∧ payload = codec.encode value := by
  obtain ⟨after, stored, change⟩ := change_set named codec value fit
  exact Activity.Comes.onCache (by rw [Task.outcome_bind_of_ok stored, Task.outcome_pure]) change

/-- Forgetting a key clears it. -/
theorem comes_forget (named : key ≠ "") :
    ((inMemory keyStart ttl observing).forget key).Comes state () state.source
      [CacheKey.namespaced keyStart key] nothingWritten := by
  obtain ⟨after, done, fades, now, gone⟩ :=
    TimedCache.outcome_delete state.cache (CacheKey.namespaced keyStart key)
  have deleted : ((inMemory keyStart ttl observing).store.delete key).outcome state.cache =
      (.ok (.ok ()), after) := by
    rw [CacheStore.delete, CacheStore.onKey_named named]
    exact done
  apply Activity.Comes.onCache (by rw [Task.outcome_bind_of_ok deleted, Task.outcome_pure])
  refine ⟨fades.capacity, now, ?_⟩
  intro other payload found
  refine .inl ⟨?_, fades.live found⟩
  intro cleared
  rw [List.mem_singleton.mp cleared, gone] at found
  cases found

/-- Looking whether there is an entry changes nothing that is shown. -/
theorem comes_holds (named : key ≠ "") :
    ((inMemory keyStart ttl observing).holds key).Comes state
      (state.cache.live? (CacheKey.namespaced keyStart key)).isSome state.source [] nothingWritten := by
  obtain ⟨after, done, fades, now, -⟩ :=
    TimedCache.outcome_contains state.cache (CacheKey.namespaced keyStart key)
  have looked : ((inMemory keyStart ttl observing).store.contains key).outcome state.cache =
      (.ok (.ok (state.cache.live? (CacheKey.namespaced keyStart key)).isSome), after) := by
    rw [CacheStore.contains, CacheStore.onKey_named named]
    exact done
  have begun : Activity.Comes (Activity.onCache _) state _ state.source [] nothingWritten :=
    Activity.Comes.onCache looked (CacheChange.of_fades fades now)
  exact begun.bind_done rfl

/-- Invalidating a key clears it, whether it has been there or not. -/
theorem comes_invalidate (named : key ≠ "") :
    ((inMemory keyStart ttl observing).invalidate key).Comes state () state.source
      [CacheKey.namespaced keyStart key] nothingWritten := by
  have looked : ((inMemory keyStart ttl observing).holds key).Comes state
      (state.cache.live? (CacheKey.namespaced keyStart key)).isSome state.source [] nothingWritten :=
    comes_holds named
  unfold invalidate
  refine looked.bind_quiet ?_
  intro after same change
  cases shown : state.cache.live? (CacheKey.namespaced keyStart key) with
  | some payload => exact same ▸ comes_forget named
  | none =>
    obtain ⟨last, ran, same_last, still⟩ := (Activity.Comes.pure () after).outcome
    exact ⟨last, ran, same_last.trans same, still.of_absent (change.absent shown)⟩

/-- Observing a lookup leaves source and cache alone. -/
theorem comes_note (domain : String) (hit : Bool) :
    ((inMemory keyStart ttl observing).note domain hit).Comes state () state.source [] nothingWritten := by
  cases observing with
  | false => exact Activity.Comes.pure () state
  | true => exact ⟨_, rfl, rfl, CacheChange.refl _⟩

/-- The value that a lookup under a complete key finds in the cache. -/
def shownValue (codec : Codec α) (full : String) (cache : TimedCache) : Option α :=
  (cache.live? full).bind fun payload => (codec.decode payload).toOption

/-- A value is shown if a live payload stands under its key and can be read. -/
theorem shownValue_eq_some {full : String} {cache : TimedCache} {value : α} :
    shownValue codec full cache = some value ↔
      ∃ payload, cache.live? full = some payload ∧ codec.decode payload = .ok value := by
  unfold shownValue
  rw [Option.bind_eq_some_iff]
  constructor
  · rintro ⟨payload, shown, read⟩
    refine ⟨payload, shown, ?_⟩
    cases decoded : codec.decode payload with
    | error fault =>
      rw [decoded] at read
      cases read
    | ok found =>
      rw [decoded] at read
      cases read
      rfl
  · rintro ⟨payload, shown, decoded⟩
    refine ⟨payload, shown, ?_⟩
    rw [decoded]
    rfl

/-- A value that has not been there does not appear by itself. -/
theorem shownValue_none {full : String} {before after : TimedCache}
    (change : CacheChange [] nothingWritten before after)
    (nothing : shownValue codec full before = none) : shownValue codec full after = none := by
  unfold shownValue at nothing ⊢
  cases found : after.live? full with
  | none => rfl
  | some payload =>
    rcases change.live found with ⟨-, old⟩ | never
    · rw [old] at nothing
      exact nothing
    · exact never.elim

/-- Looking into the cache for a value. -/
theorem comes_cached? (room : 0 < state.cache.cache.capacity) (full : String) :
    (Activity.onCache ((inMemory keyStart ttl observing).store.cached? codec full)).Comes state
      (shownValue codec full state.cache) state.source [] nothingWritten := by
  obtain ⟨after, got, fades, now, -⟩ := TimedCache.outcome_get state.cache full room
  have read : ((inMemory keyStart ttl observing).store.backend.get full).outcome state.cache =
      (.ok (.ok (state.cache.live? full)), after) := got
  exact .onCache (CacheStore.outcome_cached?_of_get read) (.of_fades fades now)

/-- Writing a value that has been fetched. -/
theorem comes_populate (codec : Codec α) (full : String) (value : α)
    (fit : state.cache.Fit (inMemory keyStart ttl observing).store.entryTtl) :
    (Activity.onCache ((inMemory keyStart ttl observing).store.populate codec full value)).Comes
      state () state.source [] fun key payload => key = full ∧ payload = codec.encode value := by
  obtain ⟨after, done, change⟩ :=
    TimedCache.change_set state.cache full (codec.encode value) fit
  exact (Activity.Comes.onCache (CacheStore.outcome_populate_of_set done) change).uncleared

/-- What a lookup through the cache answers: the value in the cache, or else what the source has
given. -/
def answered (codec : Codec α) (full : String) (cache : TimedCache)
    (result : Except StorageError α) : Except StorageError α :=
  match shownValue codec full cache with
  | some value => .ok value
  | none => result

/-- The cache answers what the source gives just when it does not show another value. -/
theorem answered_eq_iff {full : String} {cache : TimedCache} {result : Except StorageError α} :
    answered codec full cache result = result ↔
      ¬ ∃ payload copy, cache.live? full = some payload ∧ codec.decode payload = .ok copy ∧
        result ≠ .ok copy := by
  unfold answered
  cases shown : shownValue codec full cache with
  | none =>
    have absent : ¬ ∃ payload copy, cache.live? full = some payload ∧
        codec.decode payload = .ok copy ∧ result ≠ .ok copy := by
      rintro ⟨payload, copy, there, decoded, -⟩
      simp [shownValue, there, decoded, Except.toOption] at shown
    exact iff_of_true rfl absent
  | some copy =>
    obtain ⟨payload, there, decoded⟩ := shownValue_eq_some.mp shown
    constructor
    · rintro same ⟨other_payload, other_copy, again, read, outdated⟩
      rw [there] at again
      cases again
      rw [decoded] at read
      cases read
      exact outdated same.symm
    · intro fresh
      by_contra other
      exact fresh ⟨payload, copy, there, decoded, fun same => other same.symm⟩

/-- A fetch that finds a value in the cache does not read the source. -/
theorem comes_fetch_of_shown (named : key ≠ "") (room : 0 < state.cache.cache.capacity)
    {read : Answers σ α} {value : α}
    (shown : shownValue codec (CacheKey.namespaced keyStart key) state.cache = some value) :
    ((inMemory keyStart ttl observing).store.fetch codec key read).Comes state (.ok ⟨value, true⟩)
      state.source [] nothingWritten := by
  have looked : (Activity.onCache ((inMemory keyStart ttl observing).store.cached? codec
      (CacheKey.namespaced keyStart key))).Comes state
      (shownValue codec (CacheKey.namespaced keyStart key) state.cache) state.source []
      nothingWritten :=
    comes_cached? room _
  rw [shown] at looked
  unfold CacheStore.fetch
  rw [fullKey_inMemory named]
  exact looked.bind_done rfl

/-- A fetch that finds no value in the cache reads the source, and is left with writing what it has
read. -/
theorem outcome_fetch_of_absent (named : key ≠ "") (room : 0 < state.cache.cache.capacity)
    {read : Answers σ α} {result : Except StorageError α} {source : σ}
    (absent : shownValue codec (CacheKey.namespaced keyStart key) state.cache = none)
    (reads : read.run.outcome state.source = (.ok result, source)) :
    ∃ ready : Layered σ TimedCache, ready.source = source ∧
      CacheChange [] nothingWritten state.cache ready.cache ∧
      ((inMemory keyStart ttl observing).store.fetch codec key read).run.outcome state =
        match result with
        | .error error => (.ok (.error error), ready)
        | .ok value =>
          ((Activity.onCache ((inMemory keyStart ttl observing).store.populate codec
            (CacheKey.namespaced keyStart key) value)) >>= fun _ =>
              (pure (.ok ⟨value, false⟩) : Activity (Layered σ TimedCache) _)).run.outcome ready := by
  have looked (before : Layered σ TimedCache) (room : 0 < before.cache.cache.capacity) :
      (Activity.onCache ((inMemory keyStart ttl observing).store.cached? codec
        (CacheKey.namespaced keyStart key))).Comes before
        (shownValue codec (CacheKey.namespaced keyStart key) before.cache) before.source []
        nothingWritten :=
    comes_cached? room _
  obtain ⟨again, first, same_again, change⟩ := (looked state room).outcome
  -- a value that is not there at first is not there at the second look either
  obtain ⟨last, second, same_last, change_last⟩ :=
    (looked again (by rw [change.capacity]; exact room)).outcome
  rw [absent] at first
  rw [shownValue_none change absent] at second
  have read_now : read.onSource.run.outcome last = (.ok result, { last with source }) := by
    rw [Activity.outcome_run_onSource, same_last, same_again, reads]
  refine ⟨{ last with source }, rfl,
    (change.trans change_last).mono (fun _ => id) fun _ _ never => never.elim id id, ?_⟩
  unfold CacheStore.fetch
  rw [fullKey_inMemory named]
  refine (Activity.outcome_bind_of_ok first).trans ?_
  refine (Activity.outcome_bind_of_ok second).trans ?_
  refine (Activity.outcome_bind_of_ok read_now).trans ?_
  cases result <;> rfl

/-- A fetch in front of a source that reading leaves as it is. -/
theorem comes_fetch (codec : Codec α) (named : key ≠ "") {read : Answers σ α} {result : Except StorageError α}
    (fit : state.cache.Fit (inMemory keyStart ttl observing).store.entryTtl)
    (reads : read.run.outcome state.source = (.ok result, state.source)) :
    ∃ hit, ((inMemory keyStart ttl observing).store.fetch codec key read).Comes state
      ((answered codec (CacheKey.namespaced keyStart key) state.cache result).map fun value =>
        ⟨value, hit⟩) state.source []
      fun full payload => full = CacheKey.namespaced keyStart key ∧
        ∃ value, result = .ok value ∧ payload = codec.encode value := by
  unfold answered
  cases shown : shownValue codec (CacheKey.namespaced keyStart key) state.cache with
  | some value => exact ⟨true, (comes_fetch_of_shown named fit.room shown).quiet⟩
  | none =>
    obtain ⟨ready, same, change, ran⟩ := @outcome_fetch_of_absent σ α keyStart ttl observing key codec
      state named fit.room read result _ shown reads
    refine ⟨false, ?_⟩
    cases result with
    | error error => exact Activity.Comes.quiet ⟨ready, ran, same, change⟩
    | ok value =>
      obtain ⟨last, wrote, same_last, change_last⟩ :=
        (comes_populate codec (CacheKey.namespaced keyStart key) value (fit.change change)).outcome
      refine ⟨last, ran.trans (Activity.outcome_bind_of_ok wrote), same_last.trans same, ?_⟩
      refine (change.trans change_last).mono (fun _ => id) ?_
      rintro full payload (never | ⟨same_key, same_payload⟩)
      · exact never.elim
      · exact ⟨same_key, value, rfl, same_payload⟩

/-- A lookup through the cache, in front of a source that reading leaves as it is. -/
theorem comes_lookup (codec : Codec α) (named : key ≠ "") (domain : String) {read : Answers σ α}
    {result : Except StorageError α}
    (fit : state.cache.Fit (inMemory keyStart ttl observing).store.entryTtl)
    (reads : read.run.outcome state.source = (.ok result, state.source)) :
    ((inMemory keyStart ttl observing).lookup domain codec key read).Comes state
      (answered codec (CacheKey.namespaced keyStart key) state.cache result) state.source []
      fun full payload => full = CacheKey.namespaced keyStart key ∧
        ∃ value, result = .ok value ∧ payload = codec.encode value := by
  obtain ⟨hit, fetched⟩ := comes_fetch codec named fit reads
  unfold lookup
  cases answer : answered codec (CacheKey.namespaced keyStart key) state.cache result with
  | error error =>
    rw [answer] at fetched
    exact fetched.also_error.bind_done rfl
  | ok value =>
    rw [answer] at fetched
    have noted : (Activity.also ((inMemory keyStart ttl observing).store.fetch codec key read)
        fun fetched => (inMemory keyStart ttl observing).note domain fetched.hit).Comes state
          (.ok ⟨value, hit⟩) state.source ([] ++ []) fun full payload =>
            (full = CacheKey.namespaced keyStart key ∧
              ∃ value, result = .ok value ∧ payload = codec.encode value) ∨
            nothingWritten full payload :=
      fetched.also_ok fun after same _ => same ▸ comes_note domain hit
    have kept := noted.weaken fun full payload wrote => wrote.resolve_right fun never => never
    exact kept.bind_done rfl

end CacheFront

end Gazette
