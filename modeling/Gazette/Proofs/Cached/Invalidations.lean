import Mathlib.Data.List.Basic
import Gazette.Proofs.Cached.Effects

/-!
# What a unit of work does to the cache

A unit of work through a cache in memory removes the entries under the keys that it has made stale
and disturbs no other entry.  If it fails it does not touch the cache at all.
-/

set_option autoImplicit false

namespace Gazette

open Database

namespace MemoryCache

variable {cache : MemoryCache} {key : String} {keys : List String}

/-- The cache without the entries under some keys. -/
def without (cache : MemoryCache) (keys : List String) : MemoryCache :=
  { cache with entries := cache.entries.filter fun entry => entry.key ∉ keys }

/-- A cache without no keys is the cache. -/
@[simp]
theorem without_nil (cache : MemoryCache) : cache.without [] = cache := by
  simp [without]

/-- To erase a key is to leave the cache without it. -/
theorem erase_eq_without (cache : MemoryCache) (key : String) :
    cache.erase key = cache.without [key] := by
  simp [erase, without]

/-- Leaving out a key and then others is leaving out all of them. -/
theorem without_without (cache : MemoryCache) (key : String) (keys : List String) :
    MemoryCache.without (cache.without [key]) keys = cache.without (key :: keys) := by
  unfold without
  simp [List.filter_filter, Bool.and_comm]

/-- Nothing is found under a key that is left out. -/
theorem entry?_without_of_mem (there : key ∈ keys) :
    MemoryCache.entry? (cache.without keys) key = none := by
  unfold without entry?
  rw [List.find?_eq_none]
  rintro entry kept wanted
  have out := (List.mem_filter.mp kept).2
  simp only [decide_eq_true_eq] at out wanted
  exact out (wanted ▸ there)

/-- Leaving keys out keeps the entries under the others. -/
theorem entry?_without_of_not_mem (other : key ∉ keys) :
    MemoryCache.entry? (cache.without keys) key = cache.entry? key := by
  unfold without entry?
  rw [List.find?_filter]
  congr 1
  funext entry
  by_cases wanted : entry.key = key
  · simp [wanted, other]
  · simp [wanted]

/-- Erasing a key without an entry changes nothing. -/
theorem erase_of_absent (absent : cache.entry? key = none) : cache.erase key = cache := by
  have others : ∀ entry ∈ cache.entries, entry.key ≠ key := by
    unfold entry? at absent
    simpa using absent
  have kept : cache.entries.filter (fun entry => entry.key ≠ key) = cache.entries := by
    rw [List.filter_eq_self]
    intro entry there
    simpa using others entry there
  unfold erase
  rw [kept]

/-- A look that finds no live entry leaves none behind, and one that finds it changes nothing. -/
theorem contains_cases (cache : MemoryCache) (now : Nat) (key : String) :
    cache.contains now key = (false, cache.erase key) ∨ cache.contains now key = (true, cache) := by
  unfold contains
  cases present : cache.entry? key with
  | none => simp [erase_of_absent present]
  | some entry =>
    cases expired : entry.isExpired now with
    | true => simp [expired]
    | false => simp [expired]

end MemoryCache

/-- The cache in memory without the entries under some keys, at the same moment. -/
def TimedCache.without (cache : TimedCache) (keys : List String) : TimedCache :=
  { cache with cache := cache.cache.without keys }

/-- Under a key that is left out there is no entry, so nothing is shown. -/
theorem TimedCache.absent_without (cache : TimedCache) {key : String} {keys : List String}
    (there : key ∈ keys) :
    MemoryCache.entry? (cache.without keys).cache key = none ∧
      (cache.without keys).live? key = none := by
  have absent : MemoryCache.entry? (cache.without keys).cache key = none :=
    MemoryCache.entry?_without_of_mem there
  refine ⟨absent, ?_⟩
  unfold live?
  rw [absent]

namespace Layered

variable {σ : Type}

/-- The same state, without the entries of the cache under some keys. -/
def without (state : Layered σ TimedCache) (keys : List String) : Layered σ TimedCache :=
  { state with cache := state.cache.without keys }

/-- A state without no keys is the state. -/
@[simp]
theorem without_nil (state : Layered σ TimedCache) : state.without [] = state := by
  simp [without, TimedCache.without]

/-- Keys can be taken out one after the other. -/
theorem without_without (state : Layered σ TimedCache) (key : String) (keys : List String) :
    (state.without [key]).without keys = state.without (key :: keys) := by
  unfold without TimedCache.without
  simp only [MemoryCache.without_without]

end Layered

namespace CacheFront

variable {σ : Type} {keyStart : String} {ttl : Duration} {observing : Bool} {key : String}

/-- A step of the store on a named key is the step of the backend on the complete key. -/
theorem onKey_inMemory {α : Type} (named : key ≠ "")
    (operation : String → Task TimedCache (Except CacheError α)) :
    (inMemory keyStart ttl observing).store.onKey key operation =
      operation (CacheKey.namespaced keyStart key) :=
  CacheStore.onKey_named named operation

/-- Forgetting a key leaves out its entry and does nothing else. -/
theorem outcome_forget (named : key ≠ "") (state : Layered σ TimedCache) :
    ((inMemory keyStart ttl observing).forget key).run.outcome state =
      (.ok (), state.without [CacheKey.namespaced keyStart key]) := by
  have deleted : ((inMemory keyStart ttl observing).store.delete key).outcome state.cache =
      (.ok (.ok ()), state.cache.without [CacheKey.namespaced keyStart key]) := by
    unfold CacheStore.delete TimedCache.without
    rw [onKey_inMemory named, ← MemoryCache.erase_eq_without]
    rfl
  apply Activity.outcome_onCache_of_ok
  rw [Task.outcome_bind_of_ok deleted, Task.outcome_pure]

/-- Looking for a live entry leaves no dead one behind. -/
theorem outcome_holds (named : key ≠ "") (state : Layered σ TimedCache) :
    ((inMemory keyStart ttl observing).holds key).run.outcome state =
        (.ok false, state.without [CacheKey.namespaced keyStart key]) ∨
      ((inMemory keyStart ttl observing).holds key).run.outcome state = (.ok true, state) := by
  have looked : ((inMemory keyStart ttl observing).store.contains key).outcome state.cache =
      (.ok (.ok (state.cache.cache.contains state.cache.now (CacheKey.namespaced keyStart key)).1),
        { state.cache with
          cache :=
            (state.cache.cache.contains state.cache.now (CacheKey.namespaced keyStart key)).2 }) := by
    unfold CacheStore.contains
    rw [onKey_inMemory named]
    rfl
  have begun : (Activity.onCache _).run.outcome state = _ := Activity.outcome_onCache_of_ok looked
  unfold holds
  rw [Activity.outcome_bind_of_ok begun]
  rcases state.cache.cache.contains_cases state.cache.now (CacheKey.namespaced keyStart key) with
    gone | live
  · left
    rw [gone, MemoryCache.erase_eq_without]
    rfl
  · right
    rw [live]
    rfl

/-- Invalidating a key leaves out its entry and does nothing else. -/
theorem outcome_invalidate (named : key ≠ "") (state : Layered σ TimedCache) :
    ((inMemory keyStart ttl observing).invalidate key).run.outcome state =
      (.ok (), state.without [CacheKey.namespaced keyStart key]) := by
  have looked : ((inMemory keyStart ttl observing).holds key).run.outcome state = _ ∨
      ((inMemory keyStart ttl observing).holds key).run.outcome state = _ :=
    outcome_holds named state
  unfold invalidate
  rcases looked with gone | live
  · rw [Activity.outcome_bind_of_ok gone]
    rfl
  · rw [Activity.outcome_bind_of_ok live]
    exact outcome_forget named state

/-- Invalidating keys one after the other leaves out their entries and does nothing else. -/
theorem outcome_invalidateAll (keyStart : String) (ttl : Duration) (observing : Bool)
    (keys : List String) (named : ∀ key ∈ keys, key ≠ "") (state : Layered σ TimedCache) :
    ((inMemory keyStart ttl observing).invalidateAll keys).run.outcome state =
      (.ok PUnit.unit, state.without (keys.map (CacheKey.namespaced keyStart))) := by
  induction keys generalizing state with
  | nil =>
    rw [List.map_nil, Layered.without_nil]
    rfl
  | cons key keys ih =>
    have first : ((inMemory keyStart ttl observing).invalidate key).run.outcome state = _ :=
      outcome_invalidate (named key List.mem_cons_self) state
    have others := ih (fun key there => named key (List.mem_cons_of_mem _ there))
      (state.without [CacheKey.namespaced keyStart key])
    rw [Layered.without_without] at others
    rw [invalidateAll, Activity.outcome_bind_of_ok first]
    exact others

end CacheFront

/-- A slug is listed as deleted if a step has succeeded in deleting the article. -/
theorem mem_deletedSlugs {slug : String} {steps : List Performed} :
    slug ∈ deletedSlugs steps ↔ ∃ performed ∈ steps, performed.succeeded ∧
      ∃ authorId, performed.step = .deleteArticle authorId slug := by
  unfold deletedSlugs
  rw [List.mem_filterMap]
  constructor
  · rintro ⟨⟨step, result⟩, there, listed⟩
    cases step <;> try cases listed
    rename_i authorId other
    obtain ⟨succeeded, same⟩ := Option.ite_none_right_eq_some.mp listed
    cases same
    exact ⟨_, there, succeeded, authorId, rfl⟩
  · rintro ⟨⟨step, result⟩, there, succeeded, authorId, rfl⟩
    exact ⟨_, there, if_pos succeeded⟩

/-- An email is listed as updated if a step has succeeded in updating the account. -/
theorem mem_updatedEmails {email : String} {steps : List Performed} :
    email ∈ updatedEmails steps ↔ ∃ performed ∈ steps, performed.succeeded ∧
      ∃ patch, performed.step = .updateAccount email patch := by
  unfold updatedEmails
  rw [List.mem_filterMap]
  constructor
  · rintro ⟨⟨step, result⟩, there, listed⟩
    cases step <;> try cases listed
    rename_i other patch
    obtain ⟨succeeded, same⟩ := Option.ite_none_right_eq_some.mp listed
    cases same
    exact ⟨_, there, succeeded, patch, rfl⟩
  · rintro ⟨⟨step, result⟩, there, succeeded, patch, rfl⟩
    exact ⟨_, there, if_pos succeeded⟩

namespace Performed

/-- Whether a step has succeeded and has thereby made the entry under a complete key stale. -/
def Outdates (keyStart full : String) (performed : Performed) : Prop :=
  performed.succeeded ∧
    ((∃ authorId slug, performed.step = .deleteArticle authorId slug ∧
        full = articleKey keyStart slug) ∨
      ∃ email patch, performed.step = .updateAccount email patch ∧ full = userKey keyStart email)

end Performed

/-- The stale keys of a unit of work are those that its steps have made stale. -/
theorem mem_staleKeys {keyStart full : String} {steps : List Performed} :
    full ∈ (staleKeys steps).map (CacheKey.namespaced keyStart) ↔
      ∃ performed ∈ steps, performed.Outdates keyStart full := by
  unfold staleKeys Performed.Outdates
  simp only [List.map_append, List.mem_append, List.map_map, List.mem_map, mem_deletedSlugs,
    mem_updatedEmails, Function.comp_apply]
  constructor
  · rintro (⟨slug, ⟨performed, there, succeeded, authorId, same⟩, rfl⟩ |
      ⟨email, ⟨performed, there, succeeded, patch, same⟩, rfl⟩)
    · exact ⟨performed, there, succeeded, .inl ⟨authorId, slug, same, rfl⟩⟩
    · exact ⟨performed, there, succeeded, .inr ⟨email, patch, same, rfl⟩⟩
  · rintro ⟨performed, there, succeeded, ⟨authorId, slug, same, rfl⟩ | ⟨email, patch, same, rfl⟩⟩
    · exact .inl ⟨slug, ⟨performed, there, succeeded, authorId, same⟩, rfl⟩
    · exact .inr ⟨email, ⟨performed, there, succeeded, patch, same⟩, rfl⟩

/-- What a unit of work through a cache in memory comes to: the outcome and the source are those of
the unit of work without the cache, and the entries are left out that a successful one has made
stale. -/
theorem outcome_cached_carryOut (keyStart : String) (ttl : Duration) (observing : Bool)
    (tagBatch : Nat) (work : Work) (state : Layered Database TimedCache) :
    (((articleRepository tagBatch).cached
        (CacheFront.inMemory keyStart ttl observing)).carryOut work).run.outcome state =
      (.ok (Database.carryOut tagBatch work state.source).1,
        { source := (Database.carryOut tagBatch work state.source).2
          cache := if (Database.carryOut tagBatch work state.source).1.1.toBool then
              state.cache.without ((staleKeys
                ((Database.carryOut tagBatch work state.source).1.2.getD [])).map
                  (CacheKey.namespaced keyStart))
            else state.cache
          observed := state.observed }) := by
  have answers := ArticleOperation.outcome_effect tagBatch (.carryOut work) state.source
  rw [ArticleOperation.effect] at answers
  generalize Database.carryOut tagBatch work state.source = result at answers ⊢
  obtain ⟨⟨outcome, record⟩, source⟩ := result
  cases outcome with
  | error error => exact ArticleRepository.outcome_cached_carryOut_of_error _ answers
  | ok done =>
    have cleared := CacheFront.outcome_invalidateAll keyStart ttl observing
      (staleKeys (record.getD [])) (fun _ => ne_empty_of_mem_staleKeys) { state with source }
    refine (ArticleRepository.outcome_cached_carryOut_of_ok _ answers).trans ?_
    rw [cleared]
    rfl

/-- A unit of work through a cache in memory ends as it does without the cache.  If it succeeds,
then nothing is left in the cache under the key of an article that one of its steps has deleted or
of an account that one of its steps has updated, and under all other keys there are the entries that
were there before, with their values and deadlines.  If it fails, the cache is exactly as before. -/
theorem unit_of_work_invalidates_exactly (keyStart : String) (ttl : Duration) (observing : Bool)
    (tagBatch : Nat) (work : Work) (state : Layered Database TimedCache) :
    ∃ outcome record source cache,
      (((articleRepository tagBatch).cached
          (CacheFront.inMemory keyStart ttl observing)).carryOut work).run.outcome state =
        (.ok (outcome, record), { state with source, cache }) ∧
      Database.carryOut tagBatch work state.source = ((outcome, record), source) ∧
      match outcome with
      | .ok () => ∃ steps, record = some steps ∧
          cache.now = state.cache.now ∧ cache.cache.capacity = state.cache.cache.capacity ∧
          cache.cache.entries.Sublist state.cache.cache.entries ∧
          (∀ performed ∈ steps, performed.succeeded →
            (∀ authorId slug, performed.step = .deleteArticle authorId slug →
              cache.cache.entry? (articleKey keyStart slug) = none ∧
              cache.live? (articleKey keyStart slug) = none) ∧
            ∀ email patch, performed.step = .updateAccount email patch →
              cache.cache.entry? (userKey keyStart email) = none ∧
              cache.live? (userKey keyStart email) = none) ∧
          ∀ full, (¬ ∃ performed ∈ steps, performed.Outdates keyStart full) →
            cache.cache.entry? full = state.cache.cache.entry? full
      | .error _ => cache = state.cache := by
  have ran := outcome_cached_carryOut keyStart ttl observing tagBatch work state
  rcases inner : Database.carryOut tagBatch work state.source with ⟨⟨outcome, record⟩, source⟩
  rw [inner] at ran
  refine ⟨outcome, record, source, _, ran, rfl, ?_⟩
  cases outcome with
  | error error => rfl
  | ok done =>
    obtain ⟨_, steps, _, _, _, _, rfl, _⟩ := Database.carryOut_eq_ok inner
    have gone (full : String) (outdated : ∃ performed ∈ steps, performed.Outdates keyStart full) :=
      state.cache.absent_without (mem_staleKeys.mpr outdated)
    refine ⟨steps, rfl, rfl, rfl, List.filter_sublist, ?_, ?_⟩
    · intro performed there succeeded
      constructor
      · intro authorId slug same
        exact gone _ ⟨performed, there, succeeded, .inl ⟨authorId, slug, same, rfl⟩⟩
      · intro email patch same
        exact gone _ ⟨performed, there, succeeded, .inr ⟨email, patch, same, rfl⟩⟩
    · intro full fresh
      exact MemoryCache.entry?_without_of_not_mem (mt mem_staleKeys.mp fresh)

end Gazette
