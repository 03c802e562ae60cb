import Mathlib.Data.List.Basic
import Gazette.Proofs.Cached.Effects
import Gazette.Proofs.Json.RoundTrip

/-!
# Whether a caller can tell the cache

Two runs of the same operations are compared, one on the repositories with a cache in memory in
front and one straight on the database.  Their databases never differ, and neither do the answers
about articles, except in one place: a cached article carries the details of its author as they
were when it was cached.  An account update clears the account's own copy only, so such an article
is shown until its entry is lost.
-/

set_option autoImplicit false

namespace Gazette

open Tables Session Database

/-- Something that happens in a run: an operation, time that passes, or the loss of an entry. -/
inductive Occurrence where
  | account (operation : AccountOperation)
  | article (operation : ArticleOperation)
  | elapse (time : Duration)
  | evict (key : String)

namespace Occurrence

/-- The state after something has happened. -/
def after (repositories : Repositories (Layered Database TimedCache))
    (state : Layered Database TimedCache) : Occurrence → Layered Database TimedCache
  | account operation => ((operation.perform repositories.accounts).run.outcome state).2
  | article operation => ((operation.perform repositories.articles).run.outcome state).2
  | elapse time => { state with cache := state.cache.elapse time }
  | evict key => { state with cache := { state.cache with cache := state.cache.cache.erase key } }

/-- The time that passes. -/
def time : Occurrence → Duration
  | elapse time => time
  | account _ => 0
  | article _ => 0
  | evict _ => 0

end Occurrence

/-- The time that passes in a run. -/
def elapsed : List Occurrence → Duration
  | [] => 0
  | occurrence :: rest => occurrence.time + elapsed rest

namespace Repositories

/-- The state after a run. -/
def play (repositories : Repositories (Layered Database TimedCache))
    (state : Layered Database TimedCache) (past : List Occurrence) : Layered Database TimedCache :=
  past.foldl (Occurrence.after repositories) state

/-- Whether no unit of work in a run is ended by one of its steps, so that each is committed or rolled
back. -/
def Unbroken (tagBatch : Nat) (repositories : Repositories (Layered Database TimedCache)) :
    Layered Database TimedCache → List Occurrence → Prop
  | _, [] => True
  | state, occurrence :: rest =>
    (∀ operation, occurrence = .article operation → operation.Unbroken tagBatch state.source) ∧
      Unbroken tagBatch repositories (occurrence.after repositories state) rest

end Repositories

/-- Whether the cache shows an article that is not what the tables hold. -/
def Outdated (keyStart : String) (state : Layered Database TimedCache) (slug : String) : Prop :=
  ∃ payload copy, state.cache.live? (articleKey keyStart slug) = some payload ∧
    Article.codec.decode payload = .ok copy ∧ state.source.tables.lookup slug ≠ .ok copy

/-- Whether the cache shows an article whose author has other details by now. -/
def AuthorOutdated (keyStart : String) (state : Layered Database TimedCache) (slug : String) : Prop :=
  ∃ payload copy account, state.cache.live? (articleKey keyStart slug) = some payload ∧
    Article.codec.decode payload = .ok copy ∧
    state.source.tables.account? (.integer copy.author.id) = some account ∧
    ¬ account.Shows copy.author

/-- The copies of articles in the cache are what the tables hold, up to the details of authors. -/
def CopiesAgree (keyStart : String) (tables : Tables) (cache : TimedCache) : Prop :=
  ∀ slug payload, cache.live? (articleKey keyStart slug) = some payload →
    ∃ copy current, Article.codec.decode payload = .ok copy ∧
      tables.lookup slug = .ok current ∧ copy.anonymous = current.anonymous

/-- The copies still agree after some of them have been lost. -/
theorem CopiesAgree.fades {keyStart : String} {tables : Tables} {before after : TimedCache}
    (agree : CopiesAgree keyStart tables before) (fades : before.Fades after) :
    CopiesAgree keyStart tables after :=
  fun slug payload shown => agree slug payload (fades.live shown)

section Copies

variable {keyStart : String} {before after : Tables} {cache later : TimedCache}
  {retired cleared : List String} {written : String → Payload → Prop}

/-- Copies agree with the tables as long as the retired articles are cleared, and only what the
tables hold is written under the key of an article. -/
theorem copiesAgree_change (agree : CopiesAgree keyStart before cache) (sound : before.Sound)
    (sound_after : after.Sound) (follows : Follows retired before after)
    (change : CacheChange cleared written cache later)
    (gone : ∀ slug ∈ retired, articleKey keyStart slug ∈ cleared)
    (copies : ∀ key payload, written key payload →
      TrueCopies keyStart after key payload ∨ RedactedCopies keyStart after key payload) :
    CopiesAgree keyStart after later := by
  intro slug payload shown
  rcases change.live shown with ⟨kept, old⟩ | new
  · obtain ⟨copy, current, decoded, held, same⟩ := agree slug payload old
    have other : slug ∉ retired := fun there => kept (gone slug there)
    obtain ⟨again, found, same_again⟩ := follows.finds other ((lookup_eq_ok sound).mp held)
    exact ⟨copy, again, decoded, (lookup_eq_ok sound_after).mpr found, same.trans same_again.symm⟩
  · rcases copies _ _ new with ⟨other, article, same_key, rfl, held⟩ | ⟨email, _, same_key, -⟩
    · rw [← articleKey_inj same_key] at held
      exact ⟨article, article, Article.lawful_codec.decode_encode article, held, rfl⟩
    · exact absurd same_key.symm userKey_ne_articleKey

end Copies

/-- The repositories with a cache in memory. -/
def Repositories.inMemory (keyStart : String) (ttl : Duration) (observing : Bool)
    (tagBatch patience : Nat) : Repositories (Layered Database TimedCache) :=
  .cached (CacheFront.inMemory keyStart ttl observing) tagBatch patience

/-- What two runs, one with a cache and one without, have in common. -/
structure Abreast (cached plain : Layered Database TimedCache) : Prop where
  source : cached.source = plain.source
  ready : cached.source.Ready
  room : 0 < cached.cache.cache.capacity

variable {keyStart : String} {ttl : Duration} {observing : Bool} {tagBatch : Nat}
  {state other : Layered Database TimedCache}

/-- Two runs are still abreast after an operation that leaves their databases the same. -/
theorem Abreast.change {cleared : List String} {written : String → Payload → Prop}
    {after other_after : Layered Database TimedCache} (abreast : Abreast state other)
    (same : after.source = other_after.source) (ready : after.source.Ready)
    (change : CacheChange cleared written state.cache after.cache) : Abreast after other_after := by
  refine ⟨same, ready, ?_⟩
  rw [change.capacity]
  exact abreast.room

/-- An operation on articles without a cache, on a state that has one standing by. -/
theorem outcome_plain_article (operation : ArticleOperation) :
    (operation.perform (Repositories.plain tagBatch).articles).run.outcome other =
      (.ok (operation.effect tagBatch other.source).1,
        { other with source := (operation.effect tagBatch other.source).2 }) := by
  have lifted : operation.perform (Repositories.plain tagBatch).articles =
      ((operation.perform (articleRepository tagBatch)).onSource :
        Activity (Layered Database TimedCache) _) := by
    cases operation <;> rfl
  rw [lifted, Activity.outcome_run_onSource, operation.outcome_effect]

/-- An operation on accounts without a cache, on a state that has one standing by. -/
theorem outcome_plain_account (operation : AccountOperation) :
    (operation.perform (Repositories.plain tagBatch).accounts).run.outcome other =
      (.ok (operation.effect other.source).1,
        { other with source := (operation.effect other.source).2 }) := by
  have lifted : operation.perform (Repositories.plain tagBatch).accounts =
      ((operation.perform accountRepository).onSource :
        Activity (Layered Database TimedCache) _) := by
    cases operation <;> rfl
  rw [lifted, Activity.outcome_run_onSource, operation.outcome_effect]

/-- Whatever happens next, two runs stay abreast, and unless a unit of work is ended by one of its
steps the copies in the cache still agree. -/
theorem abreast_after (patience : Nat) (abreast : Abreast state other) (occurrence : Occurrence)
    (fits : TimedCache.fitsClock state.cache.now
      (CacheFront.inMemory keyStart ttl observing).store.entryTtl) :
    let after := occurrence.after (Repositories.inMemory keyStart ttl observing tagBatch patience) state
    Abreast after (occurrence.after (Repositories.plain tagBatch) other) ∧
      after.cache.now = state.cache.now + occurrence.time ∧
      ((∀ operation, occurrence = .article operation → operation.Unbroken tagBatch other.source) →
        CopiesAgree keyStart state.source.tables state.cache →
        CopiesAgree keyStart after.source.tables after.cache) := by
  have fit : state.cache.Fit (CacheFront.inMemory keyStart ttl observing).store.entryTtl :=
    ⟨abreast.room, fits⟩
  have sound := abreast.ready.sound
  cases occurrence with
  | account operation =>
    obtain ⟨cleared, -, comes⟩ := operation.comes_cached abreast.ready.toHealthy fit
    obtain ⟨after, ran, same_source, change⟩ := comes.outcome
    have here : Occurrence.after (Repositories.inMemory keyStart ttl observing tagBatch patience)
        state (.account operation) = after := congrArg Prod.snd ran
    have there : (Occurrence.after (Repositories.plain tagBatch) other (.account operation)).source =
        (operation.effect other.source).2 := by
      rw [Occurrence.after, outcome_plain_account]
    obtain ⟨ready_after, follows⟩ := operation.follows_effect abreast.ready
    rw [here]
    refine ⟨abreast.change ?_ (same_source ▸ ready_after) change, change.now, ?_⟩
    · rw [there, same_source, abreast.source]
    · intro _ agree
      rw [same_source]
      exact copiesAgree_change agree sound ready_after.sound follows change (by simp)
        fun key payload wrote => .inr wrote
  | article operation =>
    obtain ⟨cleared, gone, -, comes⟩ := operation.comes_cached tagBatch abreast.ready fit
    obtain ⟨after, ran, same_source, change⟩ := comes.outcome
    have here : Occurrence.after (Repositories.inMemory keyStart ttl observing tagBatch patience)
        state (.article operation) = after := congrArg Prod.snd ran
    have there : (Occurrence.after (Repositories.plain tagBatch) other (.article operation)).source =
        (operation.effect tagBatch other.source).2 := by
      rw [Occurrence.after, outcome_plain_article]
    obtain ⟨ready_after, follows⟩ := operation.follows_effect tagBatch abreast.ready
    rw [here]
    refine ⟨abreast.change ?_ (same_source ▸ ready_after) change, change.now, ?_⟩
    · rw [there, same_source, abreast.source]
    · intro unbroken agree
      have unbroken_here : operation.Unbroken tagBatch state.source := by
        rw [abreast.source]
        exact unbroken operation rfl
      rw [same_source]
      exact copiesAgree_change agree sound ready_after.sound (follows unbroken_here) change gone
        fun key payload wrote => .inl wrote
  | elapse time =>
    refine ⟨⟨abreast.source, abreast.ready, abreast.room⟩, rfl, ?_⟩
    exact fun _ agree => agree.fades (TimedCache.fades_elapse _ time)
  | evict key =>
    refine ⟨⟨abreast.source, abreast.ready, abreast.room⟩, rfl, ?_⟩
    exact fun _ agree => agree.fades (TimedCache.fades_erase _ key)

/-- Two runs of the same operations stay abreast. -/
theorem abreast_play (patience : Nat) (past : List Occurrence) (abreast : Abreast state other)
    (fits : TimedCache.fitsClock (state.cache.now + elapsed past)
      (CacheFront.inMemory keyStart ttl observing).store.entryTtl) :
    let last := (Repositories.inMemory keyStart ttl observing tagBatch patience).play state past
    Abreast last ((Repositories.plain tagBatch).play other past) ∧
      last.cache.now = state.cache.now + elapsed past ∧
      (Repositories.Unbroken tagBatch (Repositories.plain tagBatch) other past →
        CopiesAgree keyStart state.source.tables state.cache →
        CopiesAgree keyStart last.source.tables last.cache) := by
  induction past generalizing state other with
  | nil => exact ⟨abreast, rfl, fun _ agree => agree⟩
  | cons occurrence rest ih =>
    have whole : elapsed (occurrence :: rest) = occurrence.time + elapsed rest := rfl
    have fits_now : TimedCache.fitsClock state.cache.now
        (CacheFront.inMemory keyStart ttl observing).store.entryTtl := by
      intro time same
      have inside := fits time same
      omega
    obtain ⟨next, now_next, copies_next⟩ := abreast_after patience abreast occurrence fits_now
    obtain ⟨last, now_last, copies_last⟩ := ih next (by rwa [now_next, Nat.add_assoc, ← whole])
    refine ⟨last, now_last.trans ?_, ?_⟩
    · rw [now_next, Nat.add_assoc, ← whole]
    · rintro ⟨unbroken, rest_unbroken⟩ agree
      exact copies_last rest_unbroken (copies_next unbroken agree)

namespace Repositories

/-- The answer to an operation on articles. -/
def answer (repositories : Repositories (Layered Database TimedCache))
    (state : Layered Database TimedCache) (operation : ArticleOperation) :
    Except DeadlineOverflow operation.Answer :=
  ((operation.perform repositories.articles).run.outcome state).1

/-- The state in which a run with an empty cache starts. -/
def start (tables : Tables) (clock : Nat → Instant) (readings size now : Nat) :
    Layered Database TimedCache :=
  { source := { tables, clock, readings }, cache := { cache := .ofSize size, now } }

end Repositories

/-- Before anything has happened two runs are abreast. -/
theorem abreast_start {tables : Tables} (sound : tables.Sound) (clock : Nat → Instant)
    (readings size now : Nat) :
    Abreast (Repositories.start tables clock readings size now)
      (Repositories.start tables clock readings size now) where
  source := rfl
  ready := ⟨⟨rfl, rfl, rfl⟩, sound, rfl⟩
  room := Nat.lt_of_lt_of_le Nat.zero_lt_one (Nat.le_max_right size 1)

/-- What an operation answers in front of a database that is ready. -/
theorem answer_inMemory (patience : Nat) (operation : ArticleOperation) (ready : state.source.Ready)
    (fit : state.cache.Fit (CacheFront.inMemory keyStart ttl observing).store.entryTtl) :
    (Repositories.inMemory keyStart ttl observing tagBatch patience).answer state operation =
      .ok (operation.cachedAnswer keyStart state.cache
        (operation.effect tagBatch state.source).1) := by
  obtain ⟨cleared, -, -, comes⟩ := operation.comes_cached tagBatch ready fit
  obtain ⟨after, ran, -, -⟩ := comes.outcome
  exact congrArg Prod.fst ran

/-- What an operation answers without a cache. -/
theorem answer_plain (operation : ArticleOperation) :
    (Repositories.plain tagBatch).answer state operation =
      .ok (operation.effect tagBatch state.source).1 :=
  congrArg Prod.fst (outcome_plain_article operation)

/-- A lookup through the cache finds what stands in the tables just when the cached copy of the
article, if there is one, is not outdated. -/
theorem answered_eq_iff (keyStart : String) (state : Layered Database TimedCache) (slug : String) :
    CacheFront.answered Article.codec (articleKey keyStart slug) state.cache
        (state.source.tables.lookup slug) = state.source.tables.lookup slug ↔
      ¬ Outdated keyStart state slug :=
  CacheFront.answered_eq_iff

section Agreement

variable (sound : state.source.tables.Sound)
  (agree : CopiesAgree keyStart state.source.tables state.cache) (slug : String)

include sound agree

/-- Where copies agree with the tables, nothing but the details of an author makes one outdated. -/
theorem outdated_iff : Outdated keyStart state slug ↔ AuthorOutdated keyStart state slug := by
  constructor
  · rintro ⟨payload, copy, shown, decoded, outdated⟩
    obtain ⟨again, current, read, held, same⟩ := agree slug payload shown
    rw [decoded] at read
    cases read
    -- the copy names the same author by id, so only the author's details can differ
    obtain ⟨account, referred, shows_⟩ := ((lookup_eq_ok sound).mp held).author
    have same_id : copy.author.id = current.author.id :=
      congrArg (fun article => article.author.id) same
    refine ⟨payload, copy, account, shown, decoded, same_id ▸ referred, ?_⟩
    intro up_to_date
    apply outdated
    rw [held, Article.eq_of_anonymous same (up_to_date.unique shows_)]
  · rintro ⟨payload, copy, account, shown, decoded, referred, outdated⟩
    refine ⟨payload, copy, shown, decoded, ?_⟩
    intro held
    obtain ⟨other, referred_other, shows_⟩ := ((lookup_eq_ok sound).mp held).author
    rw [referred] at referred_other
    cases referred_other
    exact outdated shows_

omit sound in
/-- Up to the details of its author, a lookup through the cache finds what stands in the tables. -/
theorem answered_anonymous :
    (CacheFront.answered Article.codec (articleKey keyStart slug) state.cache
        (state.source.tables.lookup slug)).map Article.anonymous =
      (state.source.tables.lookup slug).map Article.anonymous := by
  unfold CacheFront.answered
  cases shown : CacheFront.shownValue Article.codec (articleKey keyStart slug) state.cache with
  | none => rfl
  | some copy =>
    obtain ⟨payload, there, decoded⟩ := CacheFront.shownValue_eq_some.mp shown
    obtain ⟨again, current, read, held, same⟩ := agree slug payload there
    rw [decoded] at read
    cases read
    rw [held]
    exact congrArg Except.ok same

end Agreement

/-- Callers can tell a cache in memory from the database alone just when they look an article up
whose cached copy is outdated.  As long as no unit of work is ended by one of its steps, a copy is
only outdated by the details of its author. -/
theorem cached_articles_agree_iff {tables : Tables} (sound : tables.Sound) (clock : Nat → Instant)
    (readings size now : Nat) (keyStart : String) (ttl : Duration) (observing : Bool)
    (tagBatch patience : Nat) (past : List Occurrence)
    (fits : TimedCache.fitsClock (now + elapsed past)
      (CacheFront.inMemory keyStart ttl observing).store.entryTtl)
    (operation : ArticleOperation) :
    let cached := Repositories.inMemory keyStart ttl observing tagBatch patience
    let plain := Repositories.plain tagBatch
    let begun := Repositories.start tables clock readings size now
    let here := cached.play begun past
    let there := plain.play begun past
    here.source = there.source ∧
      (cached.answer here operation = plain.answer there operation ↔
        ∀ slug, operation = .find slug → ¬ Outdated keyStart here slug) ∧
      (Repositories.Unbroken tagBatch plain begun past → ∀ slug,
        (Outdated keyStart here slug ↔ AuthorOutdated keyStart here slug) ∧
        ∃ found current, cached.answer here (.find slug) = .ok found ∧
          plain.answer there (.find slug) = .ok current ∧
          found.map Article.anonymous = current.map Article.anonymous) := by
  intro cached plain begun here there
  obtain ⟨abreast, same_now, copies⟩ : Abreast here there ∧
      here.cache.now = now + elapsed past ∧
      (Repositories.Unbroken tagBatch plain begun past →
        CopiesAgree keyStart begun.source.tables begun.cache →
        CopiesAgree keyStart here.source.tables here.cache) :=
    abreast_play patience past (abreast_start sound clock readings size now) fits
  have fit : here.cache.Fit (CacheFront.inMemory keyStart ttl observing).store.entryTtl :=
    ⟨abreast.room, same_now ▸ fits⟩
  have answers (operation : ArticleOperation) : cached.answer here operation =
      .ok (operation.cachedAnswer keyStart here.cache (operation.effect tagBatch here.source).1) :=
    answer_inMemory patience operation abreast.ready fit
  have answers_plain (operation : ArticleOperation) : plain.answer there operation =
      .ok (operation.effect tagBatch here.source).1 := by
    rw [abreast.source]
    exact answer_plain operation
  have looked (slug : String) : ((ArticleOperation.find slug).effect tagBatch here.source).1 =
      here.source.tables.lookup slug :=
    congrArg Prod.fst (run_findArticle abreast.ready.toHealthy slug)
  refine ⟨abreast.source, ?_, ?_⟩
  · rw [answers, answers_plain, Except.ok.injEq]
    cases operation with
    | find slug =>
      rw [ArticleOperation.cachedAnswer, looked, answered_eq_iff keyStart here slug]
      simp
    | _ => simp [ArticleOperation.cachedAnswer]
  · intro unbroken slug
    have agree : CopiesAgree keyStart here.source.tables here.cache := by
      apply copies unbroken
      intro slug payload shown
      cases shown
    refine ⟨outdated_iff abreast.ready.sound agree slug, ?_⟩
    refine ⟨_, _, answers (.find slug), answers_plain (.find slug), ?_⟩
    rw [ArticleOperation.cachedAnswer, looked]
    exact answered_anonymous agree slug

namespace Sample

/-- A clock that stands still. -/
def clock : Nat → Instant :=
  fun _ => ⟨⟨2024, 2, 29, by decide, by decide, by decide⟩,
    ⟨12, 34, 56, 500000000, by decide, by decide, by decide, by decide⟩⟩

/-- The author of a commented article gets another bio. -/
def laterBio : List Occurrence :=
  [.account (.save ⟨"u", "u@x.com", "p", "old bio", ""⟩),
    .article (.save ⟨"hello-world", "Hello World", "b", 1, ["go"]⟩),
    .article (.carryOut (.perform (.saveComment "hello-world" ⟨"c", 1⟩) fun _ => .finish (.ok ()))),
    .elapse 5,
    .account (.update "u@x.com" { bio := some "new bio" })]

/-- The bio of the author of an article that has been found. -/
def bio (answer : Except DeadlineOverflow (Except StorageError Article)) : Option String :=
  match answer with
  | .ok (.ok article) => some article.author.bio
  | _ => none

end Sample

/-- A run after which the author of a cached article has other details. -/
theorem cached_articles_agree_iff_later_bio :
    let cached := Repositories.inMemory "article-" Duration.second true 100 0
    let plain := Repositories.plain 100
    let begun := Repositories.start {} Sample.clock 0 8 0
    TimedCache.fitsClock (0 + elapsed Sample.laterBio) (some Duration.second) ∧
      Repositories.Unbroken 100 plain begun Sample.laterBio ∧
      (cached.play begun Sample.laterBio).source = (plain.play begun Sample.laterBio).source ∧
      AuthorOutdated "article-" (cached.play begun Sample.laterBio) "hello-world" := by
  intro cached plain begun
  have fits : TimedCache.fitsClock (0 + elapsed Sample.laterBio) (some Duration.second) := by
    intro time same
    cases same
    decide
  have unbroken : Repositories.Unbroken 100 plain begun Sample.laterBio := by
    have committed : Work.Unbroken 100
        (.perform (.saveComment "hello-world" ⟨"c", 1⟩) fun _ => .finish (.ok ()))
        (plain.play begun (Sample.laterBio.take 2)).source := by
      unfold Work.Unbroken
      decide +kernel
    refine ⟨nofun, ?_, ?_, nofun, nofun, trivial⟩
    · rintro operation same work rfl
      cases same
    · rintro operation same work rfl
      cases same
      exact committed
  obtain ⟨same_source, iff, outdated⟩ := cached_articles_agree_iff sound_empty Sample.clock 0 8 0
    "article-" Duration.second true 100 0 Sample.laterBio fits (.find "hello-world")
  refine ⟨fits, unbroken, same_source, ?_⟩
  apply (outdated unbroken "hello-world").1.mp
  by_contra up_to_date
  have same := iff.mpr fun slug named => by
    cases named
    exact up_to_date
  have bios := congrArg Sample.bio same
  revert bios
  decide +kernel

/-- After an author has got another bio, a lookup through the cache still shows the old one. -/
theorem cached_article_shows_old_bio :
    let cached := Repositories.inMemory "article-" Duration.second true 100 0
    let plain := Repositories.plain 100
    let here := cached.play (Repositories.start {} Sample.clock 0 8 0) Sample.laterBio
    let there := plain.play (Repositories.start {} Sample.clock 0 8 0) Sample.laterBio
    Sample.bio (cached.answer here (.find "hello-world")) = some "old bio" ∧
      Sample.bio (plain.answer there (.find "hello-world")) = some "new bio" ∧
      cached.answer here (.find "hello-world") ≠ plain.answer there (.find "hello-world") := by
  intro cached plain here there
  have old : Sample.bio (cached.answer here (.find "hello-world")) = some "old bio" := by
    decide +kernel
  have new : Sample.bio (plain.answer there (.find "hello-world")) = some "new bio" := by
    decide +kernel
  refine ⟨old, new, ?_⟩
  intro same
  rw [same, new] at old
  exact absurd old (by decide)

end Gazette
