import Mathlib.Data.List.Basic
import Gazette.Proofs.Cached.AccountTransparency
import Gazette.Proofs.Cached.Deadlines
import Gazette.Proofs.Cached.Harmless
import Gazette.Proofs.Storage.ReadBack

/-!
# How stale a lookup can be

A database behind a cache in memory may also be changed by others, who tell the cache nothing.  Then
a lookup through the cache may show what the database no longer holds.  But whatever is written into
the cache is what the database holds at that moment, and it is shown no longer than the time to
live.
-/

set_option autoImplicit false

namespace Gazette

open Tables Session Database

/-- A payload that says what a lookup in a database finds, without the credential in the case of an
account. -/
def CurrentCopy (keyStart : String) (db : Database) (key : String) (payload : Payload) : Prop :=
  (∃ slug article, key = articleKey keyStart slug ∧ payload = Article.codec.encode article ∧
    (findArticle slug).run db = (.ok article, db)) ∨
  ∃ email account, key = userKey keyStart email ∧
    payload = Account.codec.encode account.redacted ∧
    (findAccount email).run db = (.ok account, db)

namespace CurrentCopy

variable {keyStart key slug email : String} {db : Database} {payload : Payload} {article : Article}
  {account : Account}

/-- An article that is found has its payload as a current copy. -/
theorem of_article (found : (findArticle slug).run db = (.ok article, db)) :
    CurrentCopy keyStart db (articleKey keyStart article.slug) (Article.codec.encode article) := by
  rw [slug_of_findArticle found]
  exact .inl ⟨slug, article, rfl, rfl, found⟩

/-- An account that is found has its redacted payload as a current copy. -/
theorem of_account (found : (findAccount email).run db = (.ok account, db)) :
    CurrentCopy keyStart db (userKey keyStart account.email)
      (Account.codec.encode account.redacted) := by
  rw [email_of_findAccount found]
  exact .inr ⟨email, account, rfl, rfl, found⟩

/-- A copy under the key of an article is what is found under its slug. -/
theorem article_found (current : CurrentCopy keyStart db (articleKey keyStart slug) payload)
    (decoded : Article.codec.decode payload = .ok article) :
    (findArticle slug).run db = (.ok article, db) := by
  rcases current with ⟨other, copy, same_key, rfl, found⟩ | ⟨email, _, same_key, -⟩
  · rw [Article.lawful_codec.decode_encode] at decoded
    cases decoded
    rw [articleKey_inj same_key]
    exact found
  · exact absurd same_key.symm userKey_ne_articleKey

/-- A copy under the key of an account is, without the credential, what is found under its email. -/
theorem account_found {copy : Account}
    (current : CurrentCopy keyStart db (userKey keyStart email) payload)
    (decoded : Account.codec.decode payload = .ok copy) :
    ∃ account, (findAccount email).run db = (.ok account, db) ∧ copy = account.redacted := by
  rcases current with ⟨slug, _, same_key, -⟩ | ⟨other, account, same_key, rfl, found⟩
  · exact absurd same_key userKey_ne_articleKey
  · rw [Account.lawful_codec.decode_encode] at decoded
    cases decoded
    rw [userKey_inj same_key]
    exact ⟨account, found, rfl⟩

end CurrentCopy

/-- A redacted account is looked up like any account, without a change. -/
theorem outcome_findRedacted (email : String) (db : Database) :
    (accountRepository.findRedacted email).run.outcome db =
      (.ok (((findAccount email).run db).1.map Account.redacted), db) := by
  have ran := (AccountOperation.find email).outcome_effect db
  refine (Activity.outcome_bind_of_ok ran).trans ?_
  exact Prod.ext rfl (findAccount_leaves email db)

/-- A redacted account has been found if the account has. -/
theorem found_of_findRedacted {email : String} {db : Database} {copy : Account}
    (ran : ((accountRepository.findRedacted email).run.outcome db).1 = .ok (.ok copy)) :
    ∃ account, (findAccount email).run db = (.ok account, db) ∧ copy = account.redacted := by
  rw [outcome_findRedacted, Except.ok.injEq] at ran
  rcases found : (findAccount email).run db with ⟨error | account, after⟩
  · rw [found] at ran
    cases ran
  · rw [found] at ran
    cases ran
    have same := findAccount_leaves email db
    rw [found] at same
    exact ⟨account, by rw [← same], rfl⟩

/-- A redacted account is not found just as the account is not. -/
theorem failed_of_findRedacted {email : String} {db : Database} {error : StorageError}
    (ran : ((accountRepository.findRedacted email).run.outcome db).1 = .ok (.error error)) :
    ((findAccount email).run db).1 = .error error := by
  rw [outcome_findRedacted, Except.ok.injEq] at ran
  cases found : ((findAccount email).run db).1 with
  | ok account =>
    rw [found] at ran
    cases ran
  | error other =>
    rw [found] at ran
    cases ran
    rfl

section Operations

variable {α β : Type} {front : CacheFront β} {state : Layered Database β}

/-- Whether an activity, done in a state, writes nothing into the cache but what the database holds
afterwards. -/
def WritesCurrent (front : CacheFront β) (activity : Activity (Layered Database β) α)
    (state : Layered Database β) : Prop :=
  let after := (activity.run.outcome state).2
  front.store.Served (CurrentCopy front.store.keyStart after.source) state.cache after.cache

/-- An activity that is told to write current copies only does so. -/
theorem Activity.Settles.writesCurrent {fit : β → Prop} {activity : Activity (Layered Database β) α}
    {answer : α} {source : Database}
    (settles : activity.Settles front.store fit state answer source
      (CurrentCopy front.store.keyStart source)) :
    WritesCurrent front activity state := by
  obtain ⟨after, ran, rfl, served, -⟩ := settles.outcome
  unfold WritesCurrent
  rw [ran]
  exact served

/-- A lookup writes what it has found in the database, which it leaves as it is. -/
theorem CacheFront.Looks.writesCurrent {domain key : String} {codec : Codec α}
    {read : Answers Database α} {lookup : Answers (Layered Database β) α}
    {fetched : Except StorageError (Fetched α)} {between : Layered Database β}
    (looks : front.Looks domain codec key read lookup state fetched between)
    (leaves : (read.run.outcome state.source).2 = state.source)
    (current : ∀ value, (read.run.outcome state.source).1 = .ok (.ok value) →
      CurrentCopy front.store.keyStart state.source (front.full key) (codec.encode value)) :
    WritesCurrent front lookup state := by
  have same : between.source = state.source :=
    looks.fetches.source.elim id fun left => left.trans leaves
  unfold WritesCurrent
  rw [looks.outcome]
  dsimp only
  rw [front.source_noted, front.cache_noted, same]
  refine looks.fetches.served.mono ?_
  rintro full payload ⟨value, rfl, rfl, ran⟩
  exact current value ran

variable {fit : β → Prop} (responds : front.store.Responds fit) (fits : fit state.cache)

include responds fits

/-- An operation on accounts writes nothing but what the database holds afterwards. -/
theorem AccountOperation.writesCurrent (operation : AccountOperation) :
    WritesCurrent front (operation.perform (accountRepository.cached front)) state := by
  have ran := operation.outcome_effect state.source
  have passed : (operation.perform accountRepository).onSource.Settles front.store fit state
      (operation.effect state.source).1 (operation.effect state.source).2
      (CurrentCopy front.store.keyStart (operation.effect state.source).2) :=
    Activity.Settles.onSource ran fits
  cases operation with
  | save account =>
    refine (settles_saveAccount responds fits ran ?_).writesCurrent
    intro saved done
    exact .of_account (found_of_saveAccount (Prod.ext done rfl)).2
  | update email patch =>
    have reads := (find email).outcome_effect ((update email patch).effect state.source).2
    have same : ((find email).effect ((update email patch).effect state.source).2).2 =
        ((update email patch).effect state.source).2 := findAccount_leaves email _
    obtain ⟨last, which, settles⟩ : ∃ last, _ ∧ Activity.Settles front.store fit _ state _ last
        (CurrentCopy front.store.keyStart ((update email patch).effect state.source).2) :=
      settles_updateAccount responds fits ran reads
      fun account _ found => .of_account (Prod.ext found same)
    have same_last := which.elim id (Eq.trans · same)
    subst same_last
    exact settles.writesCurrent
  | find email =>
    obtain ⟨fetched, between, looks, -⟩ := looks_findAccount responds accounts_answering fits email
    refine looks.writesCurrent (by rw [outcome_findRedacted]) ?_
    intro copy ran
    obtain ⟨account, found, rfl⟩ := found_of_findRedacted ran
    exact .inr ⟨email, account, rfl, rfl, found⟩
  | findFresh email => exact passed.writesCurrent

/-- An operation on articles writes nothing but what the database holds afterwards. -/
theorem ArticleOperation.writesCurrent (tagBatch : Nat) (operation : ArticleOperation) :
    WritesCurrent front (operation.perform ((articleRepository tagBatch).cached front)) state := by
  have ran := operation.outcome_effect tagBatch state.source
  have passed : (operation.perform (articleRepository tagBatch)).onSource.Settles front.store fit
      state (operation.effect tagBatch state.source).1 (operation.effect tagBatch state.source).2
      (CurrentCopy front.store.keyStart (operation.effect tagBatch state.source).2) :=
    Activity.Settles.onSource ran fits
  cases operation with
  | carryOut work => exact (settles_carryOut responds fits ran).writesCurrent
  | save article =>
    refine (settles_saveArticle responds fits ran ?_).writesCurrent
    intro saved done
    exact .of_article (found_of_saveArticle (Prod.ext done rfl)).2
  | find slug =>
    obtain ⟨fetched, between, looks, -⟩ :=
      looks_findArticle responds (articles_answering tagBatch) fits slug
    refine looks.writesCurrent (findArticle_leaves slug state.source) ?_
    intro article ran
    have found : (findArticle slug).run state.source = (.ok article, state.source) :=
      Prod.ext (Except.ok.inj ran) (findArticle_leaves slug state.source)
    exact .inl ⟨slug, article, rfl, rfl, found⟩
  | delete authorId slug => exact (settles_removal responds fits ran slug).writesCurrent
  | deleteWithComments authorId slug => exact (settles_removal responds fits ran slug).writesCurrent
  | _ => exact passed.writesCurrent

end Operations

/-- Something that happens in a run, or a change of the database that nobody tells the cache of. -/
inductive Happening where
  | occur (occurrence : Occurrence)
  | meddle (change : Database → Database)

namespace Happening

/-- The state after something has happened. -/
def after (repositories : Repositories (Layered Database TimedCache))
    (state : Layered Database TimedCache) : Happening → Layered Database TimedCache
  | occur occurrence => occurrence.after repositories state
  | meddle change => { state with source := change state.source }

/-- The time that passes. -/
def time : Happening → Duration
  | occur occurrence => occurrence.time
  | meddle _ => 0

/-- The time that passes in a run. -/
def total : List Happening → Duration
  | [] => 0
  | happening :: rest => happening.time + total rest

end Happening

namespace Repositories

variable (repositories : Repositories (Layered Database TimedCache))

/-- The state after a run. -/
def undergo (state : Layered Database TimedCache) (happenings : List Happening) :
    Layered Database TimedCache :=
  happenings.foldl (Happening.after repositories) state

/-- All states that a run passes, with the first and the last one. -/
def passed : Layered Database TimedCache → List Happening → List (Layered Database TimedCache)
  | state, [] => [state]
  | state, happening :: rest => state :: passed (happening.after repositories state) rest

variable {repositories} in
/-- The first state is one of those that are passed. -/
theorem mem_passed (state : Layered Database TimedCache) (happenings : List Happening) :
    state ∈ repositories.passed state happenings := by
  cases happenings <;> exact List.mem_cons_self

variable {repositories} in
/-- The last state is one of those that are passed. -/
theorem undergo_mem_passed (state : Layered Database TimedCache) (happenings : List Happening) :
    repositories.undergo state happenings ∈ repositories.passed state happenings := by
  induction happenings generalizing state with
  | nil => exact List.mem_cons_self
  | cons happening rest ih => exact List.mem_cons_of_mem _ (ih (happening.after repositories state))

end Repositories

/-- Whether something held in one of the states that have been passed, at most so long ago. -/
def HeldWithin (ttl : Duration) (now : Nat) (passed : List (Layered Database TimedCache))
    (held : Layered Database TimedCache → Prop) : Prop :=
  ∃ earlier ∈ passed, earlier.cache.now ≤ now ∧ now ≤ earlier.cache.now + ttl ∧ held earlier

namespace HeldWithin

variable {ttl : Duration} {passed : List (Layered Database TimedCache)}
  {held more : Layered Database TimedCache → Prop}

/-- What holds now has held at most so long ago. -/
theorem of_now {here : Layered Database TimedCache} (there : here ∈ passed) (now : held here) :
    HeldWithin ttl here.cache.now passed held :=
  ⟨here, there, le_rfl, Nat.le_add_right _ _, now⟩

/-- What has held of late still has if it is told less exactly. -/
theorem imp {now : Nat} (within : HeldWithin ttl now passed held)
    (implies : ∀ earlier, held earlier → more earlier) : HeldWithin ttl now passed more := by
  obtain ⟨earlier, seen, past, recent, was⟩ := within
  exact ⟨earlier, seen, past, recent, implies earlier was⟩

end HeldWithin

/-- Whether every entry of a cache was current in one of the states that have been passed, and has a
deadline that lies the time to live after that. -/
def OnceCurrent (keyStart : String) (ttl : Duration) (passed : List (Layered Database TimedCache))
    (cache : TimedCache) : Prop :=
  ∀ entry ∈ cache.cache.entries, ∃ earlier ∈ passed, earlier.cache.now ≤ cache.now ∧
    entry.deadline = some (earlier.cache.now + ttl) ∧
    CurrentCopy keyStart earlier.source entry.key entry.value

section Run

variable {keyStart : String} {ttl : Duration} {observing : Bool} {tagBatch : Nat}
  {state : Layered Database TimedCache} {passed : List (Layered Database TimedCache)}

/-- Some of the entries were once current, later too. -/
theorem OnceCurrent.later {before after : TimedCache}
    (once : OnceCurrent keyStart ttl passed before) (now : before.now ≤ after.now)
    (fewer : ∀ entry ∈ after.cache.entries, entry ∈ before.cache.entries) :
    OnceCurrent keyStart ttl passed after := by
  intro entry there
  obtain ⟨earlier, seen, past, told⟩ := once entry (fewer entry there)
  exact ⟨earlier, seen, past.trans now, told⟩

/-- The time to live of the entries of a store whose entries expire. -/
theorem entryTtl_inMemory (timed : 0 < ttl) :
    (CacheFront.inMemory keyStart ttl observing).store.entryTtl = some ttl :=
  if_neg (Nat.ne_of_gt timed)

/-- Entries with a positive time to live can be dated as long as the clock is not about to end. -/
theorem fitsClock_inMemory (timed : 0 < ttl) {now : Nat} (fits : now + ttl < MemoryCache.clockEnd) :
    TimedCache.fitsClock now (CacheFront.inMemory keyStart ttl observing).store.entryTtl := by
  rw [entryTtl_inMemory timed]
  rintro time ⟨⟩
  exact fits

/-- After something that writes only what is current, every entry was current once. -/
theorem WritesCurrent.onceCurrent {α : Type} {activity : Activity (Layered Database TimedCache) α}
    (timed : 0 < ttl) (fits : state.cache.now + ttl < MemoryCache.clockEnd)
    (writes : WritesCurrent (CacheFront.inMemory keyStart ttl observing) activity state)
    (seen : (activity.run.outcome state).2 ∈ passed)
    (once : OnceCurrent keyStart ttl passed state.cache) :
    let after := (activity.run.outcome state).2
    after.cache.now = state.cache.now ∧ OnceCurrent keyStart ttl passed after.cache := by
  intro after
  have dates := TimedCache.dates_served rfl writes (fitsClock_inMemory timed fits)
  refine ⟨dates.now, ?_⟩
  intro entry there
  rcases dates.entries entry there with old | ⟨current, dated⟩
  · obtain ⟨earlier, seen, past, told⟩ := once entry old
    exact ⟨earlier, seen, past.trans_eq dates.now.symm, told⟩
  · rw [entryTtl_inMemory timed] at dated
    refine ⟨after, seen, le_rfl, ?_, current⟩
    rw [dated, dates.now]
    rfl

/-- Whatever happens next, every entry was current once. -/
theorem onceCurrent_after (patience : Nat) (timed : 0 < ttl)
    (fits : state.cache.now + ttl < MemoryCache.clockEnd) (happening : Happening)
    (seen : happening.after (Repositories.inMemory keyStart ttl observing tagBatch patience) state ∈
      passed)
    (once : OnceCurrent keyStart ttl passed state.cache) :
    let after := happening.after
      (Repositories.inMemory keyStart ttl observing tagBatch patience) state
    after.cache.now = state.cache.now + happening.time ∧
      OnceCurrent keyStart ttl passed after.cache := by
  have responds := TimedCache.responds (CacheFront.inMemory keyStart ttl observing).store rfl
  have fits_clock : TimedCache.fitsClock state.cache.now
      (CacheFront.inMemory keyStart ttl observing).store.entryTtl := fitsClock_inMemory timed fits
  cases happening with
  | meddle change => exact ⟨rfl, once⟩
  | occur occurrence =>
    cases occurrence with
    | account operation =>
      exact (operation.writesCurrent responds fits_clock).onceCurrent timed fits seen once
    | article operation =>
      exact (operation.writesCurrent responds fits_clock tagBatch).onceCurrent timed fits seen once
    | elapse time => exact ⟨rfl, once.later (Nat.le_add_right _ _) fun _ there => there⟩
    | evict key => exact ⟨rfl, once.later le_rfl fun _ there => MemoryCache.mem_of_mem_erase there⟩

/-- After a run every entry was current once. -/
theorem onceCurrent_undergo (patience : Nat) (timed : 0 < ttl) (happenings : List Happening)
    (fits : state.cache.now + Happening.total happenings + ttl < MemoryCache.clockEnd)
    (seen : (Repositories.inMemory keyStart ttl observing tagBatch patience).passed state happenings ⊆
      passed)
    (once : OnceCurrent keyStart ttl passed state.cache) :
    let last := (Repositories.inMemory keyStart ttl observing tagBatch patience).undergo state
      happenings
    last.cache.now = state.cache.now + Happening.total happenings ∧
      OnceCurrent keyStart ttl passed last.cache := by
  induction happenings generalizing state with
  | nil => exact ⟨rfl, once⟩
  | cons happening rest ih =>
    obtain ⟨-, seen_rest⟩ := List.cons_subset.mp seen
    have whole : Happening.total (happening :: rest) = happening.time + Happening.total rest := rfl
    rw [whole] at fits ⊢
    obtain ⟨now_next, once_next⟩ := onceCurrent_after patience timed (by omega) happening
      (seen_rest (Repositories.mem_passed _ rest)) once
    obtain ⟨now_last, once_last⟩ := ih (by rw [now_next]; omega) seen_rest once_next
    refine ⟨?_, once_last⟩
    rw [← Nat.add_assoc, ← now_next]
    exact now_last

/-- A lookup gives what was current at most the time to live ago, or what a read of the database
gives now, and fails only as that does. -/
theorem CacheFront.Looks.timely {α : Type} {domain key : String} {codec : Codec α}
    {read : Answers Database α} {lookup : Answers (Layered Database TimedCache) α}
    {fetched : Except StorageError (Fetched α)} {between : Layered Database TimedCache}
    (looks : (CacheFront.inMemory keyStart ttl observing).Looks domain codec key read lookup state
      fetched between)
    (once : OnceCurrent keyStart ttl passed state.cache) :
    ∃ found, (lookup.run.outcome state).1 = .ok found ∧
      (∀ value, found = .ok value →
        (HeldWithin ttl state.cache.now passed fun earlier => ∃ payload,
          CurrentCopy keyStart earlier.source (CacheKey.namespaced keyStart key) payload ∧
            codec.decode payload = .ok value) ∨
          (read.run.outcome state.source).1 = .ok (.ok value)) ∧
      ∀ error, found = .error error → (read.run.outcome state.source).1 = .ok (.error error) := by
  refine ⟨_, congrArg Prod.fst looks.outcome, ?_, ?_⟩
  · intro value done
    cases fetched with
    | error error => cases done
    | ok fetched =>
      cases done
      refine (looks.fetches.origin rfl).imp_left ?_
      rintro ⟨entry, there, same_key, decoded, unexpired⟩
      obtain ⟨earlier, seen, past, dated, current⟩ := once entry there
      have full : CacheKey.namespaced keyStart key = entry.key := same_key.symm
      refine ⟨earlier, seen, past, ?_, entry.value, full ▸ current, decoded⟩
      simpa [CacheEntry.isExpired, dated] using unexpired
  · intro error failed
    cases fetched with
    | error other =>
      cases failed
      exact looks.fetches.failure
    | ok fetched => cases failed

section Lookups

variable (patience : Nat) (timed : 0 < ttl) (fits : state.cache.now + ttl < MemoryCache.clockEnd)
  (last : state ∈ passed) (once : OnceCurrent keyStart ttl passed state.cache)

include timed fits last once

/-- A lookup of an article shows what the database held at most the time to live ago. -/
theorem answer_find_timely (slug : String) :
    let plain := Repositories.plain tagBatch
    ∃ found, (Repositories.inMemory keyStart ttl observing tagBatch patience).answer state
        (.find slug) = .ok found ∧
      (∀ article, found = .ok article → HeldWithin ttl state.cache.now passed fun earlier =>
        plain.answer earlier (.find slug) = .ok (.ok article)) ∧
      ∀ error, found = .error error → plain.answer state (.find slug) = .ok (.error error) := by
  intro plain
  have plainly (state : Layered Database TimedCache) :
      plain.answer state (.find slug) = .ok ((findArticle slug).run state.source).1 :=
    answer_plain (.find slug)
  obtain ⟨fetched, between, looks, -⟩ := looks_findArticle
    (TimedCache.responds (CacheFront.inMemory keyStart ttl observing).store rfl)
    (articles_answering tagBatch) (fitsClock_inMemory timed fits) slug
  obtain ⟨found, answered, timely, failure⟩ := looks.timely once
  refine ⟨found, answered, ?_, ?_⟩
  · intro article done
    rcases timely article done with within | read
    · refine within.imp ?_
      rintro earlier ⟨payload, current, decoded⟩
      rw [plainly, current.article_found decoded]
    · exact .of_now last ((plainly state).trans read)
  · intro error failed
    exact (plainly state).trans (failure error failed)

/-- A lookup of an account shows, without the credential, what the database held at most the time to
live ago. -/
theorem accountAnswer_find_timely (email : String) :
    let plain := Repositories.plain tagBatch
    ∃ found, (Repositories.inMemory keyStart ttl observing tagBatch patience).accountAnswer state
        (.find email) = .ok found ∧
      (∀ copy, found = .ok copy → HeldWithin ttl state.cache.now passed fun earlier =>
        ∃ account, plain.accountAnswer earlier (.find email) = .ok (.ok account) ∧
          copy = account.redacted) ∧
      ∀ error, found = .error error →
        plain.accountAnswer state (.find email) = .ok (.error error) := by
  intro plain
  have plainly (state : Layered Database TimedCache) :
      plain.accountAnswer state (.find email) = .ok ((findAccount email).run state.source).1 :=
    congrArg Prod.fst (outcome_plain_account (.find email))
  obtain ⟨fetched, between, looks, -⟩ := looks_findAccount
    (TimedCache.responds (CacheFront.inMemory keyStart ttl observing).store rfl)
    accounts_answering (fitsClock_inMemory timed fits) email
  obtain ⟨found, answered, timely, failure⟩ := looks.timely once
  refine ⟨found, answered, ?_, ?_⟩
  · intro copy done
    rcases timely copy done with within | read
    · refine within.imp ?_
      rintro earlier ⟨payload, current, decoded⟩
      obtain ⟨account, held, redacted⟩ := current.account_found decoded
      exact ⟨account, by rw [plainly, held], redacted⟩
    · obtain ⟨account, held, redacted⟩ := found_of_findRedacted read
      exact .of_now last ⟨account, by rw [plainly, held], redacted⟩
  · intro error failed
    rw [plainly, failed_of_findRedacted (failure error failed)]

end Lookups

end Run

/-- A lookup through a cache in memory shows what the database held at most the time to live ago,
even if the database is also changed by others, in whatever way.  If it fails, then a lookup without
the cache fails in the same way now. -/
theorem staleness_bounded (db : Database) (size now : Nat) (keyStart : String) {ttl : Duration}
    (timed : 0 < ttl) (observing : Bool) (tagBatch patience : Nat) (happenings : List Happening)
    (fits : now + Happening.total happenings + ttl < MemoryCache.clockEnd) :
    let cached := Repositories.inMemory keyStart ttl observing tagBatch patience
    let plain := Repositories.plain tagBatch
    let begun : Layered Database TimedCache :=
      { source := db, cache := { cache := .ofSize size, now } }
    let here := cached.undergo begun happenings
    let passed := cached.passed begun happenings
    here.cache.now = now + Happening.total happenings ∧
      (∀ slug, ∃ found, cached.answer here (.find slug) = .ok found ∧
        (∀ article, found = .ok article → HeldWithin ttl here.cache.now passed fun earlier =>
          plain.answer earlier (.find slug) = .ok (.ok article)) ∧
        ∀ error, found = .error error → plain.answer here (.find slug) = .ok (.error error)) ∧
      ∀ email, ∃ found, cached.accountAnswer here (.find email) = .ok found ∧
        (∀ copy, found = .ok copy → HeldWithin ttl here.cache.now passed fun earlier =>
          ∃ account, plain.accountAnswer earlier (.find email) = .ok (.ok account) ∧
            copy = account.redacted) ∧
        ∀ error, found = .error error →
          plain.accountAnswer here (.find email) = .ok (.error error) := by
  intro cached plain begun here passed
  have empty : OnceCurrent keyStart ttl passed begun.cache := nofun
  obtain ⟨same_now, once⟩ : here.cache.now = now + Happening.total happenings ∧
      OnceCurrent keyStart ttl passed here.cache :=
    onceCurrent_undergo patience timed happenings fits (List.Subset.refl _) empty
  have last : here ∈ passed := Repositories.undergo_mem_passed begun happenings
  have fits_here : here.cache.now + ttl < MemoryCache.clockEnd := by rwa [same_now]
  exact ⟨same_now, answer_find_timely patience timed fits_here last once,
    accountAnswer_find_timely patience timed fits_here last once⟩

namespace Sample

/-- An article and its author are saved, and then somebody empties the tables. -/
def emptied : List Happening :=
  [.occur (.account (.save ⟨"u", "u@x.com", "p", "old bio", ""⟩)),
    .occur (.article (.save ⟨"hello-world", "Hello World", "b", 1, ["go"]⟩)),
    .meddle fun db => { db with tables := {} },
    .occur (.elapse 5)]

end Sample

/-- A run after which the cache shows an article that has been gone for a while, but no longer than
the time to live. -/
theorem staleness_bounded_emptied :
    let cached := Repositories.inMemory "article-" Duration.second true 100 0
    let plain := Repositories.plain 100
    let begun : Layered Database TimedCache :=
      { source := Sample.database, cache := { cache := .ofSize 8 } }
    let here := cached.undergo begun Sample.emptied
    0 < Duration.second ∧
      0 + Happening.total Sample.emptied + Duration.second < MemoryCache.clockEnd ∧
      Sample.bio (cached.answer here (.find "hello-world")) = some "old bio" ∧
      Sample.bio (plain.answer here (.find "hello-world")) = none ∧
      HeldWithin Duration.second here.cache.now (cached.passed begun Sample.emptied) fun earlier =>
        Sample.bio (plain.answer earlier (.find "hello-world")) = some "old bio" := by
  intro cached plain begun here
  have timed : 0 < Duration.second := by decide
  have fits : 0 + Happening.total Sample.emptied + Duration.second < MemoryCache.clockEnd := by
    decide +kernel
  have shown : Sample.bio (cached.answer here (.find "hello-world")) = some "old bio" := by
    decide +kernel
  obtain ⟨-, articles, -⟩ :=
    staleness_bounded Sample.database 8 0 "article-" timed true 100 0 Sample.emptied fits
  obtain ⟨found, answered, timely, -⟩ := articles "hello-world"
  refine ⟨timed, fits, shown, by decide +kernel, ?_⟩
  have same : cached.answer here (.find "hello-world") = .ok found := answered
  rw [same] at shown
  cases found with
  | error error => cases shown
  | ok article =>
    refine (timely article rfl).imp ?_
    intro earlier held
    rw [held]
    exact shown

end Gazette
