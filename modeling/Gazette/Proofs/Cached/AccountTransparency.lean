import Mathlib.Data.List.Basic
import Gazette.Proofs.Cached.Transparency

/-!
# Whether a caller can tell the cache by an account

The same two runs are compared by what they answer about accounts.  A lookup through the cache
never shows a credential; apart from that it shows what the database holds, as long as every unit of
work is committed or rolled back.  A unit of work that the engine has ended by itself is neither: the
account updates that it goes on to make stand although it fails, and the copies of these accounts are
not cleared.
-/

set_option autoImplicit false

namespace Gazette

open Tables Session Database

/-- The copies of accounts in the cache are what the tables hold, without credentials. -/
def AccountsAgree (keyStart : String) (state : Layered Database TimedCache) : Prop :=
  ∀ email payload, state.cache.live? (userKey keyStart email) = some payload →
    ∃ account, state.source.tables.holder email = .ok account ∧
      Account.codec.decode payload = .ok account.redacted

/-- Whether the cache shows an account that is not what the tables hold. -/
def AccountOutdated (keyStart : String) (state : Layered Database TimedCache) (email : String) :
    Prop :=
  ∃ payload copy, state.cache.live? (userKey keyStart email) = some payload ∧
    Account.codec.decode payload = .ok copy ∧
    (state.source.tables.holder email).map Account.redacted ≠ .ok copy

section Change

variable {keyStart : String} {state after : Layered Database TimedCache}

/-- The copies still agree after some of them have been lost. -/
theorem AccountsAgree.fades (agree : AccountsAgree keyStart state) {cache : TimedCache}
    (fades : state.cache.Fades cache) : AccountsAgree keyStart { state with cache } :=
  fun email payload shown => agree email payload (fades.live shown)

/-- Copies agree with the tables as long as the accounts that have changed are cleared, and only
what the tables hold is written under the key of an account. -/
theorem AccountsAgree.change {refreshed cleared : List String} {written : String → Payload → Prop}
    (agree : AccountsAgree keyStart state)
    (retains : Retains refreshed state.source.tables after.source.tables)
    (change : CacheChange cleared written state.cache after.cache)
    (stale : ∀ email ∈ refreshed, userKey keyStart email ∈ cleared)
    (copies : ∀ key payload, written key payload →
      TrueCopies keyStart after.source.tables key payload ∨
        RedactedCopies keyStart after.source.tables key payload) :
    AccountsAgree keyStart after := by
  intro email payload shown
  rcases change.live shown with ⟨kept, old⟩ | new
  · obtain ⟨account, held, decoded⟩ := agree email payload old
    have other : email ∉ refreshed := fun there => kept (stale email there)
    exact ⟨account, retains.holder other held, decoded⟩
  · rcases copies _ _ new with ⟨slug, article, same_key, -⟩ | ⟨other, account, same_key, rfl, held⟩
    · exact absurd same_key userKey_ne_articleKey
    · rw [← userKey_inj same_key] at held
      exact ⟨account, held, Account.lawful_codec.decode_encode account.redacted⟩

end Change

/-- An operation on accounts changes nothing under an email but that of an account that it has
updated. -/
theorem AccountOperation.retains_effect (operation : AccountOperation) {db : Database}
    (closed : db.beforeWork = none) :
    Retains (operation.refreshed (operation.effect db).1) db.tables
      (operation.effect db).2.tables := by
  have looked (email : String) :
      Retains [] db.tables ((findAccount email).run db).2.tables := by
    have composed : Composed SameAccounts (findAccount email) :=
      composed_findAccount SameAccounts.refl email
    exact .of_same ((composed.leaves SameAccounts.refl SameAccounts.trans db).outside closed).2
  cases operation with
  | save account =>
    have composed : Composed (Retains []) (saveAccount account) :=
      composed_saveAccount (Retains.refl _) account fun _ _ _ _ done => retains_insertAccount done
    exact ((composed.leaves (Retains.refl _) Retains.trans db).outside closed).2
  | update email patch =>
    have retains := ((leaves_updateAccount email patch db).outside closed).2.1
    have same : (update email patch).effect db = (updateAccount email patch).run db := rfl
    rw [same]
    cases ran : ((updateAccount email patch).run db).1 with
    | error error =>
      rw [ran] at retains
      exact retains
    | ok value =>
      rw [ran] at retains
      exact retains
  | find email => exact looked email
  | findFresh email => exact looked email

/-- An operation on articles changes nothing under an email but those of the accounts that its unit
of work has updated. -/
theorem ArticleOperation.retains_effect (tagBatch : Nat) (operation : ArticleOperation)
    {db : Database} (unlocked : db.locked = false) (closed : db.beforeWork = none)
    (unbroken : operation.Unbroken tagBatch db) :
    Retains (operation.refreshed (operation.effect tagBatch db).1) db.tables
      (operation.effect tagBatch db).2.tables := by
  have alone {α : Type} {session : Session Database α} (composed : Composed SameAccounts session) :
      Retains [] db.tables (session.run db).2.tables :=
    .of_same ((composed.leaves SameAccounts.refl SameAccounts.trans db).outside closed).2
  have within {α : Type} {session : Session Database α} (composed : Composed SameAccounts session) :
      Retains [] db.tables ((transaction session).run db).2.tables := by
    have whole := whole_transaction SameAccounts.refl SameAccounts.trans composed closed
    cases result : ((transaction session).run db).1 with
    | ok value => exact .of_same (whole.done result)
    | error error =>
      rw [whole.failed result]
      exact Retains.refl _ _
  have fewer {α : Type} {session : Session Database α} (composed : Composed Removes session) :
      Composed SameAccounts session := composed.mono fun _ _ removes => removes.accounts
  cases operation with
  | carryOut work => exact retains_carryOut tagBatch work unlocked (unbroken work rfl)
  | save article => exact within (composed_insertArticle article)
  | saveFresh article => exact within (composed_insertArticle article)
  | find slug => exact alone (composed_findArticle SameAccounts.refl slug)
  | findFresh slug => exact alone (composed_findArticle SameAccounts.refl slug)
  | list criteria => exact alone (composed_listArticles SameAccounts.refl tagBatch criteria)
  | delete authorId slug => exact within (fewer (composed_removeArticle authorId slug))
  | saveComment slug comment => exact alone (composed_saveComment slug comment)
  | findComments slug => exact alone (composed_findComments SameAccounts.refl slug)
  | deleteComment authorId slug id => exact alone (fewer (composed_removeComment authorId slug id))
  | deleteComments authorId slug => exact alone (fewer (composed_removeComments authorId slug))
  | deleteWithComments authorId slug =>
    have composed : Composed Removes
        (do
          removeArticle authorId slug
          removeComments authorId slug) :=
      .bind (composed_removeArticle authorId slug) fun _ => composed_removeComments authorId slug
    exact within (fewer composed)

variable {keyStart : String} {ttl : Duration} {observing : Bool} {tagBatch : Nat}
  {state other : Layered Database TimedCache}

/-- Whatever happens next, the copies of accounts still agree, unless a unit of work is ended by
one of its steps. -/
theorem accountsAgree_after (patience : Nat) (abreast : Abreast state other)
    (occurrence : Occurrence)
    (fits : TimedCache.fitsClock state.cache.now
      (CacheFront.inMemory keyStart ttl observing).store.entryTtl)
    (unbroken : ∀ operation, occurrence = .article operation →
      operation.Unbroken tagBatch other.source)
    (agree : AccountsAgree keyStart state) :
    AccountsAgree keyStart (occurrence.after
      (Repositories.inMemory keyStart ttl observing tagBatch patience) state) := by
  have fit : state.cache.Fit (CacheFront.inMemory keyStart ttl observing).store.entryTtl :=
    ⟨abreast.room, fits⟩
  have ready := abreast.ready
  cases occurrence with
  | account operation =>
    obtain ⟨cleared, stale, comes⟩ := operation.comes_cached ready.toHealthy fit
    obtain ⟨after, ran, same_source, change⟩ := comes.outcome
    have here : Occurrence.after (Repositories.inMemory keyStart ttl observing tagBatch patience)
        state (.account operation) = after := congrArg Prod.snd ran
    rw [here]
    rw [← same_source] at change
    exact agree.change (same_source ▸ operation.retains_effect ready.closed) change stale
      fun key payload wrote => .inr wrote
  | article operation =>
    obtain ⟨cleared, -, stale, comes⟩ := operation.comes_cached tagBatch ready fit
    obtain ⟨after, ran, same_source, change⟩ := comes.outcome
    have here : Occurrence.after (Repositories.inMemory keyStart ttl observing tagBatch patience)
        state (.article operation) = after := congrArg Prod.snd ran
    have unbroken_here : operation.Unbroken tagBatch state.source := by
      rw [abreast.source]
      exact unbroken operation rfl
    rw [here]
    rw [← same_source] at change
    exact agree.change
      (same_source ▸ operation.retains_effect tagBatch ready.locked ready.closed unbroken_here)
      change stale fun key payload wrote => .inl wrote
  | elapse time => exact agree.fades (TimedCache.fades_elapse _ time)
  | evict key => exact agree.fades (TimedCache.fades_erase _ key)

/-- The copies of accounts agree after a run without an ended unit of work. -/
theorem accountsAgree_play (patience : Nat) (past : List Occurrence) (abreast : Abreast state other)
    (fits : TimedCache.fitsClock (state.cache.now + elapsed past)
      (CacheFront.inMemory keyStart ttl observing).store.entryTtl)
    (unbroken : Repositories.Unbroken tagBatch (Repositories.plain tagBatch) other past)
    (agree : AccountsAgree keyStart state) :
    AccountsAgree keyStart
      ((Repositories.inMemory keyStart ttl observing tagBatch patience).play state past) := by
  induction past generalizing state other with
  | nil => exact agree
  | cons occurrence rest ih =>
    have whole : elapsed (occurrence :: rest) = occurrence.time + elapsed rest := rfl
    have fits_now : TimedCache.fitsClock state.cache.now
        (CacheFront.inMemory keyStart ttl observing).store.entryTtl := by
      intro time same
      have inside := fits time same
      omega
    obtain ⟨next, now_next, -⟩ := abreast_after patience abreast occurrence fits_now
    obtain ⟨unbroken_now, unbroken_rest⟩ := unbroken
    have agree_next := accountsAgree_after patience abreast occurrence fits_now unbroken_now agree
    exact ih next (by rwa [now_next, Nat.add_assoc, ← whole]) unbroken_rest agree_next

namespace Repositories

/-- The answer to an operation on accounts. -/
def accountAnswer (repositories : Repositories (Layered Database TimedCache))
    (state : Layered Database TimedCache) (operation : AccountOperation) :
    Except DeadlineOverflow operation.Answer :=
  ((operation.perform repositories.accounts).run.outcome state).1

end Repositories

/-- As long as every unit of work is committed or rolled back, callers cannot tell a cache in memory
from the database alone by an account: operations on accounts answer what they do without a cache,
except that a lookup hides the credential, and every cached copy is the redacted account that the
tables hold.  Whatever happens to the units of work, callers can tell the two apart just when they look
an account up whose cached copy is outdated. -/
theorem cached_accounts_agree_iff {tables : Tables} (sound : tables.Sound) (clock : Nat → Instant)
    (readings size now : Nat) (keyStart : String) (ttl : Duration) (observing : Bool)
    (tagBatch patience : Nat) (past : List Occurrence)
    (fits : TimedCache.fitsClock (now + elapsed past)
      (CacheFront.inMemory keyStart ttl observing).store.entryTtl) :
    let cached := Repositories.inMemory keyStart ttl observing tagBatch patience
    let plain := Repositories.plain tagBatch
    let begun := Repositories.start tables clock readings size now
    let here := cached.play begun past
    let there := plain.play begun past
    here.source = there.source ∧
      (∀ operation : AccountOperation,
        cached.accountAnswer here operation =
            (plain.accountAnswer there operation).map operation.redactedAnswer ↔
          ∀ email, operation = .find email → ¬ AccountOutdated keyStart here email) ∧
      (Repositories.Unbroken tagBatch plain begun past →
        AccountsAgree keyStart here ∧ (∀ email, ¬ AccountOutdated keyStart here email) ∧
          ∀ operation : AccountOperation, cached.accountAnswer here operation =
            (plain.accountAnswer there operation).map operation.redactedAnswer) := by
  intro cached plain begun here there
  have start := abreast_start sound clock readings size now
  obtain ⟨abreast, same_now, -⟩ : Abreast here there ∧ here.cache.now = now + elapsed past ∧ _ :=
    abreast_play patience past start fits
  have fit : here.cache.Fit (CacheFront.inMemory keyStart ttl observing).store.entryTtl :=
    ⟨abreast.room, same_now ▸ fits⟩
  have agree_iff (operation : AccountOperation) :
      cached.accountAnswer here operation =
          (plain.accountAnswer there operation).map operation.redactedAnswer ↔
        ∀ email, operation = .find email → ¬ AccountOutdated keyStart here email := by
    have answers : cached.accountAnswer here operation =
        .ok (operation.cachedAnswer keyStart here.cache (operation.effect here.source).1) := by
      obtain ⟨cleared, -, comes⟩ := operation.comes_cached abreast.ready.toHealthy fit
      obtain ⟨after, ran, -, -⟩ := comes.outcome
      exact congrArg Prod.fst ran
    have answers_plain : plain.accountAnswer there operation =
        .ok (operation.effect here.source).1 := by
      rw [abreast.source]
      exact congrArg Prod.fst (outcome_plain_account operation)
    rw [answers, answers_plain, Except.map, Except.ok.injEq]
    cases operation with
    | find email =>
      have looked : ((AccountOperation.find email).effect here.source).1 =
          here.source.tables.holder email :=
        congrArg Prod.fst (findAccount_eq abreast.ready.toHealthy email)
      rw [AccountOperation.cachedAnswer, AccountOperation.redactedAnswer, looked,
        CacheFront.answered_eq_iff]
      simp [AccountOutdated]
    | _ => simp [AccountOperation.cachedAnswer, AccountOperation.redactedAnswer]
  refine ⟨abreast.source, agree_iff, ?_⟩
  intro unbroken
  have agree : AccountsAgree keyStart here := by
    apply accountsAgree_play patience past start fits unbroken
    intro email payload shown
    cases shown
  have up_to_date : ∀ email, ¬ AccountOutdated keyStart here email := by
    rintro email ⟨payload, copy, shown, decoded, outdated⟩
    obtain ⟨account, held, read⟩ := agree email payload shown
    rw [decoded] at read
    cases read
    exact outdated (by rw [held]; rfl)
  exact ⟨agree, up_to_date, fun operation => (agree_iff operation).mpr fun email _ => up_to_date email⟩

namespace Sample

/-- A unit of work that gives an account another bio and ends with an outcome. -/
def rewriting (bio : String) (outcome : Except StorageError Unit) : Work :=
  .perform (.updateAccount "u@x.com" { bio := some bio }) fun _ => .finish outcome

/-- An account is looked up after it has been updated in a unit of work that has committed, and again
after one that has been rolled back. -/
def refreshed : List Occurrence :=
  [.account (.save ⟨"u", "u@x.com", "p", "old bio", ""⟩),
    .article (.carryOut (rewriting "new bio" (.ok ()))),
    .account (.find "u@x.com"),
    .article (.carryOut (rewriting "lost bio" (.error (.invalidData "no")))),
    .elapse 5]

/-- The bio and the password of an account that has been found. -/
def details (answer : Except DeadlineOverflow (Except StorageError Account)) :
    Option (String × String) :=
  match answer with
  | .ok (.ok account) => some (account.bio, account.password)
  | _ => none

end Sample

/-- A run after which the cache shows an account that has been updated in a unit of work, without its
credential, and does not show an update that has been rolled back. -/
theorem cached_accounts_agree_iff_refreshed :
    let cached := Repositories.inMemory "article-" Duration.second true 100 0
    let plain := Repositories.plain 100
    let begun := Repositories.start {} Sample.clock 0 8 0
    let here := cached.play begun Sample.refreshed
    let there := plain.play begun Sample.refreshed
    TimedCache.fitsClock (0 + elapsed Sample.refreshed) (some Duration.second) ∧
      Repositories.Unbroken 100 plain begun Sample.refreshed ∧
      (here.cache.live? (userKey "article-" "u@x.com")).isSome ∧ AccountsAgree "article-" here ∧
      cached.accountAnswer here (.find "u@x.com") =
        (plain.accountAnswer there (.find "u@x.com")).map
          (AccountOperation.redactedAnswer (.find "u@x.com")) ∧
      Sample.details (plain.accountAnswer there (.find "u@x.com")) = some ("new bio", "p") := by
  intro cached plain begun here there
  have fits : TimedCache.fitsClock (0 + elapsed Sample.refreshed) (some Duration.second) := by
    intro time same
    cases same
    decide
  have unbroken : Repositories.Unbroken 100 plain begun Sample.refreshed := by
    have committed : Work.Unbroken 100 (Sample.rewriting "new bio" (.ok ()))
        (plain.play begun (Sample.refreshed.take 1)).source := by
      unfold Work.Unbroken
      decide +kernel
    have rolled_back :
        Work.Unbroken 100 (Sample.rewriting "lost bio" (.error (.invalidData "no")))
          (plain.play begun (Sample.refreshed.take 3)).source := by
      unfold Work.Unbroken
      decide +kernel
    refine ⟨nofun, ?_, nofun, ?_, nofun, trivial⟩
    · rintro operation same work rfl
      cases same
      exact committed
    · rintro operation same work rfl
      cases same
      exact rolled_back
  obtain ⟨-, -, agree⟩ := cached_accounts_agree_iff sound_empty Sample.clock 0 8 0 "article-"
    Duration.second true 100 0 Sample.refreshed fits
  obtain ⟨copies, -, answers⟩ := agree unbroken
  exact ⟨fits, unbroken, by decide +kernel, copies, answers (.find "u@x.com"), by decide +kernel⟩

end Gazette
