import Mathlib.Data.List.Basic
import Gazette.Proofs.Cached.Effects
import Gazette.Proofs.Storage.Blind

/-!
# What the cache sees of passwords

Every operation through a cache does the same without the texts of passwords, in the database and
in what it is given.  The cache is called in the same way and comes to the same, and a lookup
through it answers the same.
-/

set_option autoImplicit false

namespace Gazette

open Tables Session Database

/-- A layered state without the texts of passwords in its database. -/
def Layered.redacted {β : Type} (state : Layered Database β) : Layered Database β :=
  { state with source := state.source.redacted }

variable {β α γ τ υ : Type}

section Rules

/-- One activity after the other. -/
theorem mirrors_activity_bind {σ : Type} {view : σ → σ} {seen : γ → υ} {shown : α → τ}
    {activity : Activity σ γ} {mirror : Activity σ υ} {next : γ → Activity σ α}
    {next_mirror : υ → Activity σ τ} (first : Mirrors view seen activity.run mirror.run)
    (second : ∀ value, Mirrors view shown (next value).run (next_mirror (seen value)).run) :
    Mirrors view shown (activity >>= next).run (mirror >>= next_mirror).run := by
  rw [Activity.run_bind_eq, Activity.run_bind_eq]
  exact mirrors_bind first second

/-- What is done with a value, after the activity that has given it. -/
theorem mirrors_also {σ ε : Type} {view : σ → σ} {shown : α → τ}
    {activity : Activity σ (Except ε α)} {mirror : Activity σ (Except ε τ)}
    {use : α → Activity σ Unit} {use_mirror : τ → Activity σ Unit}
    (first : Mirrors view (Except.map shown) activity.run mirror.run)
    (second : ∀ value, Mirrors view id (use value).run (use_mirror (shown value)).run) :
    Mirrors view (Except.map shown) (activity.also use).run (mirror.also use_mirror).run := by
  apply mirrors_activity_bind first
  rintro (error | value)
  · exact fun _ => rfl
  · exact mirrors_activity_bind (second value) fun _ _ => rfl

/-- What is done with a value that is the same without passwords. -/
theorem mirrors_also_id {σ ε : Type} {view : σ → σ} {activity mirror : Activity σ (Except ε α)}
    {use use_mirror : α → Activity σ Unit} (first : Mirrors view id activity.run mirror.run)
    (second : ∀ value, Mirrors view id (use value).run (use_mirror value).run) :
    Mirrors view id (activity.also use).run (mirror.also use_mirror).run := by
  rw [← Except.map_id] at first ⊢
  exact mirrors_also first second

/-- The task of a session does the same without passwords if the session does. -/
theorem mirrors_task {shown : α → τ} {session : Session Database α} {mirror : Session Database τ}
    (same : Mirrors Database.redacted shown session mirror) :
    Mirrors Database.redacted (Except.map shown) (Activity.ofTask session.task).run
      (Activity.ofTask mirror.task).run := by
  intro db
  have opened {δ : Type} (session : Session Database δ) (db : Database) :
      (Activity.ofTask session.task).run.run db = (.ok (session.run db).1, (session.run db).2) :=
    rfl
  rw [opened, opened, same db]
  rfl

/-- The task of a session answers the same without passwords if the session does. -/
theorem mirrors_task_id {session mirror : Session Database α}
    (same : Mirrors Database.redacted id session mirror) :
    Mirrors Database.redacted id (Activity.ofTask session.task).run
      (Activity.ofTask mirror.task).run := by
  have answers := mirrors_task same
  rw [Except.map_id] at answers
  exact answers

/-- An activity of the database, with a cache standing by. -/
theorem mirrors_onSource {shown : α → τ} {activity : Activity Database α}
    {mirror : Activity Database τ}
    (same : Mirrors Database.redacted shown activity.run mirror.run) :
    Mirrors Layered.redacted shown (activity.onSource : Activity (Layered Database β) α).run
      (mirror.onSource : Activity (Layered Database β) τ).run := by
  intro state
  have answered := mirror.outcome_run_onSource (Layered.redacted state)
  have answers := activity.outcome_run_onSource state
  unfold Task.outcome at answered answers
  have source : (Layered.redacted state).source = state.source.redacted := rfl
  rw [answered, answers, source, same]
  rfl

/-- A step of the cache does not see the database. -/
theorem mirrors_onCache (task : Task β α) :
    Mirrors Layered.redacted id (Activity.onCache task : Activity (Layered Database β) α).run
      (Activity.onCache task).run := by
  have stepped : Mirrors Layered.redacted id (Layered.onCache task : Task (Layered Database β) α)
      (Layered.onCache task) := by
    intro state
    rw [Except.map_id]
    rfl
  exact mirrors_bind stepped fun value => mirrors_pure id value

end Rules

section Front

variable (front : CacheFront β)

/-- Keeping a value does not see the passwords in the database. -/
theorem mirrors_keep (codec : Codec α) (key : String) (value : α) :
    Mirrors Layered.redacted id (front.keep codec key value).run (front.keep codec key value).run :=
  mirrors_onCache _

/-- Forgetting a key does not see them. -/
theorem mirrors_forget (key : String) :
    Mirrors Layered.redacted id (front.forget key).run (front.forget key).run :=
  mirrors_onCache _

/-- Looking whether a key is there does not see them. -/
theorem mirrors_holds (key : String) :
    Mirrors Layered.redacted id (front.holds key).run (front.holds key).run := by
  apply mirrors_activity_bind (mirrors_onCache _)
  rintro (error | found)
  · exact fun _ => rfl
  · exact fun _ => rfl

/-- Clearing a key does not see them. -/
theorem mirrors_invalidate (key : String) :
    Mirrors Layered.redacted id (front.invalidate key).run (front.invalidate key).run := by
  apply mirrors_activity_bind (mirrors_holds front key)
  rintro (_ | _)
  · exact fun _ => rfl
  · exact mirrors_forget front key

/-- Clearing some keys does not see them. -/
theorem mirrors_invalidateAll (keys : List String) :
    Mirrors Layered.redacted id (front.invalidateAll keys).run (front.invalidateAll keys).run := by
  induction keys with
  | nil => exact mirrors_pure id _
  | cons key keys ih => exact mirrors_activity_bind (mirrors_invalidate front key) fun _ => ih

/-- A fetch does not see passwords if its generator does not. -/
theorem mirrors_fetch (store : CacheStore β) (codec : Codec α) (key : String)
    {generate : Answers Database α}
    (same : Mirrors Database.redacted id generate.run generate.run) :
    Mirrors Layered.redacted id (store.fetch codec key generate).run
      (store.fetch codec key generate).run := by
  unfold CacheStore.fetch
  split
  · exact fun _ => rfl
  · apply mirrors_activity_bind (mirrors_onCache _)
    rintro (_ | value)
    · apply mirrors_activity_bind (mirrors_onCache _)
      rintro (_ | value)
      · apply mirrors_activity_bind (mirrors_onSource same)
        rintro (error | value)
        · exact fun _ => rfl
        · exact mirrors_activity_bind (mirrors_onCache _) fun _ _ => rfl
      · exact fun _ => rfl
    · exact fun _ => rfl

/-- Counting a hit or a miss does not see them. -/
theorem mirrors_note (domain : String) (hit : Bool) :
    Mirrors Layered.redacted id (front.note domain hit : Activity (Layered Database β) Unit).run
      (front.note domain hit).run := by
  unfold CacheFront.note
  split
  · exact fun _ => rfl
  · exact fun _ => rfl

/-- A lookup through the cache does not see passwords if the read of the database does not. -/
theorem mirrors_lookup (domain : String) (codec : Codec α) (key : String)
    {read : Answers Database α} (same : Mirrors Database.redacted id read.run read.run) :
    Mirrors Layered.redacted id (front.lookup domain codec key read).run
      (front.lookup domain codec key read).run := by
  have fetched := mirrors_fetch front.store codec key same
  apply mirrors_activity_bind (mirrors_also_id fetched fun fetched => mirrors_note front domain _)
  exact fun result => mirrors_pure id _

end Front

/-- An operation on accounts without the text of a password. -/
def AccountOperation.redacted : AccountOperation → AccountOperation
  | save account => save account.redacted
  | update email patch => update email patch.redacted
  | find email => find email
  | findFresh email => findFresh email

/-- What an operation on accounts through the cache answers, without passwords.  Lookups through the
cache answer without them anyway. -/
def AccountOperation.shown : (operation : AccountOperation) → operation.Answer →
    operation.redacted.Answer
  | save _, answer => answer.map Account.redacted
  | update _ _, answer => answer
  | find _, answer => answer
  | findFresh _, answer => answer.map Account.redacted

/-- Whether an operation on articles is a unit of work. -/
def ArticleOperation.isWork : ArticleOperation → Bool
  | carryOut _ => true
  | _ => false

section Operations

variable (front : CacheFront β) (tagBatch : Nat)

/-- A lookup of an account through the cache answers the same without passwords. -/
theorem mirrors_find (email : String) :
    Mirrors Layered.redacted id ((accountRepository.cached front).find email).run
      ((accountRepository.cached front).find email).run := by
  have found : Mirrors Database.redacted id (accountRepository.findRedacted email).run
      (accountRepository.findRedacted email).run := by
    apply mirrors_activity_bind (mirrors_task (mirrors_findAccount email))
    rintro (error | account)
    · exact fun _ => rfl
    · exact fun _ => rfl
  exact mirrors_lookup front _ _ _ found

/-- An operation on accounts through the cache does the same without passwords. -/
theorem AccountOperation.mirrors_cached (operation : AccountOperation) :
    Mirrors Layered.redacted operation.shown
      (operation.perform (accountRepository.cached front)).run
      (operation.redacted.perform (accountRepository.cached front)).run := by
  cases operation with
  | save account =>
    exact mirrors_also (mirrors_onSource (mirrors_task (mirrors_saveAccount account)))
      fun saved => mirrors_keep front Account.codec _ _
  | update email patch =>
    have refreshed : Mirrors Layered.redacted id (accountRepository.refresh front email).run
        (accountRepository.refresh front email).run := by
      apply mirrors_activity_bind (mirrors_holds front _)
      rintro (_ | _)
      · exact fun _ => rfl
      · apply mirrors_activity_bind (mirrors_onSource (mirrors_task (mirrors_findAccount email)))
        rintro (error | account)
        · exact mirrors_forget front _
        · exact mirrors_keep front Account.codec _ _
    have updated := mirrors_task_id (mirrors_updateAccount email patch)
    exact mirrors_also_id (mirrors_onSource updated) fun _ => refreshed
  | find email => exact mirrors_find front email
  | findFresh email => exact mirrors_onSource (mirrors_task (mirrors_findAccount email))

/-- Deleting an article with the comments on it does not see passwords. -/
theorem blind_removeWithComments (authorId : Int64) (slug : String) :
    Blind (removeWithComments authorId slug) :=
  blind_transaction (mirrors_bind (blind_removeArticle authorId slug) fun _ =>
    blind_removeComments authorId slug)

/-- An operation on articles through the cache, unless it is a unit of work, does and answers the
same without passwords. -/
theorem ArticleOperation.mirrors_cached (operation : ArticleOperation)
    (single : operation.isWork = false) :
    Mirrors Layered.redacted id
      (operation.perform ((articleRepository tagBatch).cached front)).run
      (operation.perform ((articleRepository tagBatch).cached front)).run := by
  have alone {α : Type} {session : Session Database α} (blind : Blind session) :
      Mirrors Layered.redacted id
        ((Activity.ofTask session.task).onSource : Activity (Layered Database β) _).run
        ((Activity.ofTask session.task).onSource).run :=
    mirrors_onSource (mirrors_task_id blind)
  cases operation with
  | carryOut work => cases single
  | save article =>
    exact mirrors_also_id (alone (blind_transaction (blind_insertArticle article)))
      fun saved => mirrors_keep front _ _ _
  | saveFresh article => exact alone (blind_transaction (blind_insertArticle article))
  | find slug => exact mirrors_lookup front _ _ _ (mirrors_task_id (blind_findArticle slug))
  | findFresh slug => exact alone (blind_findArticle slug)
  | list criteria => exact alone (blind_listArticles tagBatch criteria)
  | delete authorId slug =>
    exact mirrors_also_id (alone (blind_transaction (blind_removeArticle authorId slug)))
      fun _ => mirrors_invalidate front _
  | saveComment slug comment => exact alone (blind_saveComment slug comment)
  | findComments slug => exact alone (blind_findComments slug)
  | deleteComment authorId slug id => exact alone (blind_removeComment authorId slug id)
  | deleteComments authorId slug => exact alone (blind_removeComments authorId slug)
  | deleteWithComments authorId slug =>
    exact mirrors_also_id (alone (blind_removeWithComments authorId slug))
      fun _ => mirrors_invalidate front _

/-- Whether a step has succeeded does not depend on passwords. -/
theorem succeeded_redacted (performed : Performed) :
    performed.redacted.succeeded = performed.succeeded := by
  obtain ⟨step, result⟩ := performed
  cases result <;> rfl

/-- The keys that a unit of work makes stale do not depend on passwords. -/
theorem staleKeys_redacted (record : List Performed) :
    staleKeys (record.map Performed.redacted) = staleKeys record := by
  unfold staleKeys deletedSlugs updatedEmails
  rw [List.filterMap_map, List.filterMap_map]
  congr 2
  · congr 1
    funext performed
    rw [Function.comp_apply, succeeded_redacted]
    obtain ⟨step, result⟩ := performed
    cases step <;> rfl
  · congr 1
    funext performed
    rw [Function.comp_apply, succeeded_redacted]
    obtain ⟨step, result⟩ := performed
    cases step <;> rfl

/-- What a unit of work answers, without passwords. -/
def redactedRecord (answer : Except StorageError Unit × Option (List Performed)) :
    Except StorageError Unit × Option (List Performed) :=
  (answer.1, answer.2.map (List.map Performed.redacted))

/-- A unit of work through the cache that is written down in advance does the same without
passwords. -/
theorem mirrors_cached_work (lines : List (Directive × Bool)) :
    Mirrors Layered.redacted redactedRecord
      (((articleRepository tagBatch).cached front).carryOut (.ofDirectives lines)).run
      (((articleRepository tagBatch).cached front).carryOut
        (.ofDirectives (redactedLines lines))).run := by
  have inner : Mirrors Database.redacted redactedRecord
      ((articleRepository tagBatch).carryOut (.ofDirectives lines)).run
      ((articleRepository tagBatch).carryOut (.ofDirectives (redactedLines lines))).run := by
    intro db
    have opened (work : Work) (db : Database) :
        ((articleRepository tagBatch).carryOut work).run.run db =
          (.ok (Database.carryOut tagBatch work db).1, (Database.carryOut tagBatch work db).2) :=
      rfl
    rw [opened, opened, Database.carryOut_redacted]
    rfl
  rw [ArticleRepository.cached_carryOut, ArticleRepository.cached_carryOut]
  apply mirrors_activity_bind (mirrors_onSource inner)
  rintro ⟨error | done, record⟩
  · exact fun _ => rfl
  · have stale : staleKeys ((record.map (List.map Performed.redacted)).getD []) =
        staleKeys (record.getD []) := by
      cases record with
      | none => rfl
      | some steps => exact staleKeys_redacted steps
    rw [redactedRecord, CacheFront.afterWork, CacheFront.afterWork, stale]
    exact mirrors_activity_bind (mirrors_invalidateAll front _)
      fun _ => mirrors_pure redactedRecord _

end Operations

end Gazette
