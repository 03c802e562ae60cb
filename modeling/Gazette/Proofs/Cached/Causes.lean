import Mathlib.Data.List.Basic
import Gazette.Proofs.Cached.Operations
import Gazette.Proofs.Storage.Atomicity

/-!
# Causes of failures

An error is classified by its root cause, so it makes no difference how many units of work have
wrapped it.  In particular a unit of work that fails is answered like the error that its steps have
led to, whether what they did could be undone or not.
-/

set_option autoImplicit false

namespace Gazette

open Database

/-- What a unit of work puts around the error that has made it fail. -/
inductive Wrapper where
  | aborted
  | rollbackFailed (rollback : String)

/-- An error with a wrapper around it. -/
def Wrapper.around : Wrapper → StorageError → StorageError
  | .aborted, cause => .aborted cause
  | .rollbackFailed rollback, cause => .rollbackFailed cause rollback

namespace StorageError

variable {error other : StorageError}

/-- An error with wrappers around it, the first one outermost. -/
def wrapped (wrappers : List Wrapper) (error : StorageError) : StorageError :=
  wrappers.foldr Wrapper.around error

/-- Whether an error is a wrapper around another one. -/
def IsWrapped (error : StorageError) : Prop :=
  ∃ wrapper cause, error = Wrapper.around wrapper cause

/-- Whoever classifies errors makes no difference between the two. -/
structure ClassedLike (error other : StorageError) : Prop where
  rootCause : error.rootCause = other.rootCause
  isNotFound : error.isNotFound = other.isNotFound
  isKeyConflict : error.isKeyConflict = other.isKeyConflict
  status : error.status = other.status

/-- Nothing but the root cause of an error is classified. -/
theorem ClassedLike.of_rootCause (same : error.rootCause = other.rootCause) :
    ClassedLike error other := by
  constructor
  · exact same
  · simp only [StorageError.isNotFound, same]
  · simp only [StorageError.isKeyConflict, same]
  · simp only [StorageError.status, same]

/-- One wrapper around an error hides nothing of its root. -/
@[simp]
theorem rootCause_around (wrapper : Wrapper) (cause : StorageError) :
    (wrapper.around cause).rootCause = cause.rootCause := by
  cases wrapper <;> rfl

/-- Any number of wrappers around an error hide nothing of its root. -/
@[simp]
theorem rootCause_wrapped (wrappers : List Wrapper) (error : StorageError) :
    (error.wrapped wrappers).rootCause = error.rootCause := by
  induction wrappers with
  | nil => rfl
  | cons wrapper wrappers ih => simpa [wrapped] using ih

/-- An error either is a wrapper or is its own root cause. -/
theorem isWrapped_or_rootCause_eq (error : StorageError) :
    error.IsWrapped ∨ error.rootCause = error := by
  cases error with
  | aborted cause => exact .inl ⟨.aborted, cause, rfl⟩
  | rollbackFailed cause rollback => exact .inl ⟨.rollbackFailed rollback, cause, rfl⟩
  | _ => exact .inr rfl

/-- Under its wrappers every error has its root cause, and that is no wrapper. -/
theorem exists_wrapped_rootCause (error : StorageError) :
    ¬ error.rootCause.IsWrapped ∧ ∃ wrappers, error = error.rootCause.wrapped wrappers := by
  induction error with
  | aborted cause ih =>
    obtain ⟨bare, wrappers, same⟩ := ih
    exact ⟨bare, .aborted :: wrappers, congrArg StorageError.aborted same⟩
  | rollbackFailed cause rollback ih =>
    obtain ⟨bare, wrappers, same⟩ := ih
    exact ⟨bare, .rollbackFailed rollback :: wrappers, congrArg (rollbackFailed · rollback) same⟩
  | _ =>
    refine ⟨?_, [], rfl⟩
    rintro ⟨wrapper, cause, same⟩
    cases wrapper <;> cases same

/-- The root of an error is its own root. -/
theorem rootCause_rootCause (error : StorageError) :
    error.rootCause.rootCause = error.rootCause :=
  (isWrapped_or_rootCause_eq error.rootCause).resolve_left (exists_wrapped_rootCause error).1

/-- Whatever is missing is answered as missing, and nothing else is. -/
theorem isNotFound_iff_status (error : StorageError) :
    error.isNotFound = true ↔ error.status = 404 := by
  unfold isNotFound status
  generalize error.rootCause = root
  cases root <;> simp

/-- Exactly the errors of the status 409 are conflicts of keys at their root. -/
theorem isKeyConflict_iff_status (error : StorageError) :
    error.isKeyConflict = true ↔ error.status = 409 := by
  unfold isKeyConflict status
  generalize error.rootCause = root
  cases root <;> simp

end StorageError

namespace Work

open StorageError

/-- Not every error is wrapped, but none loses its root cause. -/
@[simp]
theorem rootCause_abortion (error : StorageError) :
    (abortion error).rootCause = error.rootCause := by
  cases error <;> rfl

/-- Whether a unit of work that is carried out on a database can be started and ends with an error
of its own. -/
def Raises (tagBatch : Nat) (work : Work) (db : Database) (error : StorageError) : Prop :=
  db.locked = false ∧
    (work.carryOut tagBatch { db with beforeWork := some db.tables }).1.1 = .error error

/-- A unit of work that ends with an error reports an error with the same root cause, even if it can
no longer be rolled back. -/
theorem Raises.reported {tagBatch : Nat} {work : Work} {db : Database} {error : StorageError}
    (raises : work.Raises tagBatch db error) :
    ∃ reported record after, Database.carryOut tagBatch work db =
      ((.error reported, some record), after) ∧ reported.rootCause = error.rootCause := by
  obtain ⟨unlocked, failed⟩ := raises
  rcases ran : work.carryOut tagBatch { db with beforeWork := some db.tables } with
    ⟨⟨outcome, record⟩, after⟩
  rw [ran] at failed
  cases failed
  have whole := Database.run_carryOut tagBatch work db
  cases opened : after.beforeWork with
  | some start =>
    rw [unitOfWork_rollback unlocked ran opened] at whole
    exact ⟨_, record, _, whole, rootCause_abortion error⟩
  | none =>
    rw [unitOfWork_lost unlocked ran opened] at whole
    exact ⟨_, record, _, whole, rfl⟩

end Work

open StorageError in
/-- Errors are classified through all wrappers.  Every error is some wrappers around its root cause,
which is no wrapper itself, and further wrappers change nothing about how it is classified; what is
missing is answered with 404 and what is taken with 409, and nothing else is.  A unit of work that
ends with an error, whether it can be rolled back or not, reports one that is classified in the same
way, with any cache in front and without. -/
theorem failures_classified_by_root_cause (error : StorageError) :
    (¬ error.rootCause.IsWrapped ∧ error.rootCause.rootCause = error.rootCause ∧
      ∃ wrappers, error = error.rootCause.wrapped wrappers) ∧
    (∀ wrappers, ClassedLike (error.wrapped wrappers) error) ∧
    (error.isNotFound = true ↔ error.status = 404) ∧
    (error.isKeyConflict = true ↔ error.status = 409) ∧
    (∀ rollback, ClassedLike (Work.abortion error) error ∧
      ClassedLike (Work.abortion (.rollbackFailed error rollback)) error) ∧
    ∀ (tagBatch : Nat) (work : Work) (db : Database), work.Raises tagBatch db error →
      ∃ reported record after, ClassedLike reported error ∧
        ((articleRepository tagBatch).carryOut work).run.outcome db =
          (.ok (.error reported, some record), after) ∧
        ∀ (β : Type) (front : CacheFront β) (cache : β) (observed : List Observation),
          (((articleRepository tagBatch).cached front).carryOut work).run.outcome
              ⟨db, cache, observed⟩ =
            (.ok (.error reported, some record), ⟨after, cache, observed⟩) := by
  obtain ⟨bare, wrapped⟩ := exists_wrapped_rootCause error
  refine ⟨⟨bare, rootCause_rootCause error, wrapped⟩, ?_, isNotFound_iff_status error,
    isKeyConflict_iff_status error, ?_, ?_⟩
  · intro wrappers
    exact .of_rootCause (rootCause_wrapped wrappers error)
  · intro rollback
    exact ⟨.of_rootCause (Work.rootCause_abortion error),
      .of_rootCause (Work.rootCause_abortion (.rollbackFailed error rollback))⟩
  · intro tagBatch work db raises
    obtain ⟨reported, record, after, ran, same⟩ := raises.reported
    have plain : ((articleRepository tagBatch).carryOut work).run.outcome db =
        (.ok (.error reported, some record), after) := by
      have answers := ArticleOperation.outcome_effect tagBatch (.carryOut work) db
      rw [ArticleOperation.effect, ran] at answers
      exact answers
    refine ⟨reported, record, after, .of_rootCause same, plain, ?_⟩
    intro β front cache observed
    exact ArticleRepository.outcome_cached_carryOut_of_error front plain

namespace Sample

/-- An empty database that ends a unit of work when it adds an account. -/
def unwelcoming : Database :=
  { database with triggers := [⟨.accounts, .insert, true, "no accounts"⟩] }

end Sample

/-- What is missing is answered with 404 by a unit of work that is rolled back, and also by one that
can no longer be rolled back. -/
theorem failures_classified_by_root_cause_missing :
    let missing := StorageError.notFound articleEntity "hello-world"
    let lost := StorageError.rollbackFailed missing "cannot rollback - no transaction is active"
    ∀ ending ∈ [(Sample.database, StorageError.aborted missing), (Sample.unwelcoming, lost)],
      ending.2.status = 404 ∧ ∃ record after,
        ((articleRepository 100).carryOut (Sample.publish (.error missing))).run.outcome ending.1 =
          (.ok (.error ending.2, some record), after) := by
  intro missing lost ending among
  obtain ⟨-, -, -, -, -, answered⟩ := failures_classified_by_root_cause missing
  have raises : (Sample.publish (.error missing)).Raises 100 ending.1 missing := by
    rcases List.mem_pair.mp among with rfl | rfl
    · exact ⟨rfl, by decide +kernel⟩
    · exact ⟨rfl, by decide +kernel⟩
  have reports : (Database.carryOut 100 (Sample.publish (.error missing)) ending.1).1.1 =
      .error ending.2 := by
    rcases List.mem_pair.mp among with rfl | rfl
    · decide +kernel
    · decide +kernel
  obtain ⟨reported, record, after, alike, ran, -⟩ := answered 100 _ _ raises
  have same : reported = ending.2 := by
    have answer := congrArg (fun outcome => outcome.1.map Prod.fst) ran
    exact (Except.error.inj (Except.ok.inj (answer.symm.trans (congrArg Except.ok reports))))
  subst same
  exact ⟨alike.status, record, after, ran⟩

end Gazette
