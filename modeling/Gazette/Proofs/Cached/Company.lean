import Mathlib.Logic.Relation
import Gazette.Proofs.Flight.Step

/-!
# Operations in company

Operations on repositories that are under way at the same time.  A lookup through the cache is a
caller of a burst, and every other operation is a job, an activity of which some steps are still to
be made.  All of them work on one source and one cache.  The next step is anybody's, and between two
steps the cache may lose entries.
-/

set_option autoImplicit false

namespace Gazette

/-- A job that has been ordered, and what is left of it.  A job that has been stopped has nothing
left to do. -/
structure Job (σ β κ ρ : Type) where
  order : κ
  rest : Except DeadlineOverflow (Activity (Layered σ β) ρ)

/-- The lookups and the jobs that are under way or have ended. -/
structure Company (σ β α κ ρ : Type) where
  burst : Burst σ β α
  jobs : List (Job σ β κ ρ)

/-- What can be asked for: lookups, by what they look for, and jobs, by their orders. -/
structure Service (σ β α ι κ ρ : Type) where
  store : CacheStore β
  lookup : ι → FetchCall σ α
  job : κ → Activity (Layered σ β) ρ

variable {σ β α ι κ ρ : Type}

/-- The next step of an activity whose task has answered. -/
theorem Activity.advance_step {τ γ δ : Type} {task : Task τ γ} {next : γ → Activity τ δ}
    {state after : τ} {answer : γ} (ran : task.outcome state = (.ok answer, after)) :
    (Activity.step task next).advance state = (.ok (next answer), after) := by
  have unfolded : (Activity.step task next).advance state =
      ((task.outcome state).1.map next, (task.outcome state).2) := rfl
  rw [unfolded, ran]
  rfl

/-- The result of a job that has one. -/
def Job.result? (job : Job σ β κ ρ) : Option ρ :=
  match job.rest with
  | .ok (.done result) => some result
  | _ => none

namespace Company

/-- The source and the cache that all work on. -/
def state (company : Company σ β α κ ρ) : Layered σ β :=
  company.burst.world.state

/-- Nobody has asked for anything yet. -/
def start (state : Layered σ β) : Company σ β α κ ρ :=
  ⟨⟨{ state }, []⟩, []⟩

/-- The company with its cache in another state. -/
def withCache (company : Company σ β α κ ρ) (cache : β) : Company σ β α κ ρ :=
  { company with burst.world.state.cache := cache }

/-- The company after the next step of the job with number `k`.  A job that has ended makes none. -/
def proceed (company : Company σ β α κ ρ) (k : Nat) : Company σ β α κ ρ :=
  match company.jobs[k]? with
  | some ⟨order, .ok activity⟩ =>
    let (rest, state) := activity.advance company.state
    ⟨{ company.burst with world.state := state }, company.jobs.set k ⟨order, rest⟩⟩
  | _ => company

variable {company : Company σ β α κ ρ} {k : Nat} {order : κ}

/-- A step of a job that is under way. -/
theorem proceed_eq {activity : Activity (Layered σ β) ρ}
    {rest : Except DeadlineOverflow (Activity (Layered σ β) ρ)} {state : Layered σ β}
    (present : company.jobs[k]? = some ⟨order, .ok activity⟩)
    (step : activity.advance company.state = (rest, state)) :
    company.proceed k =
      ⟨⟨⟨state, company.burst.world.flights⟩, company.burst.callers⟩,
        company.jobs.set k ⟨order, rest⟩⟩ := by
  unfold proceed
  rw [present]
  dsimp only
  rw [step]

/-- Nobody proceeds under a number that no job has. -/
theorem proceed_of_absent (absent : company.jobs[k]? = none) : company.proceed k = company := by
  unfold proceed
  rw [absent]

/-- No job comes or goes with a step. -/
theorem length_proceed (company : Company σ β α κ ρ) (k : Nat) :
    (company.proceed k).jobs.length = company.jobs.length := by
  unfold proceed
  split
  · exact List.length_set
  · rfl

/-- The job with number `k`, which has been ordered, returns its result with its next step. -/
def Returns (company : Company σ β α κ ρ) (k : Nat) (order : κ) (result : ρ) : Prop :=
  ∃ job later, company.jobs[k]? = some job ∧ job.order = order ∧ job.result? = none ∧
    (company.proceed k).jobs[k]? = some later ∧ later.result? = some result

/-- Whether a job returns can be told by its results before and after the step. -/
theorem returns_of_results {result : ρ} (ordered : company.jobs[k]?.map Job.order = some order)
    (busy : company.jobs[k]?.bind Job.result? = none)
    (returned : (company.proceed k).jobs[k]?.bind Job.result? = some result) :
    company.Returns k order result := by
  obtain ⟨job, present, same⟩ := Option.map_eq_some_iff.mp ordered
  obtain ⟨later, there, got⟩ := Option.bind_eq_some_iff.mp returned
  rw [present] at busy
  exact ⟨job, later, present, same, busy, there, got⟩

/-- The jobs of a company, told by the stages that they have reached.  What is left of a job is
determined by its order and its stage. -/
def Staged {φ : Type} (left : κ → φ → Activity (Layered σ β) ρ) (stages : Nat → φ)
    (company : Company σ β α κ ρ) : Prop :=
  ∀ k (job : Job σ β κ ρ), company.jobs[k]? = some job → job.rest = .ok (left job.order (stages k))

section Staged

variable {φ : Type} {left : κ → φ → Activity (Layered σ β) ρ} {stages : Nat → φ}

/-- A job is at its next stage after a step. -/
theorem Staged.proceed {next : φ} {rest : Except DeadlineOverflow (Activity (Layered σ β) ρ)}
    {state : Layered σ β} (h : company.Staged left stages)
    (present : company.jobs[k]? = some ⟨order, rest⟩)
    (step : (left order (stages k)).advance company.state = (.ok (left order next), state)) :
    company.proceed k =
        ⟨⟨⟨state, company.burst.world.flights⟩, company.burst.callers⟩,
          company.jobs.set k ⟨order, .ok (left order next)⟩⟩ ∧
      (company.proceed k).Staged left (Function.update stages k next) := by
  have under_way : rest = .ok (left order (stages k)) := h k _ present
  rw [under_way] at present
  rw [proceed_eq present step]
  refine ⟨rfl, ?_⟩
  intro other job there
  rcases eq_or_ne other k with rfl | different
  · rw [List.getElem?_set_self (List.getElem?_eq_some_iff.mp present).1] at there
    cases there
    rw [Function.update_self]
  · rw [List.getElem?_set_ne different.symm] at there
    rw [Function.update_of_ne different]
    exact h other job there

/-- A job that has been ordered is at its first stage. -/
theorem Staged.ordered {begun : φ} {jobs : List (Job σ β κ ρ)} (h : company.Staged left stages)
    (added : jobs = company.jobs ++ [⟨order, .ok (left order begun)⟩]) :
    Staged left (Function.update stages company.jobs.length begun) { company with jobs } := by
  intro k job there
  change jobs[k]? = some job at there
  rw [added] at there
  rcases Nat.lt_trichotomy k company.jobs.length with before | rfl | after
  · rw [List.getElem?_append_left before] at there
    rw [Function.update_of_ne (Nat.ne_of_lt before)]
    exact h k job there
  · rw [List.getElem?_concat_length] at there
    cases there
    rw [Function.update_self]
  · rw [List.getElem?_eq_none (by simp; omega)] at there
    cases there

end Staged

end Company

namespace Service

/-- The company after a lookup has been called. -/
def call (service : Service σ β α ι κ ρ) (company : Company σ β α κ ρ) (wanted : ι) :
    Company σ β α κ ρ :=
  { company with
    burst.callers :=
      company.burst.callers ++ [service.store.caller (service.lookup wanted)] }

/-- The company after the next step of the caller with number `i`.  One that is waiting or has
ended makes none. -/
def advance (service : Service σ β α ι κ ρ) (company : Company σ β α κ ρ) (i : Nat) :
    Company σ β α κ ρ :=
  match service.store.stepBurst company.burst i with
  | some burst => { company with burst }
  | none => company

/-- The company after a job has been ordered. -/
def order (service : Service σ β α ι κ ρ) (company : Company σ β α κ ρ) (order : κ) :
    Company σ β α κ ρ :=
  { company with jobs := company.jobs ++ [⟨order, .ok (service.job order)⟩] }

/-- What can happen next.  The cache loses entries as told by `lapses`. -/
inductive Step (service : Service σ β α ι κ ρ) (lapses : β → β → Prop) :
    Company σ β α κ ρ → Company σ β α κ ρ → Prop where
  | call (company : Company σ β α κ ρ) (wanted : ι) :
    Step service lapses company (service.call company wanted)
  | advance (company : Company σ β α κ ρ) (i : Nat) :
    Step service lapses company (service.advance company i)
  | order (company : Company σ β α κ ρ) (order : κ) :
    Step service lapses company (service.order company order)
  | proceed (company : Company σ β α κ ρ) (k : Nat) :
    Step service lapses company (company.proceed k)
  | lapse (company : Company σ β α κ ρ) {cache : β} (lost : lapses company.state.cache cache) :
    Step service lapses company (company.withCache cache)

/-- What can happen in any number of steps. -/
abbrev Run (service : Service σ β α ι κ ρ) (lapses : β → β → Prop) :
    Company σ β α κ ρ → Company σ β α κ ρ → Prop :=
  Relation.ReflTransGen (service.Step lapses)

variable {service : Service σ β α ι κ ρ} {lapses : β → β → Prop}
  {before after : Company σ β α κ ρ}

/-- The jobs one after the other make the steps that a list tells. -/
theorem run_proceed (service : Service σ β α ι κ ρ) (lapses : β → β → Prop)
    (company : Company σ β α κ ρ) (steps : List Nat) :
    service.Run lapses company (steps.foldl Company.proceed company) := by
  induction steps generalizing company with
  | nil => exact .refl
  | cons k steps ih => exact .head (.proceed company k) (ih (company.proceed k))

/-- The step of a caller either changes nothing or is one of its steps in the burst. -/
theorem advance_cases (service : Service σ β α ι κ ρ) (company : Company σ β α κ ρ) (i : Nat) :
    service.advance company i = company ∨
      ∃ caller world phase, company.burst.callers[i]? = some caller ∧
        CallerStep service.store i caller.call company.burst.world caller.phase world phase ∧
        service.advance company i =
          { company with burst := ⟨world, company.burst.callers.set i { caller with phase }⟩ } := by
  cases stepped : service.store.stepBurst company.burst i with
  | none => exact .inl (by simp [advance, stepped])
  | some later =>
    obtain ⟨caller, world, phase, present, step, rfl⟩ := CacheStore.callerStep_of_stepBurst stepped
    exact .inr ⟨caller, world, phase, present, step, by simp [advance, stepped]⟩

/-- A caller keeps its number and what it fetches. -/
theorem Step.caller (step : service.Step lapses before after) {i : Nat} {caller : Caller σ α}
    (present : before.burst.callers[i]? = some caller) :
    ∃ later, after.burst.callers[i]? = some later ∧ later.call = caller.call := by
  cases step with
  | call wanted =>
    have inside := (List.getElem?_eq_some_iff.mp present).1
    exact ⟨caller, (List.getElem?_append_left inside).trans present, rfl⟩
  | order order => exact ⟨caller, present, rfl⟩
  | lapse lost => exact ⟨caller, present, rfl⟩
  | advance j =>
    rcases advance_cases service before j with same | ⟨mover, world, phase, at_j, -, moved⟩
    · exact ⟨caller, by rwa [same], rfl⟩
    · rw [moved]
      rcases eq_or_ne j i with rfl | different
      · rw [at_j, Option.some.injEq] at present
        subst present
        have inside := (List.getElem?_eq_some_iff.mp at_j).1
        exact ⟨_, List.getElem?_set_self inside, rfl⟩
      · exact ⟨caller, (List.getElem?_set_ne different).trans present, rfl⟩
  | proceed k =>
    unfold Company.proceed
    split
    · exact ⟨caller, present, rfl⟩
    · exact ⟨caller, present, rfl⟩

/-- A caller stays where it is and keeps its call, whatever happens. -/
theorem Run.caller (run : service.Run lapses before after) {i : Nat} {caller : Caller σ α}
    (present : before.burst.callers[i]? = some caller) :
    ∃ later, after.burst.callers[i]? = some later ∧ later.call = caller.call := by
  induction run with
  | refl => exact ⟨caller, present, rfl⟩
  | tail _ step ih =>
    obtain ⟨later, there, same⟩ := ih
    obtain ⟨last, last_there, same_last⟩ := step.caller there
    exact ⟨last, last_there, same_last.trans same⟩

/-- Callers only come. -/
theorem Run.length_le (run : service.Run lapses before after) :
    before.burst.callers.length ≤ after.burst.callers.length := by
  cases callers : before.burst.callers.length with
  | zero => exact Nat.zero_le _
  | succ last =>
    have inside : last < before.burst.callers.length := by omega
    obtain ⟨later, there, -⟩ := run.caller (List.getElem?_eq_getElem inside)
    exact (List.getElem?_eq_some_iff.mp there).1

end Service

/-- The moment at which everything happens in the samples. -/
def Sample.moment : Instant :=
  ⟨⟨2022, 7, 14, by decide, by decide, by decide⟩,
    ⟨8, 15, 42, 750000000, by decide, by decide, by decide, by decide⟩⟩

end Gazette
