import Mathlib.Data.List.Basic
import Gazette.Layered

/-!
# Outcomes of tasks

The outcome of a composite task from the outcomes of its parts.  A task that is built with
`do` never has to be opened any further than by these lemmas.
-/

set_option autoImplicit false

namespace Gazette

variable {σ β α γ : Type}

namespace Task

/-- A task that only answers leaves the state alone. -/
@[simp]
theorem outcome_pure (value : α) (state : σ) :
    (pure value : Task σ α).outcome state = (.ok value, state) :=
  rfl

/-- An operation that always answers. -/
@[simp]
theorem outcome_ofState (operation : σ → α × σ) (state : σ) :
    (ofState operation).outcome state = (.ok (operation state).1, (operation state).2) :=
  rfl

/-- How a task followed by another one ends depends on how the first one has ended. -/
theorem outcome_bind (task : Task σ γ) (next : γ → Task σ α) (state : σ) :
    (task >>= next).outcome state =
      ExceptT.bindCont next (task.outcome state).1 (task.outcome state).2 :=
  rfl

/-- A task that goes on from an answer. -/
theorem outcome_bind_of_ok {task : Task σ γ} {next : γ → Task σ α} {state after : σ} {answer : γ}
    (h : task.outcome state = (.ok answer, after)) :
    (task >>= next).outcome state = (next answer).outcome after := by
  rw [outcome_bind, h]
  rfl

/-- A task that stops before its first answer. -/
theorem outcome_bind_of_error {task : Task σ γ} {next : γ → Task σ α} {state after : σ}
    {cause : DeadlineOverflow} (h : task.outcome state = (.error cause, after)) :
    (task >>= next).outcome state = (.error cause, after) := by
  rw [outcome_bind, h]
  rfl

/-- A task that has answered has done so after an answer of its first part. -/
theorem outcome_bind_eq_ok {task : Task σ γ} {next : γ → Task σ α} {state after : σ} {value : α}
    (h : (task >>= next).outcome state = (.ok value, after)) :
    ∃ answer between, task.outcome state = (.ok answer, between) ∧
      (next answer).outcome between = (.ok value, after) := by
  cases ran : task.outcome state with
  | mk result between =>
    cases result with
    | error cause =>
      rw [outcome_bind_of_error ran] at h
      cases h
    | ok answer =>
      rw [outcome_bind_of_ok ran] at h
      exact ⟨answer, between, rfl, h⟩

end Task

namespace Activity

/-- An activity that runs alone, and after it the one that its result leads to. -/
theorem run_bind_eq (activity : Activity σ γ) (next : γ → Activity σ α) :
    (activity >>= next).run = activity.run >>= fun value => (next value).run :=
  run_bind activity next

/-- It does not matter how a sequence of three activities is grouped. -/
theorem bind_assoc {δ : Type} (activity : Activity σ γ) (next : γ → Activity σ α)
    (last : α → Activity σ δ) :
    (activity.bind next).bind last = activity.bind fun value => (next value).bind last := by
  induction activity with
  | done value => rfl
  | step task rest ih =>
    change Activity.step task _ = Activity.step task _
    congr 1
    funext answer
    exact ih answer

end Activity

namespace Layered

/-- A task of the cache, seen from both layers. -/
@[simp]
theorem outcome_onCache (task : Task β α) (state : Layered σ β) :
    (onCache task).outcome state =
      ((task.outcome state.cache).1, { state with cache := (task.outcome state.cache).2 }) :=
  rfl

/-- A task of the source, seen from both layers. -/
@[simp]
theorem outcome_onSource (task : Task σ α) (state : Layered σ β) :
    (onSource task).outcome state =
      ((task.outcome state.source).1, { state with source := (task.outcome state.source).2 }) :=
  rfl

end Layered

namespace Activity

/-- An activity that goes on from an answer. -/
theorem outcome_bind_of_ok {activity : Activity σ γ} {next : γ → Activity σ α} {state after : σ}
    {answer : γ} (h : activity.run.outcome state = (.ok answer, after)) :
    (activity >>= next).run.outcome state = (next answer).run.outcome after := by
  rw [run_bind_eq, Task.outcome_bind_of_ok h]

/-- An activity that stops before it has an answer to go on from. -/
theorem outcome_bind_of_error {activity : Activity σ γ} {next : γ → Activity σ α}
    {state after : σ} {cause : DeadlineOverflow}
    (h : activity.run.outcome state = (.error cause, after)) :
    (activity >>= next).run.outcome state = (.error cause, after) := by
  rw [run_bind_eq, Task.outcome_bind_of_error h]

/-- An activity whose answer is only put in another form. -/
theorem outcome_bind_pure (activity : Activity σ γ) (form : γ → α) (state : σ) :
    (activity >>= fun value => pure (form value)).run.outcome state =
      ((activity.run.outcome state).1.map form, (activity.run.outcome state).2) := by
  rcases ran : activity.run.outcome state with ⟨cause | answer, after⟩
  · exact outcome_bind_of_error ran
  · exact outcome_bind_of_ok ran

/-- Where an activity fails, nothing more is done with its value. -/
theorem outcome_also_of_error {ε : Type} {activity : Activity σ (Except ε α)}
    {use : α → Activity σ Unit} {state after : σ} {error : ε}
    (h : activity.run.outcome state = (.ok (.error error), after)) :
    (activity.also use).run.outcome state = (.ok (.error error), after) :=
  outcome_bind_of_ok h

/-- Where an activity has a value, it is answered unless what is done with it stops. -/
theorem outcome_also_of_ok {ε : Type} {activity : Activity σ (Except ε α)}
    {use : α → Activity σ Unit} {state after : σ} {value : α}
    (h : activity.run.outcome state = (.ok (.ok value), after)) :
    (activity.also use).run.outcome state =
      (((use value).run.outcome after).1.map fun _ => .ok value,
        ((use value).run.outcome after).2) := by
  have used := outcome_bind_pure (use value) (fun _ => (Except.ok value : Except ε α)) after
  exact (outcome_bind_of_ok h).trans used

/-- A single step of the cache leaves the source alone. -/
theorem outcome_run_onCache (task : Task β α) (state : Layered σ β) :
    (onCache task).run.outcome state =
      ((task.outcome state.cache).1, { state with cache := (task.outcome state.cache).2 }) := by
  have opened : (onCache task : Activity (Layered σ β) α).run =
      Layered.onCache task >>= fun value => pure value := rfl
  rw [opened, bind_pure, Layered.outcome_onCache]

/-- A single step of the cache that answers. -/
theorem outcome_onCache_of_ok {task : Task β α} {state : Layered σ β} {answer : α} {cache : β}
    (h : task.outcome state.cache = (.ok answer, cache)) :
    (onCache task).run.outcome state = (.ok answer, { state with cache }) := by
  rw [outcome_run_onCache, h]

/-- Steps of the source leave the cache alone. -/
theorem outcome_run_onSource (activity : Activity σ α) (state : Layered σ β) :
    activity.onSource.run.outcome state =
      ((activity.run.outcome state.source).1,
        { state with source := (activity.run.outcome state.source).2 }) := by
  induction activity generalizing state with
  | done value => rfl
  | step task next ih =>
    have opened : ((Activity.step task next).onSource : Activity (Layered σ β) α).run =
        Layered.onSource task >>= fun answer => (next answer).onSource.run := rfl
    have alone : (Activity.step task next).run = task >>= fun answer => (next answer).run := rfl
    have stepped := Layered.outcome_onSource task state
    rw [opened, alone]
    cases ran : task.outcome state.source with
    | mk answer source =>
      rw [ran] at stepped
      cases answer with
      | error cause => rw [Task.outcome_bind_of_error stepped, Task.outcome_bind_of_error ran]
      | ok answer => rw [Task.outcome_bind_of_ok stepped, Task.outcome_bind_of_ok ran, ih]

end Activity

end Gazette
