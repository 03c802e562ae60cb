import Gazette.Task

/-!
# Activities

An activity is an operation cut into steps.  Each step is one task on the shared state, and
between two steps other activities may run.  An activity that runs alone is a task again: the
steps one after the other.
-/

set_option autoImplicit false

namespace Gazette

/-- An operation as a sequence of steps, each of which may depend on the answers before it. -/
inductive Activity (σ α : Type) : Type 1 where
  | done (value : α)
  | step {γ : Type} (task : Task σ γ) (next : γ → Activity σ α)

namespace Activity

variable {σ τ α β : Type}

/-- The activity of a single step. -/
def ofTask (task : Task σ α) : Activity σ α :=
  .step task .done

/-- An activity, and after it the one that its result leads to. -/
def bind (activity : Activity σ α) (next : α → Activity σ β) : Activity σ β :=
  match activity with
  | .done value => next value
  | .step task rest => .step task fun answer => (rest answer).bind next

/-- Activities are written in sequence by binding. -/
instance : Monad (Activity σ) where
  pure := .done
  bind := .bind

/-- The task of running the activity alone. -/
def run : Activity σ α → Task σ α
  | .done value => pure value
  | .step task next => do
    let answer ← task
    (next answer).run

/-- The activity on another state, each of its tasks carried over to that state. -/
def lift (carry : {γ : Type} → Task σ γ → Task τ γ) : Activity σ α → Activity τ α
  | .done value => .done value
  | .step task next => .step (carry task) fun answer => (next answer).lift carry

/-- An activity that may fail, and if it does not, something more that is done with its value. -/
def also {ε : Type} (activity : Activity σ (Except ε α)) (use : α → Activity σ Unit) :
    Activity σ (Except ε α) := do
  match ← activity with
  | .error error => return .error error
  | .ok value => do
    use value
    return .ok value

/-- What is left of the activity after its next step, and the state after that step.  An activity
that is done takes no step. -/
def advance (activity : Activity σ α) (state : σ) : Except DeadlineOverflow (Activity σ α) × σ :=
  match activity with
  | .done value => (.ok (.done value), state)
  | .step task next =>
    let (answer, after) := task.outcome state
    (answer.map next, after)

/-- An activity without steps runs to its value. -/
@[simp]
theorem run_done (value : α) : (done value : Activity σ α).run = pure value :=
  rfl

/-- Running a sequence of activities is running one after the other. -/
theorem run_bind (activity : Activity σ α) (next : α → Activity σ β) :
    (activity.bind next).run = activity.run >>= fun value => (next value).run := by
  induction activity with
  | done value => simp [bind, run]
  | step task rest ih => simp [bind, run, ih]

end Activity

end Gazette
