/-!
# Tasks

An operation of the library changes a state and answers.  A task is an operation that may
also stop without an answer.  The only cause is a deadline past the end of the clock, and
whatever the task has done before it stopped stays done.
-/

set_option autoImplicit false

namespace Gazette

/-- A deadline lies past the end of the clock. -/
inductive DeadlineOverflow where
  | deadlineOverflow
  deriving DecidableEq

/-- The report of a task that has stopped. -/
def DeadlineOverflow.message : DeadlineOverflow → String
  | .deadlineOverflow => "overflow when adding duration to instant"

/-- An operation on a state that may stop without an answer. -/
abbrev Task (σ α : Type) := ExceptT DeadlineOverflow (StateM σ) α

namespace Task

variable {σ α : Type}

/-- The outcome of a task on a state, and the state that it leaves. -/
def outcome (task : Task σ α) (state : σ) : Except DeadlineOverflow α × σ :=
  task.run state

/-- An operation that always answers. -/
def ofState (operation : σ → α × σ) : Task σ α :=
  ExceptT.mk fun state => (.ok (operation state).1, (operation state).2)

/-- A task that stops. -/
def stop : Task σ α :=
  ExceptT.mk fun state => (.error .deadlineOverflow, state)

end Task

end Gazette
