import Gazette.Activity

/-!
# Layered states

A cache stands in front of a source of truth.  Operations on either of the two leave the other
alone, and what the lookups through the cache have observed is kept beside them.
-/

set_option autoImplicit false

namespace Gazette

/-- One observation of a lookup through a cache: the domain of the key, and whether the lookup
was answered without reading the source. -/
structure Observation where
  domain : String
  hit : Bool
  deriving DecidableEq

/-- Two states side by side, a source of truth and a cache in front of it, with the observations
of the lookups so far in their order. -/
structure Layered (σ β : Type) where
  source : σ
  cache : β
  observed : List Observation := []
  deriving DecidableEq

namespace Layered

variable {σ β α : Type}

/-- A task of the source, leaving the cache alone. -/
def onSource (task : Task σ α) : Task (Layered σ β) α :=
  ExceptT.mk fun state =>
    let (answer, source) := task.outcome state.source
    (answer, { state with source })

/-- A task of the cache, leaving the source alone. -/
def onCache (task : Task β α) : Task (Layered σ β) α :=
  ExceptT.mk fun state =>
    let (answer, cache) := task.outcome state.cache
    (answer, { state with cache })

/-- Adds an observation. -/
def observe (observation : Observation) : Task (Layered σ β) Unit :=
  Task.ofState fun state => ((), { state with observed := state.observed ++ [observation] })

end Layered

namespace Activity

variable {σ β α : Type}

/-- An activity of the source, with a cache standing by. -/
def onSource (activity : Activity σ α) : Activity (Layered σ β) α :=
  activity.lift Layered.onSource

/-- A single step of the cache, with a source standing by. -/
def onCache (task : Task β α) : Activity (Layered σ β) α :=
  .ofTask (Layered.onCache task)

end Activity

end Gazette
