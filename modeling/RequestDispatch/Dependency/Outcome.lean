import RequestDispatch.Dependency.Cleanup

/-!
# Outcomes of factories

A factory gives its value in one of four shapes: at once, as a computation still to be run, as a
source that yields exactly one value, or as a scoped resource that is acquired and released.
`Outcome.normalize` turns each into the value and what remains to be cleaned up. When no value comes
out, the teardown has already run and its own failures are dropped.
-/

namespace RequestDispatch

/-- What a one-value source yields: its value and the rest of the source. -/
structure Yield (σ κ ν : Type) where
  value : ν
  rest : Effect σ κ (Option ν)

/-- A source that should yield exactly one value, and the action that closes it. -/
structure SingleStep (σ κ ν : Type) where
  mode : Mode
  /-- Advances the source for the first time; nothing when it ends. -/
  first : Effect σ κ (Option (Yield σ κ ν))
  close : Option (Action σ κ)

/-- A resource that is acquired and released. -/
structure ScopedResource (σ κ ν : Type) where
  mode : Mode
  acquire : Effect σ κ (Option ν)
  /-- Releases the resource, given what was acquired. -/
  release : Option ν → Effect σ κ Unit

/-- What a factory gives. -/
inductive Outcome (σ κ ν : Type) where
  | immediate (value : ν)
  | deferred (compute : Effect σ κ ν)
  | singleStep (step : SingleStep σ κ ν)
  | scoped (resource : ScopedResource σ κ ν)

namespace Outcome

variable {σ κ ν : Type}

/-- The name of the shape of an outcome. -/
def kind : Outcome σ κ ν → String
  | .immediate _ => "immediate"
  | .deferred _ => "deferred"
  | .singleStep _ => "single_step"
  | .scoped _ => "scoped"

/-- A scoped resource from a pair of blocking functions: acquiring always gives a value, and that
value is what is released. -/
def blockingScope (acquire : Effect σ κ ν) (release : ν → Effect σ κ Unit) : Outcome σ κ ν :=
  .scoped
    { mode := .blocking
      acquire := acquire.map some
      release := fun acquired =>
        match acquired with
        | some value => release value
        | none => Effect.value () }

/-- A usable value and what remains to be done for it. -/
structure Normalized (σ κ ν : Type) where
  value : ν
  cleanup : Option (Cleanup σ κ ν)

/-- Turns the outcome of an invocation into its value and its cleanup. -/
def normalize (origin : Nat) : Outcome σ κ ν → Run σ κ (Except DispatchError (Normalized σ κ ν))
  | .immediate value => pure (.ok ⟨value, none⟩)
  | .deferred compute => do
    let result := (← Run.perform (.computed origin) compute).contain .async
    return result.map fun value => ⟨value, none⟩
  | .singleStep step => do
    match (← Run.perform (.advanced origin) step.first).contain step.mode with
    | .ok (some yielded) =>
      Run.enter (.yielded origin)
      return .ok ⟨yielded.value, some (.exhaust step.mode yielded.rest step.close)⟩
    | .ok none =>
      let _ ← Cleanup.closeApart origin step.close
      return .error (.internal .noYield)
    | .error e =>
      let _ ← Cleanup.closeApart origin step.close
      return .error e
  | .scoped resource => do
    match (← Run.perform (.acquiring origin) resource.acquire).contain resource.mode with
    | .ok (some value) =>
      Run.enter (.acquired origin)
      return .ok ⟨value, some (.release resource.mode (resource.release (some value)))⟩
    | .ok none =>
      let _ ← Run.perform (.releasing origin) (resource.release none)
      return .error (.internal .nothingAcquired)
    | .error e => return .error e

end Outcome

end RequestDispatch
