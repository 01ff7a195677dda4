import RequestDispatch.Journal

/-!
# Cleanup

What remains to be done for an acquired resource: a plain action, ending a one-value source and
closing it, or releasing a scoped resource. The pending cleanups of a request form a stack that is
released from the top, each exactly once, whatever fails among them.
-/

namespace RequestDispatch

/-- What remains to be done for a resource. -/
inductive Cleanup (σ κ ν : Type) where
  /-- A plain action. -/
  | action (action : Action σ κ)
  /-- Advances the rest of a source, which must yield nothing more, then closes it. -/
  | exhaust (source : Mode) (rest : Effect σ κ (Option ν)) (close : Option (Action σ κ))
  /-- Releases a scoped resource. -/
  | release (resource : Mode) (release : Effect σ κ Unit)

/-- A source whose second advance has ended may not have yielded a value. -/
def Completion.exhausted {ν : Type} : Completion (Option ν) → Completion Unit
  | .ok none => .ok ()
  | .ok (some _) => .error (.raised (.internal .extraYield))
  | .error failure => .error failure

/-- The first failure of two. -/
def Completion.firstFailure : Completion Unit → Completion Unit → Completion Unit
  | .ok (), second => second
  | .error failure, _ => .error failure

namespace Cleanup

variable {σ κ ν : Type}

/-- The mode of a cleanup as a whole: ending a source is blocking only if both the source and the
closing are, and releasing a scoped resource is always asynchronous. -/
def mode : Cleanup σ κ ν → Mode
  | .action a => a.mode
  | .exhaust .blocking _ none => .blocking
  | .exhaust .blocking _ (some close) => close.mode
  | .exhaust .async _ _ => .async
  | .release _ _ => .async

/-- Runs a closing action as part of a blocking cleanup: its panic is the panic of the whole. -/
def closeInside (origin : Nat) : Option (Action σ κ) → Run σ κ (Completion Unit)
  | none => pure (.ok ())
  | some close => Run.perform (.closed origin) close.run

/-- Runs a closing action on its own: its panic is contained. -/
def closeApart (origin : Nat) : Option (Action σ κ) → Run σ κ (Except DispatchError Unit)
  | none => pure (.ok ())
  | some close => do return (← Run.perform (.closed origin) close.run).contain close.mode

/-- Ends a source and closes it in one blocking piece. A panic of the source leaves the
closing out. -/
def exhaustTogether (origin : Nat) (rest : Effect σ κ (Option ν)) (close : Option (Action σ κ)) :
    Run σ κ (Completion Unit) := do
  let ended := (← Run.perform (.advanced origin) rest).exhausted
  match ended with
  | .error (.panicked panic early) => return .error (.panicked panic early)
  | ended =>
    match ← closeInside origin close with
    | .error (.panicked panic early) => return .error (.panicked panic early)
    | closed => return ended.firstFailure closed

/-- Ends a source and closes it in two steps. A panic of a blocking source is contained and the
closing follows; a panic of an asynchronous source leaves the closing out. -/
def exhaustApart (origin : Nat) (source : Mode) (rest : Effect σ κ (Option ν))
    (close : Option (Action σ κ)) : Run σ κ (Completion Unit) := do
  let ended := (← Run.perform (.advanced origin) rest).exhausted
  match source, ended with
  | .async, .error (.panicked panic early) => return .error (.panicked panic early)
  | _, ended =>
    let ended := (ended.contain source).mapError .raised
    let closed := (← closeApart origin close).mapError .raised
    return Completion.firstFailure ended closed

/-- Runs a cleanup to its end; a panic is reported as an internal error. -/
def run (origin : Nat) (cleanup : Cleanup σ κ ν) : Run σ κ (Except DispatchError Unit) := do
  match cleanup with
  | .action a => return (← Run.perform (.cleanupAction origin) a.run).contain a.mode
  | .exhaust source rest close =>
    match mode (.exhaust source rest close) with
    | .blocking => return (← exhaustTogether origin rest close).contain .blocking
    | .async => return (← exhaustApart origin source rest close).contain .async
  | .release resource code =>
    return (← Run.perform (.releasing origin) code).contain resource

end Cleanup

/-- The pending cleanups of a request with the invocations they belong to, the latest first. -/
structure CleanupStack (σ κ ν : Type) where
  pending : List (Nat × Cleanup σ κ ν)

namespace CleanupStack

variable {σ κ ν : Type}

/-- Nothing pending. -/
def empty : CleanupStack σ κ ν := ⟨[]⟩

/-- Records the cleanup of a further acquisition. -/
def push (stack : CleanupStack σ κ ν) (origin : Nat) (cleanup : Cleanup σ κ ν) :
    CleanupStack σ κ ν := ⟨(origin, cleanup) :: stack.pending⟩

/-- The modes of the pending cleanups in the order of acquisition. -/
def modes (stack : CleanupStack σ κ ν) : List Mode :=
  stack.pending.reverse.map fun (_, cleanup) => cleanup.mode

/-- Runs cleanups one after another and gathers their failures. -/
def releaseAll : List (Nat × Cleanup σ κ ν) → Run σ κ (List DispatchError)
  | [] => pure []
  | (origin, cleanup) :: rest => do
    Run.enter (.cleanupStarted origin)
    let result ← cleanup.run origin
    Run.enter (.cleanupFinished origin)
    let failures ← releaseAll rest
    match result with
    | .ok _ => return failures
    | .error failure => return failure :: failures

/-- Runs all pending cleanups, the latest acquisition first. Nothing is pending afterwards. -/
def release (stack : CleanupStack σ κ ν) : Run σ κ (List DispatchError) := releaseAll stack.pending

end CleanupStack

end RequestDispatch
