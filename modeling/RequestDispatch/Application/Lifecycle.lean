import RequestDispatch.Application.Basic

/-!
# Starting and stopping

An application is started once and stopped once; further calls do nothing. Starting runs the startup
hooks in order up to the first that fails. Stopping runs all shutdown hooks, whatever fails among
them, and then flushes the telemetry. A panic in the call of an asynchronous hook is not contained:
it ends the start or the stop where it is, which counts as tried all the same.
-/

namespace RequestDispatch

/-- A startup hook that failed. -/
structure StartupFailure where
  hook : String
  error : DispatchError

/-- The wording of a failed start. -/
def StartupFailure.message (f : StartupFailure) : String :=
  "Startup hook '" ++ f.hook ++ "' failed: " ++ f.error.message

namespace Application

variable {σ κ ν : Type}

/-- Registers a startup hook after all others. -/
def onStartup (a : Application σ κ ν) (hook : LifecycleHook σ κ) : Application σ κ ν :=
  { a with startupHooks := a.startupHooks ++ [hook] }

/-- Registers a shutdown hook after all others. -/
def onShutdown (a : Application σ κ ν) (hook : LifecycleHook σ κ) : Application σ κ ν :=
  { a with shutdownHooks := a.shutdownHooks ++ [hook] }

/-- Runs startup hooks, numbered from a position on, up to the first that stops. -/
def runStartup : Nat → List (LifecycleHook σ κ) → Run σ κ (Except (Stop StartupFailure) Unit)
  | _, [] => pure (.ok ())
  | position, hook :: hooks => do
    match (← Run.performAlone (.startupHook position) hook.call).called hook.mode with
    | .error stop => return .error (stop.map (.mk hook.name))
    | .ok () => runStartup (position + 1) hooks

/-- Runs all shutdown hooks, numbered from a position on, unless a panic is not contained. -/
def runShutdown : Nat → List (LifecycleHook σ κ) → Run σ κ (Except Panic Unit)
  | _, [] => pure (.ok ())
  | position, hook :: hooks => do
    match (← Run.performAlone (.shutdownHook position) hook.call).called hook.mode with
    | .error (.unwound panic) => return .error panic
    | _ => runShutdown (position + 1) hooks

/-- Starts the application, unless that was tried before. -/
def startup (a : Application σ κ ν) :
    Run σ κ (Except (Stop StartupFailure) Unit × Application σ κ ν) := do
  if a.started then return (.ok (), a)
  let result ← runStartup 0 a.startupHooks
  return (result, { a with started := true })

/-- Stops the application, unless that was tried before. -/
def shutdown (a : Application σ κ ν) : Run σ κ (Except Panic Unit × Application σ κ ν) := do
  if a.stopped then return (.ok (), a)
  let a := { a with stopped := true }
  match ← runShutdown 0 a.shutdownHooks with
  | .error panic => return (.error panic, a)
  | .ok () =>
    Run.notify a.observability .flushed
    return (.ok (), a)

/-- Starts the application, waits, and stops it; an application that does not start is neither
waited for nor stopped. -/
def runUntil (a : Application σ κ ν) (wait : Run σ κ Unit) :
    Run σ κ (Except (Stop StartupFailure) Unit × Application σ κ ν) := do
  match ← a.startup with
  | (.error stop, a) => return (.error stop, a)
  | (.ok (), a) =>
    wait
    let (result, a) ← a.shutdown
    return (result.mapError .unwound, a)

end Application

end RequestDispatch
