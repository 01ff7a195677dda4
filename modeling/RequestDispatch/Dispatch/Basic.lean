import RequestDispatch.DefaultResponse
import RequestDispatch.Dependency.Resolve
import RequestDispatch.Dispatch.ErrorHandler
import RequestDispatch.Dispatch.Hook
import RequestDispatch.Dispatch.Shaping
import RequestDispatch.Route.Basic
import RequestDispatch.Validation.Validate

/-!
# Dispatching a request

A `Dispatcher` takes a request through the stages of one route: intake hooks, request hooks,
dependencies, parameters, the handler, shaping and response hooks. A failure of any stage is
answered by an error handler or by default. Counters and one record go to the telemetry then, the
span is closed, and what the request acquired is released, the latest first. The background actions
that the request queued are handed to the caller, who runs them.

A panic that nothing contains ends the dispatch where it is: the span is closed, and that is all.
Such a panic comes from the call of asynchronous code (`Completion.called`), or from a header that
the dispatch itself adds to a full map.
-/

namespace RequestDispatch

/-- What all routes of an application share. -/
structure DispatchSettings where
  /-- The greatest number of factories on a chain of dependencies. -/
  maxDependencyDepth : Nat
  /-- The media types of routes that declare none, the preferred ones first. -/
  mediaTypes : List String
  /-- What the names of spans begin with. -/
  spanPrefix : String
  deriving DecidableEq, Repr

/-- The settings in force where nothing is configured. -/
def DispatchSettings.standard : DispatchSettings :=
  ⟨32, ["application/json", "text/plain"], "conduit"⟩

/-- A failed stage. -/
structure StageFailure where
  stage : Stage
  error : DispatchError
  deriving DecidableEq

/-- The dispatcher of a route. -/
structure Dispatcher (σ κ ν : Type) where
  route : Route σ κ ν
  overrides : OverrideChain σ κ ν
  intakeHooks : List (IntakeHook σ κ)
  requestHooks : List (RequestHook σ κ)
  responseHooks : List (ResponseHook σ κ)
  errorHandlers : ErrorHandlers σ κ
  observability : Observability σ κ
  settings : DispatchSettings
  /-- The time in microseconds. -/
  clock : σ → Nat

/-- What a dispatch gives: the response and the background actions still to be run. -/
structure Reply (σ κ : Type) where
  response : Response
  background : List (Task σ κ)

namespace Dispatcher

variable {σ κ ν : Type}

/-- A dispatcher with nothing beside its route. -/
def new (route : Route σ κ ν) : Dispatcher σ κ ν :=
  { route, overrides := .empty, intakeHooks := [], requestHooks := [], responseHooks := []
    errorHandlers := .empty, observability := .silent σ κ, settings := .standard
    clock := fun _ => 0 }

/-- The media types that the route produces. -/
def supported (d : Dispatcher σ κ ν) : List String :=
  d.route.mediaTypes.getD d.settings.mediaTypes

/-- The name of the span of a dispatch. -/
def spanName (d : Dispatcher σ κ ν) : String := d.settings.spanPrefix ++ ".dispatch"

/-! ## Stages -/

/-- Runs intake hooks in order, numbered from a position on: the request as the last one that went
on left it, and the result that replaces the other stages, if a hook did not go on. -/
def takeIn : Nat → List (IntakeHook σ κ) → Request →
    Run σ κ (Request × Option (Except (Stop StageFailure) Response))
  | _, [], request => pure (request, none)
  | position, hook :: hooks, request => do
    let decision ← Run.performAlone (.intakeHook position) (hook.call request)
    match decision.called hook.mode with
    | .ok (.forward next) => takeIn (position + 1) hooks next
    | .ok (.respond response) => return (request, some (.ok response))
    | .error stop => return (request, some (.error (stop.map (.mk .preHook))))

/-- Runs request hooks in order until one answers. -/
def consult (view : RequestView) : Nat → List (RequestHook σ κ) →
    Run σ κ (Except (Stop StageFailure) (Option Response))
  | _, [] => pure (.ok none)
  | position, hook :: hooks => do
    match (← Run.perform (.requestHook position) (hook.call view)).called hook.mode with
    | .error stop => return .error (stop.map (.mk .preHook))
    | .ok (some response) => return .ok (some response)
    | .ok none => consult view (position + 1) hooks

/-- Runs response hooks in order, each on the response that the one before gives. -/
def polish (view : RequestView) : Nat → List (ResponseHook σ κ) → Response →
    Run σ κ (Except (Stop StageFailure) Response)
  | _, [], response => pure (.ok response)
  | position, hook :: hooks, response => do
    match (← Run.perform (.responseHook position) (hook.call view response)).called hook.mode with
    | .error stop => return .error (stop.map (.mk .postHook))
    | .ok response => polish view (position + 1) hooks response

/-- What the handler finds by name: what the factories gave, and the background queue. -/
def given (d : Dispatcher σ κ ν) (products : Fields (Product ν)) : Fields (Given ν) :=
  let dependencies := products.map Given.product
  match d.route.backgroundParam with
  | some name => dependencies.set name .background
  | none => dependencies

/-- Runs the handler, shapes its answer and runs the response hooks. -/
def produce (d : Dispatcher σ κ ν) (arguments : Arguments ν) :
    Run σ κ (Except (Stop StageFailure) Response) := do
  let handler := d.route.handler
  match (← Run.perform .handler (handler.call arguments)).called handler.mode with
  | .error stop => return .error (stop.map (.mk .handler))
  | .ok output =>
    match ← shape d.supported arguments.request output with
    | .error e => return .error (.failed ⟨.shaping, e⟩)
    | .ok response => polish arguments.request 0 d.responseHooks response

/-- Runs the stages after the intake hooks. -/
def stages (d : Dispatcher σ κ ν) (view : RequestView) :
    Run σ κ (Except (Stop StageFailure) Response × Context σ κ ν) := do
  let ctx := Context.new view
  match ← consult view 0 d.requestHooks with
  | .error stop => return (.error stop, ctx)
  | .ok (some response) => return (.ok response, ctx)
  | .ok none =>
    let depth := d.settings.maxDependencyDepth
    match ← resolve d.overrides depth d.route.dependencies ctx with
    | (.error stop, ctx) => return (.error (stop.map (.mk .resolution)), ctx)
    | (.ok products, ctx) =>
      match validate d.route.params view with
      | .error errors => return (.error (.failed ⟨.validation, .validation errors⟩), ctx)
      | .ok values => return (← d.produce ⟨values, d.given products, view⟩, ctx)

/-! ## Answering failures -/

/-- Answers a failed stage: the nearest error handler does, or the default answer. When the error
handler fails, its own error gets the default answer. -/
def answer (d : Dispatcher σ κ ν) (view : RequestView) (failure : StageFailure) :
    Run σ κ (Except Panic Response) := do
  match d.errorHandlers.lookup failure.error.errorClass with
  | none => return defaultResponse failure.error failure.stage
  | some handler =>
    let code := handler.call view failure.error
    match (← Run.perform (.exceptionHandler handler.errorClass) code).called handler.mode with
    | .error (.failed e) => return defaultResponse e failure.stage
    | .error (.unwound panic) => return .error panic
    | .ok output =>
      match ← shape d.supported view output with
      | .error e => return defaultResponse e failure.stage
      | .ok response => return .ok response

/-- The response with its length stated; one that never carries a body loses it instead. A full map
has no room for the length. -/
def settled (response : Response) : Except Panic Response :=
  if response.status.hasNoBody then .ok { response with body := .empty }
  else if response.headers.isFull then .error Headers.overflow
  else .ok response.setContentLength

/-! ## The dispatch as a whole -/

/-- The request with its path and query bound. -/
def view (d : Dispatcher σ κ ν) (request : Request) : RequestView :=
  RequestView.bind request d.route.pathNames

/-- What the stages leave: the request as the intake hooks left it, the result, and what remains to
be released. -/
structure Passage (σ κ ν : Type) where
  request : Request
  result : Except (Stop StageFailure) Response
  context : Context σ κ ν

/-- Takes a request through all stages. -/
def pass (d : Dispatcher σ κ ν) (request : Request) : Run σ κ (Passage σ κ ν) := do
  match ← takeIn 0 d.intakeHooks request with
  | (request, some result) => return ⟨request, result, .new (d.view request)⟩
  | (request, none) =>
    let (result, context) ← d.stages (d.view request)
    return ⟨request, result, context⟩

/-- The failed stage, if one failed. -/
def Passage.failure? (passage : Passage σ κ ν) : Option StageFailure :=
  match passage.result with
  | .error (.failed failure) => some failure
  | _ => none

/-- The response that the stages gave, or the answer to their failure. A panic goes on. -/
def respond (d : Dispatcher σ κ ν) (passage : Passage σ κ ν) : Run σ κ (Except Panic Response) :=
  match passage.result with
  | .ok response => pure (.ok response)
  | .error (.failed failure) => d.answer (d.view passage.request) failure
  | .error (.unwound panic) => pure (.error panic)

/-- What is known when the stages are over and a failure is answered. -/
structure Finish (σ κ ν : Type) where
  request : Request
  response : Response
  /-- The wording of the failure, if there was one. -/
  reason : Option String
  context : Context σ κ ν

/-- Runs all stages and answers a failure. -/
def attempt (d : Dispatcher σ κ ν) (request : Request) : Run σ κ (Except Panic (Finish σ κ ν)) := do
  let passage ← d.pass request
  let given ← d.respond passage
  let reason := passage.failure?.map fun failure => failure.error.message
  return (given.bind settled).map fun response =>
    ⟨passage.request, response, reason, passage.context⟩

/-- The record of a dispatch that took some time. -/
def record (d : Dispatcher σ κ ν) (finish : Finish σ κ ν) (duration : Nat) : FinalizerRecord :=
  { method := finish.request.method
    route := d.route.path
    status := finish.response.status
    duration
    responseLength := finish.response.body.length
    error := finish.reason.isSome
    reason := finish.reason }

/-- Tells the telemetry about a dispatch: counters, the record, the end of the span. -/
def report (d : Dispatcher σ κ ν) (finish : Finish σ κ ν) (duration : Nat) : Run σ κ Unit := do
  Run.notify d.observability (.counted requestsMetric 1)
  if finish.reason.isSome then
    Run.notify d.observability (.counted errorsMetric 1)
  Run.notify d.observability (.counted durationMetric duration)
  Run.notify d.observability (.finalized (d.record finish duration))
  Run.notify d.observability (.spanClosed d.spanName)

/-- Ends a dispatch that started at a time: with the report and the release, or after a panic with
the end of the span alone. -/
def conclude (d : Dispatcher σ κ ν) (started : Nat) :
    Except Panic (Finish σ κ ν) → Run σ κ (Except Panic Response)
  | .error panic => do
    Run.notify d.observability (.spanClosed d.spanName)
    return .error panic
  | .ok finish => do
    let ended ← Run.look fun session => d.clock session.world
    d.report finish (ended - started)
    let _ ← finish.context.release
    return .ok finish.response

/-- Dispatches a request, up to the background actions. -/
def serve (d : Dispatcher σ κ ν) (request : Request) : Run σ κ (Except Panic Response) := do
  let started ← Run.look fun session => d.clock session.world
  Run.notify d.observability (.spanOpened d.spanName)
  d.conclude started (← d.attempt request)

/-- Dispatches a request. A dispatch that ends with a panic loses what was queued. -/
def dispatch (d : Dispatcher σ κ ν) (request : Request) :
    Run σ κ (Except Panic (Reply σ κ)) := do
  let (served, background) ← Run.withQueue [] (d.serve request)
  return served.map fun response => ⟨response, background⟩

end Dispatcher

end RequestDispatch
