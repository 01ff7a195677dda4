import RequestDispatch.Proofs.Closing
import RequestDispatch.Proofs.Nearest
import RequestDispatch.Serve.Endpoint

/-!
# Code recast

Code on one kind of world recast as code on another: a `Recast` says in which mode it runs then,
what it sees of the new world and what it leaves of it. Everything that is made of code is recast
with it, down to the code that it gives: the background actions it queues, the source whose first
advance has yielded, the dependencies of a factory. Two recastings matter. `Recast.forget` makes all
code asynchronous, so that what becomes equal by it differs in modes at most. `Recast.watch` keeps
the modes and marks the world when code panics.
-/

namespace RequestDispatch

variable {σ τ κ ν α β : Type}

/-- How code on a world `σ` becomes code on a world `τ`. -/
structure Recast (σ τ : Type) where
  /-- The mode it runs in. -/
  mode : Mode → Mode
  /-- What it sees. -/
  world : τ → σ
  /-- What it leaves: whether it panicked, the world before, and what it would have left. -/
  after : Bool → τ → σ → τ

/-! ## Pieces of code -/

mutual

/-- A background action recast, with all that it may queue. -/
def Task.recast (r : Recast σ τ) : Task σ κ → Task τ κ
  | .mk mode run => .mk (r.mode mode) fun around t => recastEnd r t (run around (r.world t))

/-- The end of a background action that was started in a world. -/
def Task.recastEnd (r : Recast σ τ) (t : τ) :
    Completion Unit × σ × List (Task σ κ) → Completion Unit × τ × List (Task τ κ)
  | (completion, left) => (completion, recastLeft r completion.isPanic t left)

/-- What a background action leaves. -/
def Task.recastLeft (r : Recast σ τ) (panicked : Bool) (t : τ) :
    σ × List (Task σ κ) → τ × List (Task τ κ)
  | (s, queued) => (r.after panicked t s, recastAll r queued)

/-- Background actions recast one by one. -/
def Task.recastAll (r : Recast σ τ) : List (Task σ κ) → List (Task τ κ)
  | [] => []
  | task :: tasks => task.recast r :: recastAll r tasks

end

/-- Actions are recast one by one. -/
theorem Task.recastAll_eq_map (r : Recast σ τ) (tasks : List (Task σ κ)) :
    Task.recastAll r tasks = tasks.map (Task.recast r) := by
  induction tasks with
  | nil => rfl
  | cons task tasks ih => rw [recastAll, ih, List.map_cons]

/-- Code recast, with a value that is recast by a function. -/
def Effect.recast (r : Recast σ τ) (f : α → β) (code : Effect σ κ α) : Effect τ κ β :=
  fun around t =>
    let (completion, s, queued) := code around (r.world t)
    (completion.map f, r.after completion.isPanic t s, queued.map (Task.recast r))

/-- Code without a queue recast. -/
def Procedure.recast (r : Recast σ τ) (code : Procedure σ κ α) : Procedure τ κ α :=
  fun telemetry t =>
    let (completion, s) := code telemetry (r.world t)
    (completion, r.after completion.isPanic t s)

@[simp] theorem Completion.map_id (completion : Completion α) : completion.map id = completion := by
  cases completion <;> rfl

/-- A background action is recast as its code is. -/
theorem Task.run_recast (r : Recast σ τ) (task : Task σ κ) :
    (task.recast r).run = task.run.recast r id := by
  obtain ⟨mode, run⟩ := task
  funext around t
  rcases h : run around (r.world t) with ⟨completion, s, queued⟩
  simp only [recast, Task.run, h, recastEnd, recastLeft, recastAll_eq_map, Effect.recast,
    Completion.map_id]

/-- An action recast. -/
def Action.recast (r : Recast σ τ) (a : Action σ κ) : Action τ κ :=
  ⟨r.mode a.mode, a.run.recast r id⟩

/-! ## What factories give -/

/-- A yielded value with the rest of its source recast. -/
def Yield.recast (r : Recast σ τ) (y : Yield σ κ ν) : Yield τ κ ν :=
  ⟨y.value, y.rest.recast r id⟩

/-- A one-value source recast. -/
def SingleStep.recast (r : Recast σ τ) (step : SingleStep σ κ ν) : SingleStep τ κ ν where
  mode := r.mode step.mode
  first := step.first.recast r (Option.map (Yield.recast r))
  close := step.close.map (Action.recast r)

/-- A scoped resource recast. -/
def ScopedResource.recast (r : Recast σ τ) (resource : ScopedResource σ κ ν) :
    ScopedResource τ κ ν where
  mode := r.mode resource.mode
  acquire := resource.acquire.recast r id
  release acquired := (resource.release acquired).recast r id

/-- What a factory gives, recast. -/
def Outcome.recast (r : Recast σ τ) : Outcome σ κ ν → Outcome τ κ ν
  | .immediate value => .immediate value
  | .deferred compute => .deferred (compute.recast r id)
  | .singleStep step => .singleStep (step.recast r)
  | .scoped resource => .scoped (resource.recast r)

/-! ## Factories -/

mutual

/-- A factory recast, with those it depends on. -/
def Factory.recast (r : Recast σ τ) : Factory σ κ ν → Factory τ κ ν
  | ⟨id, name, mode, call, dependencies, wantsRequest, usesCache⟩ =>
    ⟨id, name, r.mode mode, fun args => (call args).recast r (Outcome.recast r),
      recastSpecs r dependencies, wantsRequest, usesCache⟩

/-- Parameters with their factories recast. -/
def Factory.recastSpecs (r : Recast σ τ) :
    List (String × Factory σ κ ν) → List (String × Factory τ κ ν)
  | [] => []
  | spec :: specs => recastSpec r spec :: recastSpecs r specs

/-- A parameter with its factory recast. -/
def Factory.recastSpec (r : Recast σ τ) : String × Factory σ κ ν → String × Factory τ κ ν
  | (parameter, f) => (parameter, f.recast r)

end

namespace Factory

variable (r : Recast σ τ) (f : Factory σ κ ν)

/-- The dependencies of a factory are recast one by one. -/
theorem recastSpecs_eq_map (specs : List (DependencySpec σ κ ν)) :
    recastSpecs r specs = specs.map (recastSpec r) := by
  induction specs with
  | nil => rfl
  | cons spec specs ih => rw [recastSpecs, ih, List.map_cons]

@[simp] theorem recast_id : (f.recast r).id = f.id := by
  cases f
  rfl

@[simp] theorem recast_name : (f.recast r).name = f.name := by
  cases f
  rfl

@[simp] theorem recast_mode : (f.recast r).mode = r.mode f.mode := by
  cases f
  rfl

@[simp] theorem recast_call (args : FactoryArgs ν) :
    (f.recast r).call args = (f.call args).recast r (Outcome.recast r) := by
  cases f
  rfl

@[simp] theorem recast_dependencies :
    (f.recast r).dependencies = f.dependencies.map (recastSpec r) := by
  cases f
  exact recastSpecs_eq_map r _

@[simp] theorem recast_wantsRequest : (f.recast r).wantsRequest = f.wantsRequest := by
  cases f
  rfl

@[simp] theorem recast_usesCache : (f.recast r).usesCache = f.usesCache := by
  cases f
  rfl

end Factory

/-! ## Overrides -/

/-- A scope with its replacements recast. -/
def OverrideScope.recast (r : Recast σ τ) (scope : OverrideScope σ κ ν) : OverrideScope τ κ ν where
  replacements := scope.replacements.map fun (id, f) => (id, f.recast r)
  distinct := by
    rw [List.map_map]
    exact scope.distinct

/-- A chain with its replacements recast. -/
def OverrideChain.recast (r : Recast σ τ) (chain : OverrideChain σ κ ν) : OverrideChain τ κ ν :=
  ⟨chain.scopes.map (OverrideScope.recast r)⟩

/-- A replacement is looked up before or after it is recast. -/
theorem OverrideScope.get?_recast (r : Recast σ τ) (scope : OverrideScope σ κ ν) (id : FactoryId) :
    (scope.recast r).get? id = (scope.get? id).map (Factory.recast r) := by
  obtain ⟨replacements, distinct⟩ := scope
  simp only [get?, recast]
  clear distinct
  induction replacements with
  | nil => rfl
  | cons replacement replacements ih =>
    obtain ⟨replaced, f⟩ := replacement
    simp only [List.map_cons, List.lookup_cons, ih]
    cases id == replaced <;> rfl

/-- A recast chain calls the recast factory. -/
theorem OverrideChain.effective_recast (r : Recast σ τ) (chain : OverrideChain σ κ ν)
    (f : Factory σ κ ν) :
    (chain.recast r).effective (f.recast r) = (chain.effective f).recast r := by
  have hlookup : (chain.recast r).lookup (f.recast r) =
      (chain.lookup f).map (Factory.recast r) := by
    simp only [lookup, recast, Factory.recast_id, List.filterMap_map, Function.comp_def,
      OverrideScope.get?_recast, ← List.map_filterMap, List.getLast?_map]
  rw [effective, effective, hlookup]
  cases chain.lookup f <;> rfl

/-! ## Routes and what stands beside them -/

/-- The answer of a handler with the chunks of a stream recast. -/
def Output.recast (r : Recast σ τ) : Output σ κ → Output τ κ
  | .response given => .response given
  | .stream status mediaType chunks => .stream status mediaType (chunks.map (Effect.recast r id))
  | .value json => .value json
  | .withStatus status json => .withStatus status json
  | .empty => .empty

/-- A handler recast. -/
def Handler.recast (r : Recast σ τ) (handler : Handler σ κ ν) : Handler τ κ ν :=
  ⟨r.mode handler.mode, fun arguments => (handler.call arguments).recast r (Output.recast r)⟩

/-- An intake hook recast. -/
def IntakeHook.recast (r : Recast σ τ) (hook : IntakeHook σ κ) : IntakeHook τ κ :=
  ⟨r.mode hook.mode, fun request => (hook.call request).recast r⟩

/-- A request hook recast. -/
def RequestHook.recast (r : Recast σ τ) (hook : RequestHook σ κ) : RequestHook τ κ :=
  ⟨r.mode hook.mode, fun view => (hook.call view).recast r id⟩

/-- A response hook recast. -/
def ResponseHook.recast (r : Recast σ τ) (hook : ResponseHook σ κ) : ResponseHook τ κ :=
  ⟨r.mode hook.mode, fun view response => (hook.call view response).recast r id⟩

/-- An error handler recast. -/
def ErrorHandler.recast (r : Recast σ τ) (handler : ErrorHandler σ κ) : ErrorHandler τ κ :=
  ⟨handler.errorClass, r.mode handler.mode,
    fun view error => (handler.call view error).recast r (Output.recast r)⟩

/-- Error handlers recast. -/
def ErrorHandlers.recast (r : Recast σ τ) (h : ErrorHandlers σ κ) : ErrorHandlers τ κ :=
  ⟨h.handlers.map (ErrorHandler.recast r)⟩

/-- The same error handler answers when all are recast. -/
theorem ErrorHandlers.lookup_recast (r : Recast σ τ) (h : ErrorHandlers σ κ) (c : ErrorClass) :
    (h.recast r).lookup c = (h.lookup c).map (ErrorHandler.recast r) := by
  have related : List.Forall₂ (fun handler handler' => handler.recast r = handler') h.handlers
      (h.recast r).handlers :=
    List.forall₂_map_right_iff.mpr (List.forall₂_same.mpr fun _ _ => rfl)
  have hlookup := lookup_rel (fun _ _ heq => heq ▸ rfl) related c
  generalize h.lookup c = o, (h.recast r).lookup c = o' at hlookup ⊢
  cases hlookup with
  | none => rfl
  | some heq => exact congrArg some heq.symm

/-- A route recast. -/
def Route.recast (r : Recast σ τ) (route : Route σ κ ν) : Route τ κ ν where
  method := route.method
  path := route.path
  handler := route.handler.recast r
  params := route.params
  dependencies := route.dependencies.map (Factory.recastSpec r)
  backgroundParam := route.backgroundParam
  mediaTypes := route.mediaTypes
  name := route.name

/-- A receiver of notices recast. -/
def Observability.recast (r : Recast σ τ) (o : Observability σ κ) : Observability τ κ where
  receive notice t telemetry :=
    let (s, telemetry) := o.receive notice (r.world t) telemetry
    (r.after false t s, telemetry)
  metric := o.metric

/-- A dispatcher with all its code recast. -/
def Dispatcher.recast (r : Recast σ τ) (d : Dispatcher σ κ ν) : Dispatcher τ κ ν where
  route := d.route.recast r
  overrides := d.overrides.recast r
  intakeHooks := d.intakeHooks.map (IntakeHook.recast r)
  requestHooks := d.requestHooks.map (RequestHook.recast r)
  responseHooks := d.responseHooks.map (ResponseHook.recast r)
  errorHandlers := d.errorHandlers.recast r
  observability := d.observability.recast r
  settings := d.settings
  clock t := d.clock (r.world t)

/-! ## What a request holds -/

/-- A cleanup recast. -/
def Cleanup.recast (r : Recast σ τ) : Cleanup σ κ ν → Cleanup τ κ ν
  | .action a => .action (a.recast r)
  | .exhaust source rest close =>
    .exhaust (r.mode source) (rest.recast r id) (close.map (Action.recast r))
  | .release resource code => .release (r.mode resource) (code.recast r id)

/-- A pending cleanup recast. -/
def Cleanup.recastPending (r : Recast σ τ) (entry : Nat × Cleanup σ κ ν) : Nat × Cleanup τ κ ν :=
  (entry.1, entry.2.recast r)

/-- A usable value with its cleanup recast. -/
def Outcome.Normalized.recast (r : Recast σ τ) (normalized : Normalized σ κ ν) :
    Normalized τ κ ν :=
  ⟨normalized.value, normalized.cleanup.map (Cleanup.recast r)⟩

/-- A context with its pending cleanups recast. -/
def Context.recast (r : Recast σ τ) (ctx : Context σ κ ν) : Context τ κ ν :=
  ⟨ctx.view, ctx.cache, ⟨ctx.cleanup.pending.map (Cleanup.recastPending r)⟩, ctx.invocations⟩

/-- What the stages leave, recast. -/
def Dispatcher.Passage.recast (r : Recast σ τ) (passage : Passage σ κ ν) : Passage τ κ ν :=
  ⟨passage.request, passage.result, passage.context.recast r⟩

/-- What is known at the end of the stages, recast. -/
def Dispatcher.Finish.recast (r : Recast σ τ) (finish : Finish σ κ ν) : Finish τ κ ν :=
  ⟨finish.request, finish.response, finish.reason, finish.context.recast r⟩

/-- What a dispatch gives, with the background actions recast. -/
def Reply.recast (r : Recast σ τ) (reply : Reply σ κ) : Reply τ κ :=
  ⟨reply.response, reply.background.map (Task.recast r)⟩

/-- A queue that has been handed over, with its actions recast. -/
def Detached.recast (r : Recast σ τ) (queue : Detached σ κ) : Detached τ κ :=
  ⟨queue.position, queue.scheduled.map (Task.recast r), queue.late.map (Task.recast r)⟩

/-! ## Forgetting modes and watching for panics -/

/-- The same code, all asynchronous. -/
def Recast.forget : Recast σ σ := ⟨fun _ => .async, id, fun _ _ s => s⟩

/-- A world that is marked when code has panicked. -/
structure Watched (σ : Type) where
  world : σ
  panicked : Bool
  deriving DecidableEq, Repr

/-- The same code, watched for panics. -/
def Recast.watch : Recast σ (Watched σ) :=
  ⟨id, Watched.world, fun panicked t s => ⟨s, t.panicked || panicked⟩⟩

@[simp] theorem Recast.watch_mode (mode : Mode) : (watch : Recast σ (Watched σ)).mode mode = mode :=
  rfl

/-- What interceptors do, watched for panics. -/
def Plan.watched : Plan σ κ → Plan (Watched σ) κ
  | .ended result => .ended result
  | .act change resume =>
    .act (fun telemetry t => { t with world := change telemetry t.world }) fun telemetry t =>
      (resume telemetry t.world).watched
  | .panicked rest => .act (fun _ t => { t with panicked := true }) fun _ _ => rest.watched
  | .dispatch request resume => .dispatch request fun result => (resume result).watched

end RequestDispatch
