import Mathlib.Data.List.Forall2
import RequestDispatch.Dispatch.Basic
import RequestDispatch.Proofs.Journal

/-!
# Application code that differs in the texts of its errors

Two dispatchers are alike if all that can tell them apart is what the errors and panics of their
code say. `Dispatcher.Alike` spells this out for every piece of code: started in the same state, it
ends in the same way and leaves the same state, and where it gives further code, that is alike
again. `Run.Alike` is the same for runs, with the laws by which runs of such code are compared step
by step.
-/

namespace RequestDispatch

/-! ## Results -/

/-- Two results that are both errors, related by `E`, or both values, related by `R`. -/
inductive Except.LiftRel {ε ε' α β : Type} (E : ε → ε' → Prop) (R : α → β → Prop) :
    Except ε α → Except ε' β → Prop where
  | error {e : ε} {e' : ε'} (h : E e e') : LiftRel E R (.error e) (.error e')
  | ok {a : α} {b : β} (h : R a b) : LiftRel E R (.ok a) (.ok b)

/-- Two related results are both errors or both values. -/
theorem Except.LiftRel.exists {ε ε' α β : Type} {E : ε → ε' → Prop} {R : α → β → Prop}
    {r : Except ε α} {r' : Except ε' β} (h : Except.LiftRel E R r r') :
    (∃ e e', r = .error e ∧ r' = .error e' ∧ E e e') ∨
      ∃ a b, r = .ok a ∧ r' = .ok b ∧ R a b := by
  cases h with
  | error h => exact .inl ⟨_, _, rfl, rfl, h⟩
  | ok h => exact .inr ⟨_, _, rfl, rfl, h⟩

/-- Two errors that differ in what they say at most. What a dependency error says is told to the
client when it ends the resolution of dependencies, so while resolving it must be the same. -/
inductive DispatchError.Alike (resolving : Bool) : DispatchError → DispatchError → Prop where
  | same (e : DispatchError) : Alike resolving e e
  | application (c : ErrorClass) (message message' : String) :
      Alike resolving (.application c message) (.application c message')
  | internal (cause cause' : InternalCause) : Alike resolving (.internal cause) (.internal cause')
  | unhandled (message message' : String) :
      Alike resolving (.unhandled message) (.unhandled message')
  | dependency (h : resolving = false) (name message name' message' : String) :
      Alike resolving (.dependency name message) (.dependency name' message')

/-- Two failures of code that differ in what they say at most. -/
inductive Failure.Alike (resolving : Bool) : Failure → Failure → Prop where
  | raised {e e' : DispatchError} (h : e.Alike resolving e') :
      Alike resolving (.raised e) (.raised e')
  | panicked (panic panic' : Panic) (early : Bool) :
      Alike resolving (.panicked panic early) (.panicked panic' early)

/-- Two ways for code to end that differ in what errors say at most. -/
abbrev Completion.Alike {α β : Type} (resolving : Bool) (R : α → β → Prop) :
    Completion α → Completion β → Prop :=
  Except.LiftRel (Failure.Alike resolving) R

/-- Two results of a stage that differ in what errors say at most. -/
abbrev ResultAlike {α β : Type} (resolving : Bool) (R : α → β → Prop) :
    Except DispatchError α → Except DispatchError β → Prop :=
  Except.LiftRel (DispatchError.Alike resolving) R

theorem ResultAlike.refl {α : Type} {resolving : Bool} (r : Except DispatchError α) :
    ResultAlike resolving Eq r r := by
  cases r with
  | error e => exact .error (.same e)
  | ok a => exact .ok rfl

/-- A contained panic is an internal error, whatever it says. -/
theorem Completion.Alike.contain {α β : Type} {resolving : Bool} {R : α → β → Prop}
    {c : Completion α} {c' : Completion β} (h : Completion.Alike resolving R c c')
    (mode mode' : Mode) : ResultAlike resolving R (c.contain mode) (c'.contain mode') := by
  cases h with
  | ok h => exact .ok h
  | error h =>
    cases h with
    | raised h => exact .error h
    | panicked panic panic' early => exact .error (.internal _ _)

/-- Two ways to stop that differ in what errors and panics say at most. -/
inductive Stop.Alike {ε ε' : Type} (E : ε → ε' → Prop) : Stop ε → Stop ε' → Prop where
  | failed {e : ε} {e' : ε'} (h : E e e') : Alike E (.failed e) (.failed e')
  | unwound (panic panic' : Panic) : Alike E (.unwound panic) (.unwound panic')

/-- Stops whose failures are mapped alike are alike. -/
theorem Stop.Alike.map {ε ε' δ δ' : Type} {E : ε → ε' → Prop} {D : δ → δ' → Prop} {f : ε → δ}
    {f' : ε' → δ'} (hf : ∀ e e', E e e' → D (f e) (f' e')) {stop : Stop ε} {stop' : Stop ε'}
    (h : stop.Alike E stop') : (stop.map f).Alike D (stop'.map f') := by
  cases h with
  | failed h => exact .failed (hf _ _ h)
  | unwound panic panic' => exact .unwound panic panic'

/-- Two results of a call that differ in what errors and panics say at most. -/
abbrev CallAlike {α β : Type} (resolving : Bool) (R : α → β → Prop) :
    Except (Stop DispatchError) α → Except (Stop DispatchError) β → Prop :=
  Except.LiftRel (Stop.Alike (DispatchError.Alike resolving)) R

/-- Calls that end alike are contained alike. -/
theorem Completion.Alike.called {α β : Type} {resolving : Bool} {R : α → β → Prop}
    {c : Completion α} {c' : Completion β} (h : Completion.Alike resolving R c c') (mode : Mode) :
    CallAlike resolving R (c.called mode) (c'.called mode) := by
  cases h with
  | ok h => cases mode <;> exact .ok h
  | error h =>
    cases h with
    | raised h => cases mode <;> exact .error (.failed h)
    | panicked panic panic' early =>
      -- only in asynchronous code does it matter whether the panic is early
      cases mode with
      | blocking => exact .error (.failed (.internal _ _))
      | async =>
        cases early with
        | false => exact .error (.failed (.internal _ _))
        | true => exact .error (.unwound panic panic')

/-! ## Runs -/

section Runs

variable {σ κ α β γ δ : Type}

/-- Two sessions that application code cannot tell apart. -/
structure Session.Alike (s s' : Session σ κ) : Prop where
  world : s.world = s'.world
  telemetry : s.telemetry = s'.telemetry
  waiting : s.queue.length = s'.queue.length

theorem Session.Alike.refl (s : Session σ κ) : s.Alike s := ⟨rfl, rfl, rfl⟩

/-- Code that ends alike and leaves the same state. Of the background actions it queues only the
number counts: they run when the response has been given. -/
def Effect.Alike (resolving : Bool) (R : α → β → Prop) (e : Effect σ κ α) (e' : Effect σ κ β) :
    Prop :=
  ∀ around world,
    Completion.Alike resolving R (e around world).1 (e' around world).1 ∧
      (e around world).2.1 = (e' around world).2.1 ∧
        (e around world).2.2.length = (e' around world).2.2.length

theorem Effect.Alike.value {resolving : Bool} {R : α → β → Prop} {a : α} {b : β} (h : R a b) :
    Effect.Alike resolving R (Effect.value a : Effect σ κ α) (Effect.value b) :=
  fun _ _ => ⟨.ok h, rfl, rfl⟩

/-- The same of code without a queue. -/
def Procedure.Alike (resolving : Bool) (R : α → β → Prop) (p : Procedure σ κ α)
    (p' : Procedure σ κ β) : Prop :=
  ∀ telemetry world,
    Completion.Alike resolving R (p telemetry world).1 (p' telemetry world).1 ∧
      (p telemetry world).2 = (p' telemetry world).2

/-- Runs that keep sessions alike and give related results. -/
def Run.Alike (R : α → β → Prop) (m : Run σ κ α) (m' : Run σ κ β) : Prop :=
  ∀ s s', Session.Alike s s' →
    R (m s).result (m' s').result ∧ Session.Alike (m s).session (m' s').session

namespace Run.Alike

variable {R : α → β → Prop} {S : γ → δ → Prop}

/-- Related values are alike runs. -/
theorem pure {a : α} {b : β} (h : R a b) :
    Run.Alike R (Pure.pure a : Run σ κ α) (Pure.pure b : Run σ κ β) :=
  fun _ _ hs => ⟨h, hs⟩

/-- Alike runs followed by alike runs are alike. -/
theorem bind {m : Run σ κ α} {m' : Run σ κ β} {f : α → Run σ κ γ} {f' : β → Run σ κ δ}
    (first : Run.Alike R m m') (second : ∀ a b, R a b → Run.Alike S (f a) (f' b)) :
    Run.Alike S (m >>= f) (m' >>= f') := by
  intro s s' hs
  obtain ⟨hresult, hsession⟩ := first s s' hs
  exact second _ _ hresult _ _ hsession

/-- Events are alike, whatever they are. -/
theorem enter (event event' : Event) :
    Run.Alike (fun _ _ => True) (Run.enter event : Run σ κ Unit) (Run.enter event') :=
  fun _ _ hs => ⟨trivial, hs⟩

/-- Calls of alike code are alike. -/
theorem perform {resolving : Bool} {event event' : Event} {code : Effect σ κ α}
    {code' : Effect σ κ β} (h : code.Alike resolving R code') :
    Run.Alike (Completion.Alike resolving R) (Run.perform event code)
      (Run.perform event' code') := by
  intro s s' hs
  -- both pieces of code find the same world, the same telemetry and the same number of actions
  have hstart := h ⟨s.telemetry, s.queue.length⟩ s.world
  obtain ⟨hcompletion, hworld, hqueued⟩ := hstart
  simp only [Run.perform, ← hs.world, ← hs.telemetry, ← hs.waiting]
  refine ⟨hcompletion, hworld, rfl, ?_⟩
  rw [List.length_append, List.length_append, ← hqueued, hs.waiting]

/-- Calls of alike code without a queue are alike. -/
theorem performAlone {resolving : Bool} {event event' : Event} {code : Procedure σ κ α}
    {code' : Procedure σ κ β} (h : code.Alike resolving R code') :
    Run.Alike (Completion.Alike resolving R) (Run.performAlone event code)
      (Run.performAlone event' code') := by
  intro s s' hs
  obtain ⟨hcompletion, hworld⟩ := h s.telemetry s.world
  simp only [Run.performAlone, ← hs.world, ← hs.telemetry]
  exact ⟨hcompletion, hworld, rfl, hs.waiting⟩

end Run.Alike

end Runs

/-! ## Code and what it gives -/

variable {σ κ ν : Type}

/-- Actions that are alike outside the resolution of dependencies. -/
structure Action.Alike (a a' : Action σ κ) : Prop where
  mode : a.mode = a'.mode
  run : Effect.Alike false Eq a.run a'.run

/-- The same value, and rests of the source that are alike. -/
structure Yield.Alike (y y' : Yield σ κ ν) : Prop where
  value : y.value = y'.value
  rest : Effect.Alike false Eq y.rest y'.rest

/-- Sources that are alike: the first advance belongs to the resolution, the rest does not. -/
structure SingleStep.Alike (step step' : SingleStep σ κ ν) : Prop where
  mode : step.mode = step'.mode
  first : Effect.Alike true (Option.Rel Yield.Alike) step.first step'.first
  close : Option.Rel Action.Alike step.close step'.close

/-- Scoped resources that are alike. -/
structure ScopedResource.Alike (r r' : ScopedResource σ κ ν) : Prop where
  mode : r.mode = r'.mode
  acquire : Effect.Alike true Eq r.acquire r'.acquire
  release : ∀ acquired, Effect.Alike false Eq (r.release acquired) (r'.release acquired)

/-- Outcomes of factories that are alike. -/
inductive Outcome.Alike : Outcome σ κ ν → Outcome σ κ ν → Prop where
  | immediate (value : ν) : Alike (.immediate value) (.immediate value)
  | deferred {compute compute' : Effect σ κ ν} (h : Effect.Alike true Eq compute compute') :
      Alike (.deferred compute) (.deferred compute')
  | singleStep {step step' : SingleStep σ κ ν} (h : step.Alike step') :
      Alike (.singleStep step) (.singleStep step')
  | resource {resource resource' : ScopedResource σ κ ν} (h : resource.Alike resource') :
      Alike (.scoped resource) (.scoped resource')

mutual

/-- Factories that are alike, and so are those they depend on. -/
inductive Factory.Alike : Factory σ κ ν → Factory σ κ ν → Prop where
  | intro {f f' : Factory σ κ ν} (id : f.id = f'.id) (name : f.name = f'.name)
      (mode : f.mode = f'.mode)
      (call : ∀ args, Effect.Alike true Outcome.Alike (f.call args) (f'.call args))
      (dependencies : SpecsAlike f.dependencies f'.dependencies)
      (wantsRequest : f.wantsRequest = f'.wantsRequest) (usesCache : f.usesCache = f'.usesCache) :
      Factory.Alike f f'

/-- The same parameters in the same order, bound to factories that are alike. -/
inductive SpecsAlike : List (DependencySpec σ κ ν) → List (DependencySpec σ κ ν) → Prop where
  | nil : SpecsAlike [] []
  | cons (parameter : String) {f f' : Factory σ κ ν} {specs specs' : List (DependencySpec σ κ ν)}
      (head : Factory.Alike f f') (tail : SpecsAlike specs specs') :
      SpecsAlike ((parameter, f) :: specs) ((parameter, f') :: specs')

end

/-- Scopes that replace the same factories by factories that are alike. -/
def OverrideScope.Alike (scope scope' : OverrideScope σ κ ν) : Prop :=
  List.Forall₂ (fun r r' => r.1 = r'.1 ∧ r.2.Alike r'.2) scope.replacements scope'.replacements

/-- Chains of scopes that are alike. -/
def OverrideChain.Alike (chain chain' : OverrideChain σ κ ν) : Prop :=
  List.Forall₂ OverrideScope.Alike chain.scopes chain'.scopes

/-- Answers of handlers that are alike. -/
inductive Output.Alike : Output σ κ → Output σ κ → Prop where
  | response (response : Response) : Alike (.response response) (.response response)
  | stream (status : Status) (mediaType : String) {chunks chunks' : List (Effect σ κ Bytes)}
      (h : List.Forall₂ (Effect.Alike false Eq) chunks chunks') :
      Alike (.stream status mediaType chunks) (.stream status mediaType chunks')
  | value (value : Json) : Alike (.value value) (.value value)
  | withStatus (status : Status) (value : Json) :
      Alike (.withStatus status value) (.withStatus status value)
  | empty : Alike .empty .empty

/-! ## Dispatchers -/

/-- Intake hooks that are alike. -/
structure IntakeHook.Alike (hook hook' : IntakeHook σ κ) : Prop where
  mode : hook.mode = hook'.mode
  call : ∀ request, Procedure.Alike false Eq (hook.call request) (hook'.call request)

/-- Request hooks that are alike. -/
structure RequestHook.Alike (hook hook' : RequestHook σ κ) : Prop where
  mode : hook.mode = hook'.mode
  call : ∀ view, Effect.Alike false Eq (hook.call view) (hook'.call view)

/-- Response hooks that are alike. -/
structure ResponseHook.Alike (hook hook' : ResponseHook σ κ) : Prop where
  mode : hook.mode = hook'.mode
  call : ∀ view response,
    Effect.Alike false Eq (hook.call view response) (hook'.call view response)

/-- Handlers that are alike. -/
structure Handler.Alike (handler handler' : Handler σ κ ν) : Prop where
  mode : handler.mode = handler'.mode
  call : ∀ arguments,
    Effect.Alike false Output.Alike (handler.call arguments) (handler'.call arguments)

/-- Routes that declare the same and whose code is alike. -/
structure Route.Alike (r r' : Route σ κ ν) : Prop where
  method : r.method = r'.method
  path : r.path = r'.path
  handler : r.handler.Alike r'.handler
  params : r.params = r'.params
  dependencies : SpecsAlike r.dependencies r'.dependencies
  backgroundParam : r.backgroundParam = r'.backgroundParam
  mediaTypes : r.mediaTypes = r'.mediaTypes
  name : r.name = r'.name

namespace Dispatcher

/-- Dispatchers of one configuration whose code is alike. Error handlers are left out. -/
structure Alike (d d' : Dispatcher σ κ ν) : Prop where
  route : d.route.Alike d'.route
  overrides : d.overrides.Alike d'.overrides
  intakeHooks : List.Forall₂ IntakeHook.Alike d.intakeHooks d'.intakeHooks
  requestHooks : List.Forall₂ RequestHook.Alike d.requestHooks d'.requestHooks
  responseHooks : List.Forall₂ ResponseHook.Alike d.responseHooks d'.responseHooks
  observability : d.observability = d'.observability
  settings : d.settings = d'.settings
  clock : d.clock = d'.clock

end Dispatcher

end RequestDispatch
