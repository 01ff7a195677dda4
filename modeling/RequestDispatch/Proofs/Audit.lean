import RequestDispatch.Proofs.Journal
import RequestDispatch.Serve.Endpoint

/-!
# Audited dispatches

A dispatch drops what becomes of the cleanups that it runs. An audited dispatch is the same run and
also gives, for each cleanup in order, how it ended: those of a failed resolution and those at the
end of the dispatch. An audited endpoint gives the audits of all dispatches made for a request, in
order. That nothing else differs is said beside each definition.
-/

namespace RequestDispatch

variable {σ κ ν α β : Type}

/-- How cleanups ended, in the order they ran: the invocation each belongs to, and its result. -/
abbrev Audit := List (Nat × Except DispatchError Unit)

namespace Audit

/-- Runs obey the laws of monads. They are at hand where audits are compared with what they
audit. -/
scoped instance : LawfulMonad (Run σ κ) :=
  have id_map {α : Type} (m : Run σ κ α) : id <$> m = m := by
    funext s
    exact congrArg (Step.mk _ _) (List.append_nil _)
  have bind_assoc {α β γ : Type} (m : Run σ κ α) (f : α → Run σ κ β) (g : β → Run σ κ γ) :
      m >>= f >>= g = m >>= fun a => f a >>= g := by
    funext s
    simp only [Run.bind_apply, List.append_assoc]
  .mk' _ id_map (fun _ _ => rfl) bind_assoc

/-- The failures of an audit. -/
def failures (audit : Audit) : List DispatchError :=
  audit.filterMap fun (_, result) =>
    match result with
    | .ok _ => none
    | .error failure => some failure

/-! ## Releasing -/

/-- Runs cleanups one after another and audits them. -/
def ofPending : List (Nat × Cleanup σ κ ν) → Run σ κ Audit
  | [] => pure []
  | (origin, cleanup) :: rest => do
    Run.enter (.cleanupStarted origin)
    let result ← cleanup.run origin
    Run.enter (.cleanupFinished origin)
    return (origin, result) :: (← ofPending rest)

/-- A release gives the failures of its audit. -/
theorem releaseAll_eq (pending : List (Nat × Cleanup σ κ ν)) :
    CleanupStack.releaseAll pending = failures <$> ofPending pending := by
  induction pending with
  | nil => rfl
  | cons entry rest ih =>
    obtain ⟨origin, cleanup⟩ := entry
    simp only [CleanupStack.releaseAll, ofPending, ih, map_bind, map_pure, bind_map_left]
    refine bind_congr fun _ => bind_congr fun result => ?_
    cases result <;> rfl

/-- The release of a context gives the failures of its audit. -/
theorem release_eq (ctx : Context σ κ ν) :
    ctx.release = (fun audit => (failures audit, { ctx with cleanup := .empty })) <$>
      ofPending ctx.cleanup.pending := by
  simp only [Context.release, CleanupStack.release, releaseAll_eq, bind_pure_comp, Functor.map_map]

/-! ## A dispatch -/

/-- Resolves dependencies and audits the release after a failure. -/
def resolve (chain : OverrideChain σ κ ν) (limit : Nat) (specs : List (DependencySpec σ κ ν))
    (ctx : Context σ κ ν) : Run σ κ (Resolved σ κ ν (Fields (Product ν)) × Audit) := do
  match ← Resolver.each (Resolver.parameter chain limit limit []) specs .empty ctx with
  | (.ok values, ctx) => return ((.ok values, ctx), [])
  | (.error (.failed e), ctx) =>
    let audit ← ofPending ctx.cleanup.pending
    return ((.error (.failed e), { ctx with cleanup := .empty }), audit)
  | (.error (.unwound panic), ctx) => return ((.error (.unwound panic), ctx), [])

/-- A resolution is an audited one without the audit. -/
theorem resolve_eq (chain : OverrideChain σ κ ν) (limit : Nat) (specs : List (DependencySpec σ κ ν))
    (ctx : Context σ κ ν) :
    RequestDispatch.resolve chain limit specs ctx = Prod.fst <$> resolve chain limit specs ctx := by
  simp only [RequestDispatch.resolve, resolve, map_bind]
  refine bind_congr fun resolved => ?_
  obtain ⟨(e | panic) | values, ctx⟩ := resolved
  · simp only [release_eq, bind_map_left, map_bind, map_pure]
  · rfl
  · rfl

/-- Runs the stages after the intake hooks and audits a failed resolution. -/
def stages (d : Dispatcher σ κ ν) (view : RequestView) :
    Run σ κ ((Except (Stop StageFailure) Response × Context σ κ ν) × Audit) := do
  let ctx := Context.new view
  match ← Dispatcher.consult view 0 d.requestHooks with
  | .error stop => return ((.error stop, ctx), [])
  | .ok (some response) => return ((.ok response, ctx), [])
  | .ok none =>
    match ← resolve d.overrides d.settings.maxDependencyDepth d.route.dependencies ctx with
    | ((.error stop, ctx), audit) => return ((.error (stop.map (.mk .resolution)), ctx), audit)
    | ((.ok products, ctx), audit) =>
      match validate d.route.params view with
      | .error errors =>
        return ((.error (.failed ⟨.validation, .validation errors⟩), ctx), audit)
      | .ok values => return ((← d.produce ⟨values, d.given products, view⟩, ctx), audit)

/-- The stages are the audited ones without the audit. -/
theorem stages_eq (d : Dispatcher σ κ ν) (view : RequestView) :
    d.stages view = Prod.fst <$> stages d view := by
  simp only [Dispatcher.stages, stages, map_bind]
  refine bind_congr fun consulted => ?_
  obtain _ | _ | response := consulted
  · rfl
  · simp only [resolve_eq, bind_map_left, map_bind]
    refine bind_congr fun resolved => ?_
    obtain ⟨⟨_ | products, ctx⟩, audit⟩ := resolved
    · rfl
    · dsimp only
      cases validate d.route.params view with
      | error errors => rfl
      | ok values => simp only [map_bind, map_pure]
  · rfl

/-- Takes a request through all stages and audits a failed resolution. -/
def pass (d : Dispatcher σ κ ν) (request : Request) :
    Run σ κ (Dispatcher.Passage σ κ ν × Audit) := do
  match ← Dispatcher.takeIn 0 d.intakeHooks request with
  | (request, some result) => return (⟨request, result, .new (d.view request)⟩, [])
  | (request, none) =>
    let ((result, context), audit) ← stages d (d.view request)
    return (⟨request, result, context⟩, audit)

/-- All stages together are the audited ones without the audit. -/
theorem pass_eq (d : Dispatcher σ κ ν) (request : Request) :
    d.pass request = Prod.fst <$> pass d request := by
  simp only [Dispatcher.pass, pass, map_bind]
  refine bind_congr fun taken => ?_
  obtain ⟨request, _ | result⟩ := taken
  · simp only [stages_eq, bind_map_left, map_bind, map_pure]
  · rfl

/-- Runs all stages, answers a failure and audits a failed resolution. -/
def attempt (d : Dispatcher σ κ ν) (request : Request) :
    Run σ κ (Except Panic (Dispatcher.Finish σ κ ν) × Audit) := do
  let (passage, early) ← pass d request
  let given ← d.respond passage
  let reason := passage.failure?.map fun failure => failure.error.message
  return ((given.bind Dispatcher.settled).map fun response =>
    ⟨passage.request, response, reason, passage.context⟩, early)

/-- Stages are gone through and a failure is answered as it is with an audit. -/
theorem attempt_eq (d : Dispatcher σ κ ν) (request : Request) :
    d.attempt request = Prod.fst <$> attempt d request := by
  simp only [Dispatcher.attempt, attempt, pass_eq, bind_map_left, map_bind, map_pure]

/-- Ends a dispatch and audits the release. -/
def conclude (d : Dispatcher σ κ ν) (started : Nat) :
    Except Panic (Dispatcher.Finish σ κ ν) → Run σ κ (Except Panic Response × Audit)
  | .error panic => do
    Run.notify d.observability (.spanClosed d.spanName)
    return (.error panic, [])
  | .ok finish => do
    let ended ← Run.look fun session => d.clock session.world
    d.report finish (ended - started)
    let late ← ofPending finish.context.cleanup.pending
    return (.ok finish.response, late)

/-- A dispatch ends as an audited one does. -/
theorem conclude_eq (d : Dispatcher σ κ ν) (started : Nat)
    (finish : Except Panic (Dispatcher.Finish σ κ ν)) :
    d.conclude started finish = Prod.fst <$> conclude d started finish := by
  cases finish with
  | error panic => rfl
  | ok finish =>
    simp only [Dispatcher.conclude, conclude, release_eq, bind_map_left, map_bind, map_pure]

/-- Dispatches a request, up to the background actions, and audits all cleanups. -/
def serve (d : Dispatcher σ κ ν) (request : Request) :
    Run σ κ (Except Panic Response × Audit) := do
  let started ← Run.look fun session => d.clock session.world
  Run.notify d.observability (.spanOpened d.spanName)
  let (finish, early) ← attempt d request
  let (result, late) ← conclude d started finish
  return (result, early ++ late)

theorem serve_eq (d : Dispatcher σ κ ν) (request : Request) :
    d.serve request = Prod.fst <$> serve d request := by
  simp only [Dispatcher.serve, serve, attempt_eq, conclude_eq, bind_map_left, map_bind,
    bind_pure_comp, Functor.map_map]

theorem withQueue_map (queue : List (Task σ κ)) (f : α → β) (m : Run σ κ α) :
    Run.withQueue queue (f <$> m) = Prod.map f id <$> Run.withQueue queue m := by
  funext s
  simp only [Run.withQueue, ← bind_pure_comp, Run.bind_apply, Run.pure_apply, Prod.map_apply, id_eq]

/-- Dispatches a request and audits the dispatch. -/
def dispatch (d : Dispatcher σ κ ν) (request : Request) :
    Run σ κ (Except Panic (Reply σ κ) × Audit) := do
  let ((served, audit), background) ← Run.withQueue [] (serve d request)
  return (served.map fun response => ⟨response, background⟩, audit)

/-- A dispatch is an audited one without the audit. -/
theorem dispatch_eq (d : Dispatcher σ κ ν) (request : Request) :
    d.dispatch request = Prod.fst <$> dispatch d request := by
  simp only [Dispatcher.dispatch, dispatch, serve_eq, withQueue_map, bind_map_left, map_bind,
    map_pure, Prod.map_fst, Prod.map_snd, id_eq]

/-! ## An endpoint -/

/-- Carries a plan out with audited dispatches. -/
def carryOut (dispatch : Request → Run σ κ (Except Panic (Reply σ κ) × Audit))
    (schedule : Schedule) :
    Plan σ κ → Nat → List (Detached σ κ) → Run σ κ (Except Panic Response × Audit)
  | .ended result, position, queues => do
    Detached.finishAll (← Detached.giveWay (schedule position) queues)
    return (result, [])
  | .act change resume, position, queues => do
    let queues ← Detached.giveWay (schedule position) queues
    fun session =>
      carryOut dispatch schedule (resume session.telemetry session.world) (position + 1) queues
        { session with world := change session.telemetry session.world }
  | .panicked rest, position, queues => do
    let queues ← Detached.giveWay (schedule position) queues
    carryOut dispatch schedule rest (position + 1) queues
  | .dispatch request resume, position, queues => do
    let queues ← Detached.giveWay (schedule position) queues
    match ← dispatch request with
    | (.error panic, audit) =>
      let (result, later) ←
        carryOut dispatch schedule (resume (.error panic)) (position + 1) queues
      return (result, audit ++ later)
    | (.ok reply, audit) =>
      let (result, later) ←
        carryOut dispatch schedule (resume (.ok reply.response)) (position + 1)
          (queues ++ reply.handedOver)
      return (result, audit ++ later)

/-- A plan is carried out as it is with audited dispatches. -/
theorem carryOut_eq {plain : Request → Run σ κ (Except Panic (Reply σ κ))}
    {audited : Request → Run σ κ (Except Panic (Reply σ κ) × Audit)}
    (h : ∀ request, plain request = Prod.fst <$> audited request) (schedule : Schedule)
    (plan : Plan σ κ) (position : Nat) (queues : List (Detached σ κ)) :
    plan.carryOut plain schedule position queues =
      Prod.fst <$> carryOut audited schedule plan position queues := by
  induction plan generalizing position queues with
  | ended result => simp only [Plan.carryOut, carryOut, map_bind, map_pure]
  | act change resume ih =>
    let rest (queues : List (Detached σ κ)) : Run σ κ (Except Panic Response × Audit) := fun s =>
      carryOut audited schedule (resume s.telemetry s.world) (position + 1) queues
        { s with world := change s.telemetry s.world }
    have hrest (queues : List (Detached σ κ)) : (fun s =>
        (resume s.telemetry s.world).carryOut plain schedule (position + 1) queues
          { s with world := change s.telemetry s.world }) = Prod.fst <$> rest queues := by
      funext s
      exact congrFun (ih s.telemetry s.world (position + 1) queues) _
    exact (bind_congr hrest).trans (map_bind ..).symm
  | panicked rest ih => simp only [Plan.carryOut, carryOut, map_bind, ih]
  | dispatch request resume ih =>
    simp only [Plan.carryOut, carryOut, h, bind_map_left, map_bind]
    refine bind_congr fun queues => bind_congr fun dispatched => ?_
    obtain ⟨_ | reply, audit⟩ := dispatched <;>
      simp only [ih, bind_pure_comp, Functor.map_map]

/-- Serves a request beside background actions and audits all dispatches made for it. -/
def handle (d : Dispatcher σ κ ν) (stack : List (Interceptor σ κ)) (schedule : Schedule)
    (request : Request) : Run σ κ (Except Panic Response × Audit) :=
  carryOut (dispatch d) schedule (Plan.ofStack stack request) 0 []

/-- An audited endpoint is the endpoint. -/
theorem handle_eq (d : Dispatcher σ κ ν) (stack : List (Interceptor σ κ)) (schedule : Schedule)
    (request : Request) :
    (Endpoint.new d stack).handle schedule request = Prod.fst <$> handle d stack schedule request :=
  carryOut_eq (dispatch_eq d) schedule _ 0 []

/-- An endpoint serves a request as it does with audited dispatches. -/
theorem handle_apply (d : Dispatcher σ κ ν) (stack : List (Interceptor σ κ)) (schedule : Schedule)
    (request : Request) (s : Session σ κ) :
    (Endpoint.new d stack).handle schedule request s =
      ⟨(handle d stack schedule request s).result.1, (handle d stack schedule request s).session,
        (handle d stack schedule request s).journal⟩ := by
  rw [handle_eq, ← bind_pure_comp, Run.bind_apply]
  simp only [Run.pure_apply, List.append_nil]

end Audit

end RequestDispatch
