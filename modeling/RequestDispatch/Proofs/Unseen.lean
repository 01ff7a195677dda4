import RequestDispatch.Proofs.Modes
import RequestDispatch.Proofs.Plans

/-!
# Modes are unseen

An endpoint whose code runs in other modes serves a request in the same way, as long as no code
panics: the response, the journal with the finalizer records, the world that all code leaves and the
failures of cleanups are the same. Part by part, `Dispatcher.Same` says what two dispatchers have in
common that differ in modes only, and the runs of each part are twins. `Dispatcher.modes_unseen`
puts them together for a dispatch inside its interceptors and for the background actions after it.
That a panic does tell the mode shows at the end.
-/

namespace RequestDispatch

variable {σ κ ν : Type}

/-! ## Shaping -/

/-- Chunks in other modes are pulled in the same way. -/
theorem pullFrom_twins (position : Nat) {chunks chunks' : List (Effect σ κ Bytes)}
    (h : chunks.map (Effect.recast .forget id) = chunks'.map (Effect.recast .forget id)) :
    Run.Twins id Eq (pullFrom position (chunks.map (Effect.recast .watch id)))
      (pullFrom position chunks) (pullFrom position chunks') := by
  induction chunks generalizing position chunks' with
  | nil =>
    obtain rfl := List.map_eq_nil_iff.mp h.symm
    exact .pure rfl rfl
  | cons chunk chunks ih =>
    obtain ⟨chunk', chunks', rfl, hchunk, hchunks⟩ := List.map_eq_cons_iff.mp h.symm
    refine .perform_bind hchunk.symm (fun bytes _ hbytes => ?_) (fun _ => .pure rfl rfl)
      fun _ _ => .pure rfl
    subst hbytes
    exact .bind_eq (ih (position + 1) hchunks.symm) fun _ => .pure rfl rfl

/-- Answers that differ in modes only are shaped in the same way. -/
theorem shape_twins (supported : List String) (view : RequestView) {output output' : Output σ κ}
    (h : output.recast .forget = output'.recast .forget) :
    Run.Twins id Eq (shape supported view (output.recast .watch)) (shape supported view output)
      (shape supported view output') := by
  -- both are of the same kind
  cases output <;> cases output' <;>
    simp only [Output.recast, reduceCtorEq, Output.response.injEq, Output.stream.injEq,
      Output.value.injEq, Output.withStatus.injEq] at h
  case response.response => exact .pure rfl (by rw [h])
  case value.value => exact .pure rfl (by rw [h])
  case withStatus.withStatus => exact .pure rfl (by rw [h.1, h.2])
  case empty.empty => exact .pure rfl rfl
  case stream.stream =>
    obtain ⟨rfl, rfl, hchunks⟩ := h
    refine .bind_eq (pullFrom_twins 0 hchunks) fun pulled => ?_
    cases pulled.contain .async <;> exact .pure rfl rfl

/-! ## Stages -/

namespace Dispatcher

/-- Intake hooks in other modes pass a request on, or stop it, in the same way. -/
theorem takeIn_twins (position : Nat) {hooks hooks' : List (IntakeHook σ κ)}
    (h : hooks.map (IntakeHook.recast .forget) = hooks'.map (IntakeHook.recast .forget))
    (request : Request) :
    Run.Twins id Eq (takeIn position (hooks.map (IntakeHook.recast .watch)) request)
      (takeIn position hooks request) (takeIn position hooks' request) := by
  induction hooks generalizing position request hooks' with
  | nil =>
    obtain rfl := List.map_eq_nil_iff.mp h.symm
    exact .pure rfl rfl
  | cons hook hooks ih =>
    obtain ⟨hook', hooks', rfl, hhook, hhooks⟩ := List.map_eq_cons_iff.mp h.symm
    have hcall : hook'.call request = hook.call request :=
      congrFun (congrArg IntakeHook.call hhook) request
    simp only [takeIn, hcall]
    refine .performAlone_bind (fun decision => ?_) (fun e => ?_) fun panic early => ?_
    · simp only [Completion.called_ok]
      cases decision with
      | forward next => exact ih _ hhooks.symm next
      | respond response => exact .pure rfl rfl
    · simp only [Completion.called_raised]
      exact .pure rfl rfl
    · simp only [Completion.called_panicked]
      exact .pure rfl

/-- Request hooks in other modes answer in the same way. -/
theorem consult_twins (view : RequestView) (position : Nat) {hooks hooks' : List (RequestHook σ κ)}
    (h : hooks.map (RequestHook.recast .forget) = hooks'.map (RequestHook.recast .forget)) :
    Run.Twins id Eq (consult view position (hooks.map (RequestHook.recast .watch)))
      (consult view position hooks) (consult view position hooks') := by
  induction hooks generalizing position hooks' with
  | nil =>
    obtain rfl := List.map_eq_nil_iff.mp h.symm
    exact .pure rfl rfl
  | cons hook hooks ih =>
    obtain ⟨hook', hooks', rfl, hhook, hhooks⟩ := List.map_eq_cons_iff.mp h.symm
    have hcall := congrFun (congrArg RequestHook.call hhook.symm) view
    refine .perform_bind hcall (fun answer _ hanswer => ?_) (fun e => ?_) fun panic early => ?_
    · subst hanswer
      simp only [Completion.called_ok]
      cases answer with
      | none => exact ih _ hhooks.symm
      | some response => exact .pure rfl rfl
    · simp only [Completion.called_raised]
      exact .pure rfl rfl
    · simp only [Completion.called_panicked]
      exact .pure rfl

/-- Response hooks in other modes change a response in the same way. -/
theorem polish_twins (view : RequestView) (position : Nat)
    {hooks hooks' : List (ResponseHook σ κ)}
    (h : hooks.map (ResponseHook.recast .forget) = hooks'.map (ResponseHook.recast .forget))
    (response : Response) :
    Run.Twins id Eq (polish view position (hooks.map (ResponseHook.recast .watch)) response)
      (polish view position hooks response) (polish view position hooks' response) := by
  induction hooks generalizing position hooks' response with
  | nil =>
    obtain rfl := List.map_eq_nil_iff.mp h.symm
    exact .pure rfl rfl
  | cons hook hooks ih =>
    obtain ⟨hook', hooks', rfl, hhook, hhooks⟩ := List.map_eq_cons_iff.mp h.symm
    have hcall := congrFun (congrFun (congrArg ResponseHook.call hhook.symm) view) response
    refine .perform_bind hcall (fun polished _ hpolished => ?_) (fun e => ?_)
      fun panic early => ?_
    · subst hpolished
      simp only [Completion.called_ok]
      exact ih _ hhooks.symm polished
    · simp only [Completion.called_raised]
      exact .pure rfl rfl
    · simp only [Completion.called_panicked]
      exact .pure rfl

/-- Dispatchers that differ in modes only, part by part. -/
structure Same (d d' : Dispatcher σ κ ν) : Prop where
  path : d.route.path = d'.route.path
  handler : d.route.handler.recast .forget = d'.route.handler.recast .forget
  params : d.route.params = d'.route.params
  dependencies : d.route.dependencies.map (Factory.recastSpec .forget) =
    d'.route.dependencies.map (Factory.recastSpec .forget)
  backgroundParam : d.route.backgroundParam = d'.route.backgroundParam
  mediaTypes : d.route.mediaTypes = d'.route.mediaTypes
  overrides : d.overrides.recast .forget = d'.overrides.recast .forget
  intakeHooks :
    d.intakeHooks.map (IntakeHook.recast .forget) = d'.intakeHooks.map (IntakeHook.recast .forget)
  requestHooks : d.requestHooks.map (RequestHook.recast .forget) =
    d'.requestHooks.map (RequestHook.recast .forget)
  responseHooks : d.responseHooks.map (ResponseHook.recast .forget) =
    d'.responseHooks.map (ResponseHook.recast .forget)
  errorHandlers : d.errorHandlers.recast .forget = d'.errorHandlers.recast .forget
  observability : d.observability = d'.observability
  settings : d.settings = d'.settings
  clock : d.clock = d'.clock

/-- Dispatchers that differ in modes only have the rest in common. -/
theorem same_of_recast {d d' : Dispatcher σ κ ν} (h : d.recast .forget = d'.recast .forget) :
    d.Same d' where
  path := congrArg (fun d => d.route.path) h
  handler := congrArg (fun d => d.route.handler) h
  params := congrArg (fun d => d.route.params) h
  dependencies := congrArg (fun d => d.route.dependencies) h
  backgroundParam := congrArg (fun d => d.route.backgroundParam) h
  mediaTypes := congrArg (fun d => d.route.mediaTypes) h
  overrides := congrArg Dispatcher.overrides h
  intakeHooks := congrArg Dispatcher.intakeHooks h
  requestHooks := congrArg Dispatcher.requestHooks h
  responseHooks := congrArg Dispatcher.responseHooks h
  errorHandlers := congrArg Dispatcher.errorHandlers h
  observability := (congrArg Dispatcher.observability h :)
  settings := (congrArg Dispatcher.settings h :)
  clock := (congrArg Dispatcher.clock h :)

section Stages

variable {d d' : Dispatcher σ κ ν}

namespace Same

theorem supported (h : d.Same d') : d.supported = d'.supported := by
  rw [Dispatcher.supported, Dispatcher.supported, h.mediaTypes, h.settings]

theorem view (h : d.Same d') (request : Request) : d.view request = d'.view request := by
  rw [Dispatcher.view, Dispatcher.view, Route.pathNames, Route.pathNames, h.path]

theorem given (h : d.Same d') (products : Fields (Product ν)) :
    d.given products = d'.given products := by
  rw [Dispatcher.given, Dispatcher.given, h.backgroundParam]

theorem spanName (h : d.Same d') : d.spanName = d'.spanName := by
  rw [Dispatcher.spanName, Dispatcher.spanName, h.settings]

end Same

/-- The handler and what follows it are the same in other modes. -/
theorem produce_twins (h : d.Same d') (arguments : Arguments ν) :
    Run.Twins id Eq ((d.recast .watch).produce arguments) (d.produce arguments)
      (d'.produce arguments) := by
  have hcall := congrFun (congrArg Handler.call h.handler) arguments
  refine .perform_bind hcall (fun output output' houtput => ?_) (fun e => ?_) fun panic early => ?_
  · have hshape := shape_twins d.supported arguments.request houtput
    simp only [Completion.called_ok, ← h.supported]
    refine .bind_eq hshape fun shaped => ?_
    cases shaped with
    | error e => exact .pure rfl rfl
    | ok response => exact polish_twins _ _ h.responseHooks response
  · simp only [Completion.called_raised]
    exact .pure rfl rfl
  · simp only [Completion.called_panicked]
    exact .pure rfl

end Stages

end Dispatcher

namespace Audit

variable {d d' : Dispatcher σ κ ν}

/-- The stages after the intake hooks are the same in other modes, with what they leave to be
released. -/
theorem stages_twins (h : d.Same d') (view : RequestView) :
    Run.Twins (Prod.map (Prod.map id (Context.recast .watch)) id)
      (fun r r' => r.1.1 = r'.1.1 ∧ r.1.2.recast .forget = r'.1.2.recast .forget ∧ r.2 = r'.2)
      (stages (d.recast .watch) view) (stages d view) (stages d' view) := by
  refine .bind_eq (Dispatcher.consult_twins view 0 h.requestHooks) fun consulted => ?_
  obtain failure | _ | response := consulted
  · exact .pure rfl ⟨rfl, rfl, rfl⟩
  · have hctx : (Context.new view : Context σ κ ν).recast .forget =
        (Context.new view).recast .forget := rfl
    have hresolve :=
      resolve_twins h.overrides d.settings.maxDependencyDepth h.dependencies hctx
    simp only [← h.settings, ← h.params]
    refine .bind hresolve (fun _ => ⟨rfl, rfl⟩) fun resolved resolved' hsame => ?_
    obtain ⟨⟨result, ctx⟩, audit⟩ := resolved
    obtain ⟨⟨result', ctx'⟩, audit'⟩ := resolved'
    obtain ⟨hresolved, rfl⟩ := hsame
    obtain ⟨rfl, hctx⟩ := resolvedSame_iff.mp hresolved
    cases result with
    | error e => exact .pure rfl ⟨rfl, hctx, rfl⟩
    | ok products =>
      have hvalidate : validate (d.recast .watch).route.params view =
        validate d.route.params view := rfl
      simp only [Prod.map_apply, id_eq, hvalidate]
      rcases validate d.route.params view with errors | values
      · exact .pure rfl ⟨rfl, hctx, rfl⟩
      · simp only [← h.given]
        exact .bind_eq (Dispatcher.produce_twins h _) fun _ => .pure rfl ⟨rfl, hctx, rfl⟩
  · exact .pure rfl ⟨rfl, rfl, rfl⟩

/-- Passages that differ in modes only. -/
structure PassageSame (p p' : Dispatcher.Passage σ κ ν) : Prop where
  request : p.request = p'.request
  result : p.result = p'.result
  context : p.context.recast .forget = p'.context.recast .forget

/-- All stages together are the same in other modes. -/
theorem pass_twins (h : d.Same d') (request : Request) :
    Run.Twins (Prod.map (Dispatcher.Passage.recast .watch) id)
      (fun r r' => PassageSame r.1 r'.1 ∧ r.2 = r'.2)
      (pass (d.recast .watch) request) (pass d request) (pass d' request) := by
  refine .bind_eq (Dispatcher.takeIn_twins 0 h.intakeHooks request) fun taken => ?_
  obtain ⟨request, _ | result⟩ := taken
  · simp only [← h.view]
    refine .bind (stages_twins h (d.view request)) (fun _ => ⟨rfl, rfl, rfl⟩)
      fun staged staged' hsame => ?_
    obtain ⟨hresult, hctx, haudit⟩ := hsame
    exact .pure rfl ⟨⟨rfl, hresult, hctx⟩, haudit⟩
  · simp only [← h.view]
    exact .pure rfl ⟨⟨rfl, rfl, rfl⟩, rfl⟩

end Audit

/-! ## Answers and the report -/

namespace Dispatcher

variable {d d' : Dispatcher σ κ ν}

/-- A failure is answered in the same way in other modes. -/
theorem answer_twins (h : d.Same d') (view : RequestView) (failure : StageFailure) :
    Run.Twins id Eq ((d.recast .watch).answer view failure) (d.answer view failure)
      (d'.answer view failure) := by
  have hlookup := d'.errorHandlers.lookup_recast .forget failure.error.errorClass
  rw [← h.errorHandlers, ErrorHandlers.lookup_recast] at hlookup
  have hwatched : (d.recast .watch).errorHandlers.lookup failure.error.errorClass =
      (d.errorHandlers.lookup failure.error.errorClass).map (ErrorHandler.recast .watch) :=
    d.errorHandlers.lookup_recast .watch _
  simp only [answer, hwatched]
  cases hhandler : d.errorHandlers.lookup failure.error.errorClass with
  | none =>
    rw [hhandler] at hlookup
    rw [Option.map_eq_none_iff.mp hlookup.symm]
    exact .pure rfl rfl
  | some handler =>
    rw [hhandler] at hlookup
    obtain ⟨handler', hhandler', heq⟩ := Option.map_eq_some_iff.mp hlookup.symm
    have hclass : handler'.errorClass = handler.errorClass :=
      (congrArg ErrorHandler.errorClass heq :)
    have hcall := congrFun (congrFun (congrArg ErrorHandler.call heq.symm) view) failure.error
    simp only [hhandler', Option.map_some, hclass]
    refine .perform_bind hcall (fun output output' houtput => ?_) (fun e => ?_)
      fun panic early => ?_
    · have hshape := shape_twins d.supported view houtput
      simp only [Completion.called_ok, ← h.supported]
      refine .bind_eq hshape fun shaped => ?_
      cases shaped <;> exact .pure rfl rfl
    · simp only [Completion.called_raised]
      exact .pure rfl rfl
    -- a panic of the handler is all that watching would tell
    · have hmode : (handler.recast .watch).mode = handler.mode := rfl
      simp only [Completion.called_panicked, hmode]
      cases panic.stop handler.mode early <;> exact .pure rfl

/-- A passage gets the same response in other modes. -/
theorem respond_twins (h : d.Same d') {p p' : Passage σ κ ν} (hp : Audit.PassageSame p p') :
    Run.Twins id Eq ((d.recast .watch).respond (p.recast .watch)) (d.respond p)
      (d'.respond p') := by
  obtain ⟨request, result, context⟩ := p
  obtain ⟨request', result', context'⟩ := p'
  obtain ⟨rfl, rfl, hcontext⟩ := hp
  obtain (failure | panic) | response := result
  · simp only [respond, Passage.recast, ← h.view]
    exact answer_twins h _ failure
  · exact .pure rfl rfl
  · exact .pure rfl rfl

theorem notifyAll_twins (o : Observability σ κ) (notices : List Notice) :
    Run.Twins id Eq (notifyAll (o.recast .watch) notices) (notifyAll o notices)
      (notifyAll o notices) := by
  induction notices with
  | nil => exact .pure rfl rfl
  | cons notice notices ih => exact .bind_eq (.notify o notice) fun _ => ih

/-- A report does not depend on what remains to be released. -/
theorem report_twins (h : d.Same d') (request : Request) (response : Response)
    (reason : Option String) (ctx ctx' : Context σ κ ν) (duration : Nat) :
    Run.Twins id Eq
      ((d.recast .watch).report ⟨request, response, reason, ctx.recast .watch⟩ duration)
      (d.report ⟨request, response, reason, ctx⟩ duration)
      (d'.report ⟨request, response, reason, ctx'⟩ duration) := by
  have hnotices : d'.notices ⟨request, response, reason, ctx'⟩ duration =
      d.notices ⟨request, response, reason, ctx⟩ duration := by
    simp only [notices, record, ← h.path, ← h.spanName]
  rw [report_eq, report_eq, report_eq, ← h.observability, hnotices]
  exact notifyAll_twins d.observability _

end Dispatcher

/-! ## A dispatch -/

namespace Audit

variable {d d' : Dispatcher σ κ ν}

/-- What is known at the end of the stages, up to modes. -/
def FinishSame (finish finish' : Except Panic (Dispatcher.Finish σ κ ν)) : Prop :=
  finish.map (Dispatcher.Finish.recast .forget) = finish'.map (Dispatcher.Finish.recast .forget)

/-- The stages with the answer to their failure are the same in other modes. -/
theorem attempt_twins (h : d.Same d') (request : Request) :
    Run.Twins (Prod.map (Except.map (Dispatcher.Finish.recast .watch)) id)
      (fun r r' => FinishSame r.1 r'.1 ∧ r.2 = r'.2)
      (attempt (d.recast .watch) request) (attempt d request) (attempt d' request) := by
  refine .bind (pass_twins h request) (fun _ => ⟨⟨rfl, rfl, rfl⟩, rfl⟩)
    fun passed passed' hsame => ?_
  obtain ⟨passage, early⟩ := passed
  obtain ⟨passage', early'⟩ := passed'
  obtain ⟨hpassage, rfl⟩ := hsame
  refine .bind_eq (Dispatcher.respond_twins h hpassage) fun given => ?_
  obtain ⟨request, result, ctx⟩ := passage
  obtain ⟨request', result', ctx'⟩ := passage'
  obtain ⟨rfl, rfl, hctx⟩ := hpassage
  cases hsettled : given.bind Dispatcher.settled with
  | error panic => exact .pure rfl ⟨rfl, rfl⟩
  | ok response =>
    refine .pure rfl ⟨?_, rfl⟩
    simp only [FinishSame, Except.map, Dispatcher.Finish.recast, hctx]
    rfl

/-- A dispatch ends in the same way in other modes, and its cleanups do. -/
theorem conclude_twins (h : d.Same d') (started : Nat)
    {finish finish' : Except Panic (Dispatcher.Finish σ κ ν)}
    (hfinish : FinishSame finish finish') :
    Run.Twins id Eq
      (conclude (d.recast .watch) started (finish.map (Dispatcher.Finish.recast .watch)))
      (conclude d started finish) (conclude d' started finish') := by
  cases finish with
  | error panic =>
    cases finish' with
    | error panic' =>
      obtain rfl := Except.error.inj hfinish
      simp only [conclude, ← h.observability, ← h.spanName]
      exact .bind_eq (.notify d.observability _) fun _ => .pure rfl rfl
    | ok finish' => cases hfinish
  | ok finish =>
    cases finish' with
    | error panic' => cases hfinish
    | ok finish' =>
      obtain ⟨request, response, reason, ctx⟩ := finish
      obtain ⟨request', response', reason', ctx'⟩ := finish'
      obtain ⟨rfl, rfl, rfl, hctx⟩ := Dispatcher.Finish.mk.inj (Except.ok.inj hfinish)
      have hpending := congrArg (fun ctx => ctx.cleanup.pending) hctx
      simp only [Context.cleanup_recast] at hpending
      simp only [conclude, ← h.clock]
      refine .bind_eq (.look d.clock) fun ended => ?_
      refine .bind_eq (Dispatcher.report_twins h _ _ _ _ _ _) fun _ => ?_
      exact .bind_eq (ofPending_twins hpending) fun late => .pure rfl rfl

/-- A request is served in the same way in other modes, up to the background actions. -/
theorem serve_twins (h : d.Same d') (request : Request) :
    Run.Twins id Eq (serve (d.recast .watch) request) (serve d request) (serve d' request) := by
  simp only [serve, ← h.clock, ← h.observability, ← h.spanName]
  refine .bind_eq (.look d.clock) fun started => .bind_eq (.notify d.observability _) fun _ => ?_
  refine .bind (attempt_twins h request) (fun _ => ⟨rfl, rfl⟩) fun attempted attempted' hsame => ?_
  obtain ⟨finish, early⟩ := attempted
  obtain ⟨finish', early'⟩ := attempted'
  obtain ⟨hfinish, rfl⟩ := hsame
  exact .bind_eq (conclude_twins h started hfinish) fun concluded => .pure rfl rfl

/-- The same audit and the same result, up to the modes of background actions. -/
structure ReplySame (r r' : Except Panic (Reply σ κ) × Audit) : Prop where
  result : r.1.map (Reply.recast .forget) = r'.1.map (Reply.recast .forget)
  audit : r.2 = r'.2

/-- A dispatch in other modes gives the same response, and the same actions to be run. -/
theorem dispatch_twins (h : d.Same d') (request : Request) :
    Run.Twins (Prod.map (Except.map (Reply.recast .watch)) id) ReplySame
      (dispatch (d.recast .watch) request) (dispatch d request) (dispatch d' request) := by
  have hempty : ([] : List (Task σ κ)).map (Task.recast .forget) = [].map (Task.recast .forget) :=
    rfl
  refine .bind (.withQueue hempty (serve_twins h request)) (fun _ => ⟨rfl, rfl⟩)
    fun served served' hsame => ?_
  obtain ⟨⟨result, audit⟩, background⟩ := served
  obtain ⟨⟨result', audit'⟩, background'⟩ := served'
  obtain ⟨hresult, hbackground⟩ := hsame
  obtain ⟨rfl, rfl⟩ := Prod.mk.inj hresult
  cases result with
  | error panic => exact .pure rfl ⟨rfl, rfl⟩
  | ok response =>
    refine .pure rfl ⟨?_, rfl⟩
    simp only [Except.map, Reply.recast] at hbackground ⊢
    rw [hbackground]

end Audit

/-! ## Background actions -/

namespace Detached

/-- Queues that differ in the modes of their actions only. -/
abbrev Same (queue queue' : Detached σ κ) : Prop :=
  queue.recast .forget = queue'.recast .forget

/-- The next action of a queue is run in the same way in other modes. -/
theorem advance_twins {queue queue' : Detached σ κ} (h : queue.Same queue') :
    Run.Twins (recast .watch) Same (queue.recast .watch).advance queue.advance queue'.advance := by
  obtain ⟨position, scheduled, late⟩ := queue
  obtain ⟨position', scheduled', late'⟩ := queue'
  obtain ⟨rfl, hscheduled, hlate⟩ := Detached.mk.inj h
  cases scheduled with
  | nil =>
    obtain rfl := List.map_eq_nil_iff.mp hscheduled.symm
    exact .pure rfl h
  | cons task tasks =>
    obtain ⟨task', tasks', rfl, htask, htasks⟩ := List.map_eq_cons_iff.mp hscheduled.symm
    have hrun := congrArg Task.run htask.symm
    rw [Task.run_recast, Task.run_recast] at hrun
    -- whatever becomes of the action, it is over then
    have hover := Run.Twins.enter (σ := σ) (κ := κ) (.backgroundFinished position)
    have hcode : Run.Twins id Eq
        (Run.perform (.backgroundStarted position) (task.run.recast .watch id) >>= fun _ =>
          Run.enter (.backgroundFinished position))
        (Run.perform (.backgroundStarted position) task.run >>= fun _ =>
          Run.enter (.backgroundFinished position))
        (Run.perform (.backgroundStarted position) task'.run >>= fun _ =>
          Run.enter (.backgroundFinished position)) :=
      .perform_bind hrun (fun _ _ _ => hover) (fun _ => hover) fun _ _ => hover.watches
    simp only [advance, recast, List.map_cons, Task.run_recast]
    refine .bind (.withQueue hlate hcode) (fun _ => ⟨rfl, rfl⟩) fun left left' hsame => ?_
    refine .pure rfl ?_
    simp only [Same, recast, hsame.2, htasks]

theorem advanceBy_twins (count : Nat) {queue queue' : Detached σ κ} (h : queue.Same queue') :
    Run.Twins (recast .watch) Same ((queue.recast .watch).advanceBy count) (queue.advanceBy count)
      (queue'.advanceBy count) := by
  induction count generalizing queue queue' with
  | zero => exact .pure rfl h
  | succ count ih => exact .bind (advance_twins h) (fun _ => rfl) fun _ _ => ih

/-- All that is left of a queue is run in the same way in other modes. -/
theorem finish_twins {queue queue' : Detached σ κ} (h : queue.Same queue') :
    Run.Twins (recast .watch) Same (queue.recast .watch).finish queue.finish queue'.finish := by
  have hscheduled := congrArg (fun queue => queue.scheduled.length) h
  simp only [recast, List.length_map] at hscheduled
  have htwins := advanceBy_twins queue.scheduled.length h
  simp only [finish, ← hscheduled]
  rwa [show (queue.recast .watch).scheduled.length = queue.scheduled.length from List.length_map ..]

/-- Queues that differ in the modes of their actions only, one by one. -/
abbrev AllSame (queues queues' : List (Detached σ κ)) : Prop :=
  queues.map (recast .forget) = queues'.map (recast .forget)

/-- Queues go on by the same turns in other modes. -/
theorem giveWay_twins (turns : List Nat) {queues queues' : List (Detached σ κ)}
    (h : AllSame queues queues') :
    Run.Twins (List.map (recast .watch)) AllSame (giveWay turns (queues.map (recast .watch)))
      (giveWay turns queues) (giveWay turns queues') := by
  induction turns generalizing queues queues' with
  | nil => exact .pure rfl h
  | cons turn turns ih =>
    have hturn : queues[turn]?.map (recast .forget) = queues'[turn]?.map (recast .forget) := by
      rw [← List.getElem?_map, ← List.getElem?_map, h]
    simp only [giveWay, List.getElem?_map]
    cases hqueue : queues[turn]? with
    | none =>
      rw [hqueue] at hturn
      rw [Option.map_eq_none_iff.mp hturn.symm]
      exact ih h
    | some queue =>
      rw [hqueue] at hturn
      obtain ⟨queue', hqueue', heq⟩ := Option.map_eq_some_iff.mp hturn.symm
      simp only [hqueue', Option.map_some]
      refine .bind (advance_twins heq.symm) (fun _ => rfl) fun next next' hnext => ?_
      rw [← List.map_set]
      refine ih ?_
      rw [AllSame, List.map_set, List.map_set, h, hnext]

/-- All that is left of the queues is run in the same way in other modes. -/
theorem finishAll_twins {queues queues' : List (Detached σ κ)} (h : AllSame queues queues') :
    Run.Twins id Eq (finishAll (queues.map (recast .watch))) (finishAll queues)
      (finishAll queues') := by
  induction queues generalizing queues' with
  | nil =>
    obtain rfl := List.map_eq_nil_iff.mp h.symm
    exact .pure rfl rfl
  | cons queue queues ih =>
    obtain ⟨queue', queues', rfl, hqueue, hqueues⟩ := List.map_eq_cons_iff.mp h.symm
    exact .bind (finish_twins hqueue.symm) (fun _ => rfl) fun _ _ _ => ih hqueues.symm

end Detached

/-- A dispatch hands its queue over before or after it is recast. -/
theorem Reply.handedOver_recast {τ : Type} (r : Recast σ τ) (reply : Reply σ κ) :
    (reply.recast r).handedOver = reply.handedOver.map (Detached.recast r) := by
  obtain ⟨response, _ | ⟨task, tasks⟩⟩ := reply <;> rfl

/-! ## Endpoints -/

namespace Audit

variable {d d' : Dispatcher σ κ ν}

/-- However a plan goes on, it can be watched. -/
theorem carryOut_watches
    {watched : Request → Run (Watched σ) κ (Except Panic (Reply (Watched σ) κ) × Audit)}
    {dispatch : Request → Run σ κ (Except Panic (Reply σ κ) × Audit)}
    (h : ∀ request, Run.Watches (Prod.map (Except.map (Reply.recast .watch)) id) (watched request)
      (dispatch request))
    (schedule : Schedule) (plan : Plan σ κ) (position : Nat) (queues : List (Detached σ κ)) :
    Run.Watches id
      (carryOut watched schedule plan.watched position (queues.map (Detached.recast .watch)))
      (carryOut dispatch schedule plan position queues) := by
  induction plan generalizing position queues with
  | ended result =>
    refine .bind (Detached.giveWay_twins _ rfl).watches fun queues => ?_
    exact .bind (Detached.finishAll_twins rfl).watches fun _ => .pure rfl
  | act change resume ih =>
    refine .bind (Detached.giveWay_twins _ rfl).watches fun queues => ?_
    exact .act change fun telemetry world => ih telemetry world (position + 1) queues
  | panicked rest ih =>
    refine .bind (Detached.giveWay_twins _ rfl).watches fun queues => ?_
    exact .marked (ih (position + 1) queues)
  | dispatch request resume ih =>
    simp only [Plan.watched, carryOut]
    refine .bind (Detached.giveWay_twins _ rfl).watches fun queues => ?_
    refine .bind (h request) fun dispatched => ?_
    obtain ⟨panic | reply, audit⟩ := dispatched
    · exact .bind (ih (.error panic) (position + 1) queues) fun _ => .pure rfl
    · simp only [Prod.map_apply, Except.map, Reply.handedOver_recast, ← List.map_append]
      exact .bind (ih (.ok reply.response) (position + 1) _) fun _ => .pure rfl

end Audit

/-! ## What is unseen -/

namespace Dispatcher

/-- A watched endpoint serving a request. -/
def handleWatched (d : Dispatcher σ κ ν) (stack : List (Interceptor σ κ)) (schedule : Schedule)
    (request : Request) : Run (Watched σ) κ (Except Panic Response) :=
  (Plan.ofStack stack request).watched.carryOut (d.recast .watch).dispatch schedule 0 []

/-- Whether code panics while an endpoint serves a request: by itself, or because a panic goes
through an interceptor. -/
def panics (d : Dispatcher σ κ ν) (stack : List (Interceptor σ κ)) (schedule : Schedule)
    (request : Request) (s : Session σ κ) : Bool :=
  (d.handleWatched stack schedule request).panics s

/-- A watched endpoint does what the endpoint does. -/
theorem handle_watched (d : Dispatcher σ κ ν) (stack : List (Interceptor σ κ)) (schedule : Schedule)
    (request : Request) :
    Run.Watches id (d.handleWatched stack schedule request)
      ((Endpoint.new d stack).handle schedule request) := by
  have same : d.Same d := same_of_recast rfl
  have audited :=
    Audit.carryOut_watches (fun request => (Audit.dispatch_twins same request).watches)
    schedule (Plan.ofStack stack request) 0 []
  rw [handleWatched, Audit.handle_eq, Audit.carryOut_eq (Audit.dispatch_eq _)]
  exact audited.bind fun _ => .pure rfl

end Dispatcher

/-! ## An endpoint in two modes -/

/-- A dispatcher whose handler panics in a mode. -/
def panickingDispatcher (mode : Mode) : Dispatcher Unit Unit Unit :=
  .new (Route.new "GET" "/" ⟨mode, fun _ _ world => (.error (.panicked .other false), world, [])⟩)

/-- A panic is seen: the record tells in which mode the code ran. -/
example :
    ((Endpoint.new (panickingDispatcher .blocking) []).handle (fun _ => [])
        (.new "GET" "/") ⟨(), (), []⟩).journal ≠
      ((Endpoint.new (panickingDispatcher .async) []).handle (fun _ => [])
        (.new "GET" "/") ⟨(), (), []⟩).journal := by
  decide +kernel

end RequestDispatch
