import RequestDispatch.Proofs.Bodiless
import RequestDispatch.Proofs.MediaTypes
import RequestDispatch.Proofs.Refusal

/-!
# Errors with the default answer

The default answer to an error depends on the stage that the error is said to come from. `Raises`
lists where the errors of the stages are raised, and `Defaults` which errors get the default answer:
the error of a failed stage that no handler claims, and an error that arises while a handler answers
one, which is taken for an error of that stage. `Dispatcher.dispatch_reports_refusals` says what
becomes of the refusals of dependencies among them.
-/

namespace RequestDispatch

namespace Dispatcher

variable {σ κ ν : Type}

/-! ## Errors of the stages -/

/-- A factory that is called in resolving the dependencies raises an error, or its outcome does. -/
def Refused (d : Dispatcher σ κ ν) (request : Request) (s : Session σ κ) (e : DispatchError) :
    Prop :=
  ∃ (t : Step σ κ Request) (i : Invocation σ κ ν), Admitted d request (d.opened s) t ∧
    Resolver.Invokes d.overrides d.settings.maxDependencyDepth d.settings.maxDependencyDepth []
      d.route.dependencies (.new (d.view t.result)) t.session i ∧
        i.Fails (.failed e)

/-- A stage of a dispatch fails with an error that is raised there. -/
inductive Raises (d : Dispatcher σ κ ν) (request : Request) (s : Session σ κ) :
    StageFailure → Prop where
  /-- An intake hook raises it. -/
  | intakeHook {request' : Request} {e : DispatchError}
      {t : Step σ κ (Request × Option (Except (Stop StageFailure) Response))}
      (intake : InTurn intakeCall 0 d.intakeHooks request (d.opened s) t)
      (ht : t.result = (request', some (.error (.failed ⟨.preHook, e⟩)))) :
      Raises d request s ⟨.preHook, e⟩
  /-- A request hook raises it. -/
  | requestHook {request' : Request} {e : DispatchError}
      {t : Step σ κ (Request × Option (Except (Stop StageFailure) Response))}
      {u : Step σ κ (Unit × Option (Except (Stop StageFailure) Response))}
      (intake : InTurn intakeCall 0 d.intakeHooks request (d.opened s) t)
      (ht : t.result = (request', none))
      (consult : InTurn (requestCall (d.view request')) 0 d.requestHooks () t.session u)
      (hu : u.result = ((), some (.error (.failed ⟨.preHook, e⟩)))) :
    Raises d request s ⟨.preHook, e⟩
  /-- A factory raises it, or its outcome does. -/
  | factory {e : DispatchError} (refused : d.Refused request s e) :
    Raises d request s ⟨.resolution, e⟩
  /-- A chain of factories repeats or is too long. -/
  | chain {request' : Request} {e : DispatchError} {ctx : Context σ κ ν}
      {t : Step σ κ (Request × Resolved σ κ ν (Fields (Product ν)))}
      (resolves : Resolves d request (d.opened s) t)
      (ht : t.result = (request', .error (.failed e), ctx))
      (unresolvable : Unresolvable d.settings.maxDependencyDepth e) :
      Raises d request s ⟨.resolution, e⟩
  /-- A parameter is not valid. -/
  | parameter {request' : Request} {products : Fields (Product ν)} {ctx : Context σ κ ν}
      {errors : List FieldError} {t : Step σ κ (Request × Resolved σ κ ν (Fields (Product ν)))}
      (resolves : Resolves d request (d.opened s) t) (ht : t.result = (request', .ok products, ctx))
      (invalid : validate d.route.params (d.view request') = .error errors) :
      Raises d request s ⟨.validation, .validation errors⟩
  /-- The handler raises it. -/
  | handler {request' : Request} {ctx : Context σ κ ν} {e : DispatchError}
      {t : Step σ κ (Request × Context σ κ ν × Except (Stop DispatchError) (Output σ κ))}
      (handles : Handles d request (d.opened s) t)
      (ht : t.result = (request', ctx, .error (.failed e))) :
      Raises d request s ⟨.handler, e⟩
  /-- A chunk of the handler's stream raises it. -/
  | chunk {request' : Request} {ctx : Context σ κ ν} {status : Status} {mediaType : String}
      {chunks : List (Effect σ κ Bytes)} {e : DispatchError}
      {t : Step σ κ (Request × Context σ κ ν × Except (Stop DispatchError) (Output σ κ))}
      (handles : Handles d request (d.opened s) t)
      (ht : t.result = (request', ctx, .ok (.stream status mediaType chunks)))
      (pulled : (pullFrom 0 chunks t.session).result.contain .async = .error e) :
      Raises d request s ⟨.shaping, e⟩
  /-- The media type of the answer is no header value. -/
  | mediaType {request' : Request} {ctx : Context σ κ ν} {text : String}
      {t : Step σ κ (Request × Context σ κ ν × Except DispatchError Response)}
      (shapes : Shapes d request (d.opened s) t)
      (ht : t.result = (request', ctx, .error (.internal (.invalidMediaType text)))) :
      Raises d request s ⟨.shaping, .internal (.invalidMediaType text)⟩
  /-- A response hook raises it. -/
  | responseHook {request' : Request} {ctx : Context σ κ ν} {before after : Response}
      {e : DispatchError} {t : Step σ κ (Request × Context σ κ ν × Except DispatchError Response)}
      {u : Step σ κ (Response × Option (Stop StageFailure))}
      (shapes : Shapes d request (d.opened s) t) (ht : t.result = (request', ctx, .ok before))
      (polish : InTurn (responseCall (d.view request')) 0 d.responseHooks before t.session u)
      (hu : u.result = (after, some (.failed ⟨.postHook, e⟩))) : Raises d request s ⟨.postHook, e⟩

section Stages

variable {d : Dispatcher σ κ ν} {request : Request} {s : Session σ κ}

/-- The stages that follow the hooks before the dependencies. -/
def afterHooks (d : Dispatcher σ κ ν) (view : RequestView) :
    Run σ κ (Except (Stop StageFailure) Response × Context σ κ ν) := do
  match ← resolve d.overrides d.settings.maxDependencyDepth d.route.dependencies (.new view) with
  | (.error stop, ctx) => return (.error (stop.map (.mk .resolution)), ctx)
  | (.ok products, ctx) =>
    match validate d.route.params view with
    | .error errors => return (.error (.failed ⟨.validation, .validation errors⟩), ctx)
    | .ok values => return (← d.produce ⟨values, d.given products, view⟩, ctx)

/-- The stages are the request hooks and what follows them. -/
theorem stages_eq (d : Dispatcher σ κ ν) (view : RequestView) :
    d.stages view = (do
      match ← consult view 0 d.requestHooks with
      | .error failure => return (.error failure, .new view)
      | .ok (some response) => return (.ok response, .new view)
      | .ok none => d.afterHooks view) :=
  rfl

/-- An admitted request goes through the other stages. -/
theorem Admitted.pass_apply {t : Step σ κ Request} (h : Admitted d request s t) :
    d.pass request s =
      let u := d.afterHooks (d.view t.result) t.session
      ⟨⟨t.result, u.result.1, u.result.2⟩, u.session, t.journal ++ u.journal⟩ := by
  obtain ⟨intake, ht, consult, hu⟩ := h
  have htake := (takeIn_inTurn 0 d.intakeHooks request s).unique intake
  obtain ⟨v, hv, hconsult⟩ := consult_inTurn (d.view _) 0 d.requestHooks _
  obtain rfl := hv.unique consult
  simp [Dispatcher.pass, stages_eq, Run.bind_apply, htake, ht, hconsult, hu, consulted]

theorem Admitted.pass {t : Step σ κ Request} (h : Admitted d request s t) :
    (d.pass request s).result.result = (d.afterHooks (d.view t.result) t.session).result.1 := by
  rw [h.pass_apply]

theorem Resolves.pass_error {request' : Request} {e : DispatchError} {ctx : Context σ κ ν}
    {t : Step σ κ (Request × Resolved σ κ ν (Fields (Product ν)))} (h : Resolves d request s t)
    (ht : t.result = (request', .error (.failed e), ctx)) :
    (d.pass request s).result.result = .error (.failed ⟨.resolution, e⟩) := by
  obtain ⟨admitted, rfl⟩ := h
  obtain ⟨-, hresolve⟩ := Prod.mk.inj ht
  simp [admitted.pass, afterHooks, hresolve, Stop.map]

theorem Resolves.pass_invalid {request' : Request} {products : Fields (Product ν)}
    {ctx : Context σ κ ν} {errors : List FieldError}
    {t : Step σ κ (Request × Resolved σ κ ν (Fields (Product ν)))} (h : Resolves d request s t)
    (ht : t.result = (request', .ok products, ctx))
    (invalid : validate d.route.params (d.view request') = .error errors) :
    (d.pass request s).result.result = .error (.failed ⟨.validation, .validation errors⟩) := by
  obtain ⟨admitted, rfl⟩ := h
  obtain ⟨rfl, hresolve⟩ := Prod.mk.inj ht
  simp [admitted.pass, afterHooks, hresolve, invalid]

/-- The stages that follow shaping. -/
def afterShaping (d : Dispatcher σ κ ν) (view : RequestView) :
    Except DispatchError Response → Run σ κ (Except (Stop StageFailure) Response)
  | .error e => pure (.error (.failed ⟨.shaping, e⟩))
  | .ok response => polish view 0 d.responseHooks response

/-- The stages that follow the handler. -/
def afterHandler (d : Dispatcher σ κ ν) (view : RequestView) :
    Except (Stop DispatchError) (Output σ κ) → Run σ κ (Except (Stop StageFailure) Response)
  | .error stop => pure (.error (stop.map (.mk .handler)))
  | .ok output => shape d.supported view output >>= d.afterShaping view

theorem produce_eq (d : Dispatcher σ κ ν) (arguments : Arguments ν) :
    d.produce arguments =
      Run.perform .handler (d.route.handler.call arguments) >>= fun completion =>
        d.afterHandler arguments.request (completion.called d.route.handler.mode) :=
  rfl

/-- The stages from the answer of the handler on. -/
theorem Handles.pass_apply
    {t : Step σ κ (Request × Context σ κ ν × Except (Stop DispatchError) (Output σ κ))}
    (h : Handles d request s t) :
    d.pass request s =
      let u := d.afterHandler (d.view t.result.1) t.result.2.2 t.session
      ⟨⟨t.result.1, u.result, t.result.2.1⟩, u.session, t.journal ++ u.journal⟩ := by
  obtain ⟨⟨admitted, rfl⟩, ht, valid, rfl⟩ := h
  obtain ⟨rfl, hresolve⟩ := Prod.mk.inj ht
  simp [admitted.pass_apply, afterHooks, Run.bind_apply, hresolve, valid, produce_eq]

theorem Handles.pass
    {t : Step σ κ (Request × Context σ κ ν × Except (Stop DispatchError) (Output σ κ))}
    (h : Handles d request s t) :
    (d.pass request s).result.result =
      (d.afterHandler (d.view t.result.1) t.result.2.2 t.session).result := by
  rw [h.pass_apply]

theorem Shapes.pass
    {t : Step σ κ (Request × Context σ κ ν × Except DispatchError Response)}
    (h : Shapes d request s t) :
    (d.pass request s).result.result =
      (d.afterShaping (d.view t.result.1) t.result.2.2 t.session).result := by
  obtain ⟨handles, ht, rfl⟩ := h
  rw [handles.pass, ht]
  simp [afterHandler]

section Resolution

variable {chain : OverrideChain σ κ ν} {limit : Nat} {specs : List (DependencySpec σ κ ν)}
  {ctx : Context σ κ ν} {s : Session σ κ} {e : DispatchError}

/-- A failed call fails the resolution. -/
theorem refuses_failed {i : Invocation σ κ ν}
    (invokes : Resolver.Invokes chain limit limit [] specs ctx s i) (fails : i.Fails (.failed e)) :
    ∃ ctx', (resolve chain limit specs ctx s).result = (.error (.failed e), ctx') := by
  have refuses := (Resolver.refuses chain limit).each limit [] specs .empty ctx s
  refine ⟨_, Prod.ext ?_ rfl⟩
  rw [resolve_result]
  exact refuses.failed i _ invokes fails

/-- A resolution fails with a failed call, or with a chain of factories. -/
theorem refuses_only {ctx' : Context σ κ ν}
    (h : (resolve chain limit specs ctx s).result = (.error (.failed e), ctx')) :
    Unresolvable limit e ∨
      ∃ i, Resolver.Invokes chain limit limit [] specs ctx s i ∧ i.Fails (.failed e) :=
  (resolve_refusals chain limit specs ctx s).only e (by rw [h])

end Resolution

/-- Shaping fails with the error of a chunk, or for a media type that is no header value. -/
theorem shape_eq_error {supported : List String} {view : RequestView} {output : Output σ κ}
    {s : Session σ κ} {e : DispatchError} (h : (shape supported view output s).result = .error e) :
    (∃ status mediaType chunks, output = .stream status mediaType chunks ∧
      (pullFrom 0 chunks s).result.contain .async = .error e) ∨
    ∃ text, e = .internal (.invalidMediaType text) := by
  have hvalue {status : Status} {value : Json}
      (h : negotiated supported view status value = .error e) :
      ∃ text, e = .internal (.invalidMediaType text) := by
    rw [negotiated] at h
    split at h
    · cases h
    · exact ⟨_, (typedResponse_eq_error.mp h).2⟩
  cases output with
  | response response => cases h
  | stream status mediaType chunks =>
    rcases hpull : (pullFrom 0 chunks s).result.contain .async with e' | pulled
    · refine .inl ⟨status, mediaType, chunks, rfl, ?_⟩
      simpa [shape, hpull] using h
    · simp only [shape, Run.result_bind, hpull] at h
      exact .inr ⟨_, (typedResponse_eq_error.mp h).2⟩
  | value value => exact .inr (hvalue h)
  | withStatus status value => exact .inr (hvalue h)
  | empty => exact .inr (hvalue h)

/-- Each way through the stages that ends in a failure has its own causes. -/
theorem Course.raises {failure : StageFailure} {t : Step σ κ (Passage σ κ ν)}
    (course : Course d request (d.opened s) t) (h : t.result.result = .error (.failed failure)) :
    d.Raises request s failure := by
  obtain ⟨stage, e⟩ := failure
  cases course with
  | taken intake ht =>
    obtain rfl : _ = _ := h
    obtain rfl := intake_stage intake (by rw [ht])
    exact .intakeHook intake ht
  | consulted intake ht consult hu =>
    obtain rfl : _ = _ := h
    obtain rfl := consult_stage consult (by rw [hu])
    exact .requestHook intake ht consult hu
  -- a panic that goes through fails no stage, so the stop is a failure
  | @unresolved _ stop _ _ resolves ht =>
    cases stop <;> cases h
    have whole := resolves
    obtain ⟨admitted, rfl⟩ := resolves
    obtain ⟨rfl, hresolve⟩ := Prod.mk.inj ht
    rcases refuses_only hresolve with unresolvable | ⟨i, invokes, fails⟩
    · exact .chain whole ht unresolvable
    · exact .factory ⟨_, i, admitted, invokes, fails⟩
  | invalid resolves ht invalid =>
    cases h
    exact .parameter resolves ht invalid
  | @unhandled _ _ stop _ handles ht =>
    cases stop <;> cases h
    exact .handler handles ht
  | unshaped shapes ht =>
    cases h
    -- of the ways of shaping only a stream and a value can fail
    have whole := shapes
    obtain ⟨handles, houtput, rfl⟩ := shapes
    obtain ⟨-, hrest⟩ := Prod.mk.inj ht
    rcases shape_eq_error (Prod.mk.inj hrest).2 with ⟨_, _, _, rfl, pulled⟩ | ⟨text, rfl⟩
    · exact .chunk handles houtput pulled
    · exact .mediaType whole ht
  | @polished _ _ _ _ u shapes ht polish =>
    rcases hu : u.result with ⟨response, _ | stop⟩
    · simp [hu, Dispatcher.polished] at h
    · obtain rfl : stop = .failed ⟨stage, e⟩ := by simpa [hu, Dispatcher.polished] using h
      obtain rfl := polish_stage polish (by rw [hu])
      exact .responseHook shapes ht polish hu

/-- What is raised in a stage fails it. -/
theorem Raises.pass {failure : StageFailure} (h : d.Raises request s failure) :
    (d.pass request (d.opened s)).result.result = .error (.failed failure) := by
  cases h with
  | intakeHook intake ht =>
    have htake := (takeIn_inTurn 0 d.intakeHooks request (d.opened s)).unique intake
    simp [Dispatcher.pass, htake, ht]
  | requestHook intake ht consult hu =>
    have htake := (takeIn_inTurn 0 d.intakeHooks request (d.opened s)).unique intake
    obtain ⟨v, hv, hconsult⟩ := consult_inTurn (d.view _) 0 d.requestHooks _
    obtain rfl := hv.unique consult
    simp [Dispatcher.pass, stages, htake, ht, hconsult, hu, consulted, Except.map]
  | factory refused =>
    obtain ⟨_, _, admitted, invokes, fails⟩ := refused
    obtain ⟨ctx, hresolve⟩ := refuses_failed invokes fails
    exact (Resolves.intro admitted rfl).pass_error (congrArg (Prod.mk _) hresolve)
  | chain resolves ht _ => exact resolves.pass_error ht
  | parameter resolves ht invalid => exact resolves.pass_invalid ht invalid
  | handler handles ht => simp [handles.pass, ht, afterHandler, Stop.map]
  | chunk handles ht pulled => simp [handles.pass, ht, afterHandler, shape, pulled, afterShaping]
  | mediaType shapes ht => simp [shapes.pass, ht, afterShaping]
  | responseHook shapes ht polish hu =>
    obtain ⟨v, hv, hpolish⟩ := polish_inTurn (d.view _) 0 d.responseHooks _ _
    obtain rfl := hv.unique polish
    simp [shapes.pass, ht, afterShaping, hpolish, hu, Dispatcher.polished]

/-- The stages fail exactly with the errors that are raised in them. -/
theorem failed?_eq_some {failure : StageFailure} :
    d.failed? request s = some failure ↔ d.Raises request s failure := by
  rw [failed?, Passage.failure?_eq_some]
  exact ⟨(d.pass_course request _).raises, Raises.pass⟩

end Stages

/-! ## Errors with the default answer -/

/-- When an error arises that gets the default answer. -/
inductive Occasion where
  | during (stage : Stage)
  /-- While the failure of the stage is answered. -/
  | answering (failed : Stage)
  deriving DecidableEq, Repr

/-- The stage that an error is taken to come from. -/
def Occasion.label : Occasion → Stage
  | .during stage => stage
  | .answering failed => failed

/-- An error gets the default answer. -/
inductive Defaults (d : Dispatcher σ κ ν) (request : Request) (s : Session σ κ) :
    Occasion → DispatchError → Prop where
  /-- It is raised in a stage, and no error handler claims it. -/
  | unclaimed {failure : StageFailure} (raised : d.Raises request s failure)
      (none : d.errorHandlers.lookup failure.error.errorClass = none) :
      Defaults d request s (.during failure.stage) failure.error
  /-- The error handler raises it. -/
  | unhandled {failure : StageFailure} {handler : ErrorHandler σ κ} {e : DispatchError}
      (raised : d.Raises request s failure)
      (found : d.errorHandlers.lookup failure.error.errorClass = some handler)
      (failed : (d.errorCall request s handler failure.error).result.called handler.mode =
        .error (.failed e)) : Defaults d request s (.answering failure.stage) e
  /-- The answer of the error handler cannot be shaped. -/
  | unshaped {failure : StageFailure} {handler : ErrorHandler σ κ} {output : Output σ κ}
      {e : DispatchError} (raised : d.Raises request s failure)
      (found : d.errorHandlers.lookup failure.error.errorClass = some handler)
      (answered : (d.errorCall request s handler failure.error).result.called handler.mode =
        .ok output)
      (failed : (shape d.supported (d.view (d.passed request s).result.request) output
        (d.errorCall request s handler failure.error).session).result = .error e) :
      Defaults d request s (.answering failure.stage) e

/-- The error handler answers the failure of a stage with a response. -/
def Answered (d : Dispatcher σ κ ν) (request : Request) (s : Session σ κ) (failure : StageFailure)
    (given : Response) : Prop :=
  ∃ handler output, d.errorHandlers.lookup failure.error.errorClass = some handler ∧
    (d.errorCall request s handler failure.error).result.called handler.mode = .ok output ∧
    (shape d.supported (d.view (d.passed request s).result.request) output
      (d.errorCall request s handler failure.error).session).result = .ok given

section Answering

variable {d : Dispatcher σ κ ν} {request : Request} {s : Session σ κ}

/-- The error handler ends in a panic that nothing contains. -/
def Broken (d : Dispatcher σ κ ν) (request : Request) (s : Session σ κ) (failure : StageFailure)
    (panic : Panic) : Prop :=
  ∃ handler, d.errorHandlers.lookup failure.error.errorClass = some handler ∧
    (d.errorCall request s handler failure.error).result.called handler.mode =
      .error (.unwound panic)

/-- A failure is answered by an error handler or by default, unless the error handler panics. -/
theorem responded_failure {failure : StageFailure} (raised : d.Raises request s failure) :
    (∃ given, d.Answered request s failure given ∧ (d.responded request s).result = .ok given) ∨
    (∃ occasion e, d.Defaults request s occasion e ∧
      (d.responded request s).result = defaultResponse e occasion.label) ∨
    ∃ panic, d.Broken request s failure panic ∧ (d.responded request s).result = .error panic := by
  have hp : (d.passed request s).result.result = .error (.failed failure) := raised.pass
  have answers : Answers d (d.passed request s).result (d.passed request s).session
      (d.responded request s) := d.respond_answers _ _
  generalize d.responded request s = t at answers
  cases answers with
  -- the answers to a passage without a failure do not occur
  | unneeded hp' => cases hp.symm.trans hp'
  | unwound hp' => cases hp.symm.trans hp'
  | byDefault hp' none =>
    obtain rfl := Stop.failed.inj (Except.error.inj (hp.symm.trans hp'))
    exact .inr (.inl ⟨_, _, .unclaimed raised none, rfl⟩)
  | unhandled hp' found ht failed =>
    obtain rfl := Stop.failed.inj (Except.error.inj (hp.symm.trans hp'))
    subst ht
    exact .inr (.inl ⟨_, _, .unhandled raised found failed, rfl⟩)
  | broken hp' found ht unwound =>
    obtain rfl := Stop.failed.inj (Except.error.inj (hp.symm.trans hp'))
    subst ht
    exact .inr (.inr ⟨_, ⟨_, found, unwound⟩, rfl⟩)
  | unshaped hp' found ht answered hu failed =>
    obtain rfl := Stop.failed.inj (Except.error.inj (hp.symm.trans hp'))
    subst ht hu
    exact .inr (.inl ⟨_, _, .unshaped raised found answered failed, rfl⟩)
  | handled hp' found ht answered hu shaped =>
    obtain rfl := Stop.failed.inj (Except.error.inj (hp.symm.trans hp'))
    subst ht hu
    exact .inl ⟨_, ⟨_, _, found, answered, shaped⟩, rfl⟩

/-- The default answer goes by the stage that the error is taken to come from. -/
theorem Defaults.responded {occasion : Occasion} {e : DispatchError}
    (h : d.Defaults request s occasion e) :
    (d.responded request s).result = defaultResponse e occasion.label := by
  have failed {failure : StageFailure} (raised : d.Raises request s failure) :
      (d.passed request s).result.result = .error (.failed failure) := raised.pass
  cases h with
  | unclaimed raised none =>
    simp [Dispatcher.responded, respond, answer, failed raised, none, Occasion.label]
  | unhandled raised found hfailed =>
    rw [errorCall] at hfailed
    simp [Dispatcher.responded, respond, answer, failed raised, found, hfailed, Occasion.label]
  | unshaped raised found answered hfailed =>
    rw [errorCall] at answered hfailed
    simp [Dispatcher.responded, respond, answer, failed raised, found, answered, hfailed,
      Occasion.label]

/-- What gets the default answer as an error of a stage is raised there. -/
theorem Defaults.raised {stage : Stage} {e : DispatchError}
    (h : d.Defaults request s (.during stage) e) : d.Raises request s ⟨stage, e⟩ := by
  cases h with
  | unclaimed raised none => exact raised

/-- A refusal in the resolution is one of a factory. -/
theorem Raises.refused {name message : String}
    (h : d.Raises request s ⟨.resolution, .dependency name message⟩) :
    d.Refused request s (.dependency name message) := by
  cases h with
  | factory refused => exact refused
  | chain _ _ unresolvable => cases unresolvable

end Answering

/-- The report of a dependency that refused, as it is sent. -/
def refusalReport (name message : String) : Response :=
  (Response.json 422 (dependencyReport name message)).setContentLength

/-- The answer that says nothing about an error, as it is sent. -/
def bareFailure : Response :=
  (Response.json 500 (.object [("detail", .str "Internal Server Error")])).setContentLength

theorem settled_refusal (name message : String) (stage : Stage) :
    (defaultResponse (.dependency name message) stage).bind settled =
      .ok (if stage = .resolution then refusalReport name message else bareFailure) := by
  rw [defaultResponse]
  split <;> rfl

/-- How a dispatch answers errors, and refusals of dependencies among those that get the default
answer. -/
structure ReportsRefusals (d : Dispatcher σ κ ν) (request : Request) (s : Session σ κ)
    (outcome : Except Panic Response) : Prop where
  /-- The stages fail exactly with what is raised in them. -/
  failed : ∀ failure, d.failed? request s = some failure ↔ d.Raises request s failure
  /-- A failure is answered by an error handler or by default, unless the error handler ends in a
  panic that nothing contains. -/
  answered : ∀ failure, d.Raises request s failure →
    (∃ given, d.Answered request s failure given ∧ outcome = settled given) ∨
    (∃ occasion e, d.Defaults request s occasion e ∧
      outcome = (defaultResponse e occasion.label).bind settled) ∨
    ∃ panic, d.Broken request s failure panic ∧ outcome = .error panic
  /-- A panic that no stage contains is answered by nothing. -/
  unwound : ∀ panic, (d.passed request s).result.result = .error (.unwound panic) →
    outcome = .error panic
  /-- In the resolution only factories and their outcomes refuse, and the refusal is reported. -/
  resolving : ∀ name message,
    d.Defaults request s (.during .resolution) (.dependency name message) →
      d.Refused request s (.dependency name message) ∧ outcome = .ok (refusalReport name message)
  /-- A refusal raised in another stage is not reported. -/
  elsewhere : ∀ stage name message, stage ≠ .resolution →
    d.Defaults request s (.during stage) (.dependency name message) → outcome = .ok bareFailure
  /-- One raised while a failure is answered is reported exactly if the resolution failed. -/
  answering : ∀ failed name message,
    d.Defaults request s (.answering failed) (.dependency name message) →
      outcome = .ok (if failed = .resolution then refusalReport name message else bareFailure)

/-- Every dispatch reports refusals by the stage that failed. -/
theorem dispatch_reports_refusals (d : Dispatcher σ κ ν) (request : Request) (s : Session σ κ) :
    d.ReportsRefusals request s ((d.dispatch request s).result.map Reply.response) := by
  have settles {occasion : Occasion} {name message : String}
      (h : d.Defaults request s occasion (.dependency name message)) :
      d.outcome request s =
        .ok (if occasion.label = .resolution then refusalReport name message else bareFailure) := by
    rw [outcome, h.responded, settled_refusal]
  rw [dispatch_response]
  constructor
  case failed => exact fun _ => failed?_eq_some
  case answered =>
    intro failure raised
    rcases responded_failure raised with
      ⟨given, answered, heq⟩ | ⟨occasion, e, h, heq⟩ | ⟨panic, broken, heq⟩
    · exact .inl ⟨given, answered, by rw [outcome, heq]; rfl⟩
    · exact .inr (.inl ⟨occasion, e, h, by rw [outcome, heq]⟩)
    · exact .inr (.inr ⟨panic, broken, by rw [outcome, heq]; rfl⟩)
  case unwound =>
    intro panic hpassed
    rw [outcome, responded, respond, hpassed]
    rfl
  case resolving =>
    exact fun name message h =>
      ⟨h.raised.refused, (settles h).trans (congrArg Except.ok (if_pos rfl))⟩
  case elsewhere =>
    exact fun stage name message hstage h => (settles h).trans (congrArg Except.ok (if_neg hstage))
  case answering => exact fun failed name message h => settles h

/-! ## A refusal while a refusal is answered -/

/-- A token that is expired. -/
def rejectedToken : Factory Unit Unit Unit :=
  .new 1 "token" .async fun _ => fun _ w =>
    (.error (.raised (.dependency "" "token expired")), w, [])

/-- A dispatcher whose handler of refusals needs a log that is not there. -/
def auditingDispatcher : Dispatcher Unit Unit Unit :=
  { new { Route.new "GET" "/" ⟨.async, fun _ => Effect.value .empty⟩ with
      dependencies := [("user", rejectedToken)] } with
    errorHandlers := ErrorHandlers.empty.register ⟨.dependencyError, .async, fun _ _ => fun _ w =>
      (.error (.raised (.dependency "" "audit log offline")), w, [])⟩ }

/-- The client is told about the log, which no factory refused. -/
theorem audit_refusal_reported :
    let request := Request.new "GET" "/"
    let result := (auditingDispatcher.dispatch request ⟨(), (), []⟩).result
    auditingDispatcher.Defaults request ⟨(), (), []⟩ (.answering .resolution)
        (.dependency "" "audit log offline") ∧
      result.map Reply.response = .ok (refusalReport "" "audit log offline") ∧
      refusalReport "" "audit log offline" ≠ bareFailure := by
  have raised : auditingDispatcher.Raises (.new "GET" "/") ⟨(), (), []⟩
      ⟨.resolution, .dependency "user" "token expired"⟩ := failed?_eq_some.mp (by decide +kernel)
  exact ⟨.unhandled raised rfl rfl, by decide +kernel, by decide +kernel⟩

end Dispatcher

end RequestDispatch
