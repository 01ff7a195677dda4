import RequestDispatch.Proofs.InTurn

/-!
# The order of a dispatch

Which application code a dispatch calls, in which order, and with what. `Course` lists the ways
through the stages and `Answers` the ways a failure is answered, each with its journal in full, so
that what a way leaves out is not called on it. `Dispatcher.dispatch_inOrder` says that every
dispatch goes one of these ways, and how far the calls of each kind came.
-/

namespace RequestDispatch

namespace Dispatcher

variable {σ κ ν : Type}

/-! ## The ways through the stages -/

/-- All hooks before the dependencies let a request through, as another one. -/
inductive Admitted (d : Dispatcher σ κ ν) (request : Request) (s : Session σ κ) :
    Step σ κ Request → Prop where
  | intro {request' : Request}
      {t : Step σ κ (Request × Option (Except (Stop StageFailure) Response))}
      {u : Step σ κ (Unit × Option (Except (Stop StageFailure) Response))}
      (intake : InTurn intakeCall 0 d.intakeHooks request s t) (ht : t.result = (request', none))
      (consult : InTurn (requestCall (d.view request')) 0 d.requestHooks () t.session u)
      (hu : u.result = ((), none)) :
      Admitted d request s ⟨request', u.session, t.journal ++ u.journal⟩

/-- The dependencies of an admitted request are resolved. -/
inductive Resolves (d : Dispatcher σ κ ν) (request : Request) (s : Session σ κ) :
    Step σ κ (Request × Resolved σ κ ν (Fields (Product ν))) → Prop where
  | intro {t : Step σ κ Request} {u : Step σ κ (Resolved σ κ ν (Fields (Product ν)))}
      (admitted : Admitted d request s t)
      (hu : resolve d.overrides d.settings.maxDependencyDepth d.route.dependencies
        (.new (d.view t.result)) t.session = u) :
      Resolves d request s ⟨(t.result, u.result), u.session, t.journal ++ u.journal⟩

/-- The handler is called, since dependencies and parameters are there. -/
inductive Handles (d : Dispatcher σ κ ν) (request : Request) (s : Session σ κ) :
    Step σ κ (Request × Context σ κ ν × Except (Stop DispatchError) (Output σ κ)) → Prop where
  | intro {request' : Request} {products : Fields (Product ν)} {ctx : Context σ κ ν}
      {values : Fields Json} {t : Step σ κ (Request × Resolved σ κ ν (Fields (Product ν)))}
      {u : Step σ κ (Completion (Output σ κ))}
      (resolves : Resolves d request s t) (ht : t.result = (request', .ok products, ctx))
      (valid : validate d.route.params (d.view request') = .ok values)
      (hu : Run.perform .handler (d.route.handler.call
        ⟨values, d.given products, d.view request'⟩) t.session = u) :
      Handles d request s ⟨(request', ctx, u.result.called d.route.handler.mode), u.session,
        t.journal ++ [.handler]⟩

/-- The answer of the handler has been shaped into a response, or shaping it fails. -/
inductive Shapes (d : Dispatcher σ κ ν) (request : Request) (s : Session σ κ) :
    Step σ κ (Request × Context σ κ ν × Except DispatchError Response) → Prop where
  | intro {request' : Request} {ctx : Context σ κ ν} {output : Output σ κ}
      {t : Step σ κ (Request × Context σ κ ν × Except (Stop DispatchError) (Output σ κ))}
      {u : Step σ κ (Except DispatchError Response)}
      (handles : Handles d request s t) (ht : t.result = (request', ctx, .ok output))
      (hu : shape d.supported (d.view request') output t.session = u) :
      Shapes d request s ⟨(request', ctx, u.result), u.session, t.journal ++ u.journal⟩

/-- The ways through the stages. -/
inductive Course (d : Dispatcher σ κ ν) (request : Request) (s : Session σ κ) :
    Step σ κ (Passage σ κ ν) → Prop where
  /-- An intake hook answered or stopped the dispatch. -/
  | taken {request' : Request} {result : Except (Stop StageFailure) Response}
      {t : Step σ κ (Request × Option (Except (Stop StageFailure) Response))}
      (intake : InTurn intakeCall 0 d.intakeHooks request s t)
      (ht : t.result = (request', some result)) :
      Course d request s ⟨⟨request', result, .new (d.view request')⟩, t.session, t.journal⟩
  /-- A request hook answered or stopped the dispatch. -/
  | consulted {request' : Request} {result : Except (Stop StageFailure) Response}
      {t : Step σ κ (Request × Option (Except (Stop StageFailure) Response))}
      {u : Step σ κ (Unit × Option (Except (Stop StageFailure) Response))}
      (intake : InTurn intakeCall 0 d.intakeHooks request s t) (ht : t.result = (request', none))
      (consult : InTurn (requestCall (d.view request')) 0 d.requestHooks () t.session u)
      (hu : u.result = ((), some result)) :
      Course d request s ⟨⟨request', result, .new (d.view request')⟩, u.session,
        t.journal ++ u.journal⟩
  /-- A dependency stopped the dispatch. -/
  | unresolved {request' : Request} {stop : Stop DispatchError} {ctx : Context σ κ ν}
      {t : Step σ κ (Request × Resolved σ κ ν (Fields (Product ν)))}
      (resolves : Resolves d request s t) (ht : t.result = (request', .error stop, ctx)) :
      Course d request s
        ⟨⟨request', .error (stop.map (.mk .resolution)), ctx⟩, t.session, t.journal⟩
  /-- A parameter is not valid. -/
  | invalid {request' : Request} {products : Fields (Product ν)} {ctx : Context σ κ ν}
      {errors : List FieldError} {t : Step σ κ (Request × Resolved σ κ ν (Fields (Product ν)))}
      (resolves : Resolves d request s t) (ht : t.result = (request', .ok products, ctx))
      (invalid : validate d.route.params (d.view request') = .error errors) :
      Course d request s ⟨⟨request', .error (.failed ⟨.validation, .validation errors⟩), ctx⟩,
        t.session, t.journal⟩
  /-- The handler stopped the dispatch. -/
  | unhandled {request' : Request} {ctx : Context σ κ ν} {stop : Stop DispatchError}
      {t : Step σ κ (Request × Context σ κ ν × Except (Stop DispatchError) (Output σ κ))}
      (handles : Handles d request s t) (ht : t.result = (request', ctx, .error stop)) :
      Course d request s ⟨⟨request', .error (stop.map (.mk .handler)), ctx⟩, t.session, t.journal⟩
  /-- The answer of the handler could not be shaped. -/
  | unshaped {request' : Request} {ctx : Context σ κ ν} {e : DispatchError}
      {t : Step σ κ (Request × Context σ κ ν × Except DispatchError Response)}
      (shapes : Shapes d request s t) (ht : t.result = (request', ctx, .error e)) :
      Course d request s ⟨⟨request', .error (.failed ⟨.shaping, e⟩), ctx⟩, t.session, t.journal⟩
  /-- The response hooks were called. -/
  | polished {request' : Request} {ctx : Context σ κ ν} {response : Response}
      {t : Step σ κ (Request × Context σ κ ν × Except DispatchError Response)}
      {u : Step σ κ (Response × Option (Stop StageFailure))}
      (shapes : Shapes d request s t) (ht : t.result = (request', ctx, .ok response))
      (polish : InTurn (responseCall (d.view request')) 0 d.responseHooks response t.session u) :
      Course d request s ⟨⟨request', polished u.result, ctx⟩, u.session, t.journal ++ u.journal⟩

/-- From a request whose dependencies and parameters are there, the handler's part goes on. -/
private theorem produce_course {d : Dispatcher σ κ ν} {request request' : Request}
    {s : Session σ κ} {products : Fields (Product ν)} {ctx : Context σ κ ν} {values : Fields Json}
    {t : Step σ κ (Request × Resolved σ κ ν (Fields (Product ν)))}
    (resolves : Resolves d request s t) (ht : t.result = (request', .ok products, ctx))
    (valid : validate d.route.params (d.view request') = .ok values) :
    let u := d.produce ⟨values, d.given products, d.view request'⟩ t.session
    Course d request s ⟨⟨request', u.result, ctx⟩, u.session, t.journal ++ u.journal⟩ := by
  intro u
  have handles := Handles.intro resolves ht valid rfl
  -- by what the handler gives, and then by what shaping makes of it
  rcases hcall : (Run.perform .handler (d.route.handler.call
    ⟨values, d.given products, d.view request'⟩) t.session).result.called d.route.handler.mode
    with stop | output
  · rw [hcall] at handles
    simpa [u, produce, Run.bind_apply, hcall] using Course.unhandled handles rfl
  · rw [hcall] at handles
    have shapes := Shapes.intro handles rfl rfl
    rcases hshape : shape d.supported (d.view request') output (Run.perform .handler
      (d.route.handler.call ⟨values, d.given products, d.view request'⟩) t.session).session
      with ⟨e | response, s₂, j₂⟩
    · rw [hshape] at shapes
      simpa [u, produce, Run.bind_apply, hcall, hshape] using Course.unshaped shapes rfl
    · rw [hshape] at shapes
      obtain ⟨v, polish, hpolish⟩ :=
        polish_inTurn (d.view request') 0 d.responseHooks response s₂
      have h := Course.polished shapes rfl polish
      simpa [u, produce, Run.bind_apply, hcall, hshape, hpolish] using h

/-- From a request that all intake hooks let through, the other stages go on. -/
private theorem stages_course {d : Dispatcher σ κ ν} {request request' : Request}
    {s : Session σ κ} {t : Step σ κ (Request × Option (Except (Stop StageFailure) Response))}
    (intake : InTurn intakeCall 0 d.intakeHooks request s t) (ht : t.result = (request', none)) :
    let u := d.stages (d.view request') t.session
    Course d request s
      ⟨⟨request', u.result.1, u.result.2⟩, u.session, t.journal ++ u.journal⟩ := by
  intro u
  obtain ⟨v, consult, hconsult⟩ :=
    consult_inTurn (d.view request') 0 d.requestHooks t.session
  -- by what the request hooks decide, then by the dependencies, then by the parameters
  rcases hv : v.result with ⟨⟨⟩, _ | result⟩
  · have resolves := Resolves.intro (.intro intake ht consult hv) rfl
    rcases hr : resolve d.overrides d.settings.maxDependencyDepth d.route.dependencies
      (.new (d.view request')) v.session with ⟨⟨stop | products, ctx⟩, s₂, j₂⟩
    · rw [hr] at resolves
      have h := Course.unresolved resolves rfl
      simpa [u, stages, Run.bind_apply, hconsult, hv, consulted, hr] using h
    · rw [hr] at resolves
      rcases hvalid : validate d.route.params (d.view request') with errors | values
      · have h := Course.invalid resolves rfl hvalid
        simpa [u, stages, Run.bind_apply, hconsult, hv, consulted, hr, hvalid] using h
      · have h := produce_course resolves rfl hvalid
        simpa [u, stages, Run.bind_apply, hconsult, hv, consulted, hr, hvalid] using h
  · have h := Course.consulted intake ht consult hv
    rcases result with stop | response <;>
      simpa [u, stages, Run.bind_apply, hconsult, hv, consulted, Except.map] using h

/-- Every request takes one of the ways through the stages. -/
theorem pass_course (d : Dispatcher σ κ ν) (request : Request) (s : Session σ κ) :
    Course d request s (d.pass request s) := by
  have intake := takeIn_inTurn 0 d.intakeHooks request s
  -- by whether an intake hook stopped
  rcases ht : takeIn 0 d.intakeHooks request s with ⟨⟨request', _ | result⟩, s₁, j₁⟩
  · rw [ht] at intake
    simpa [pass, Run.bind_apply, ht] using stages_course intake rfl
  · rw [ht] at intake
    simpa [pass, Run.bind_apply, ht] using Course.taken intake rfl

/-! ## The resolution on the way -/

section Resolution

variable {d : Dispatcher σ κ ν} {request : Request} {s : Session σ κ}

/-- Intake hooks leave hook events. -/
theorem intake_isHook {t : Step σ κ (Request × Option (Except (Stop StageFailure) Response))}
    (h : InTurn intakeCall 0 d.intakeHooks request s t) : ∀ e ∈ t.journal, e.isHook :=
  h.within fun _ _ _ _ _ he => by rw [List.mem_singleton.mp he]; rfl

/-- Request hooks leave hook events. -/
theorem consult_isHook {view : RequestView}
    {t : Step σ κ (Unit × Option (Except (Stop StageFailure) Response))}
    (h : InTurn (requestCall view) 0 d.requestHooks () s t) : ∀ e ∈ t.journal, e.isHook :=
  h.within fun _ _ _ _ _ he => by rw [List.mem_singleton.mp he]; rfl

/-- Response hooks leave events of producing a response. -/
theorem polish_isProducing {view : RequestView} {response : Response}
    {t : Step σ κ (Response × Option (Stop StageFailure))}
    (h : InTurn (responseCall view) 0 d.responseHooks response s t) :
    ∀ e ∈ t.journal, e.isProducing :=
  h.within fun _ _ _ _ _ he => by rw [List.mem_singleton.mp he]; rfl

private theorem stage_of_map {stage : Stage} {stop : Stop DispatchError} {failure : StageFailure}
    (h : stop.map (.mk stage) = .failed failure) : failure.stage = stage := by
  cases stop <;> cases h
  rfl

/-- A hook fails in the stage of its kind. -/
theorem intake_stage {t : Step σ κ (Request × Option (Except (Stop StageFailure) Response))}
    {failure : StageFailure} (h : InTurn intakeCall 0 d.intakeHooks request s t)
    (ht : t.result.2 = some (.error (.failed failure))) : failure.stage = .preHook := by
  obtain ⟨position, hook, request, s, hcall⟩ := h.stopped_by ht
  simp only [intakeCall, Run.result_bind, Run.pure_apply] at hcall
  split at hcall <;> simp only [reduceCtorEq, Sum.inr.injEq, Except.error.injEq] at hcall
  exact stage_of_map hcall

/-- A failed request hook is a failure before the dependencies. -/
theorem consult_stage {view : RequestView}
    {t : Step σ κ (Unit × Option (Except (Stop StageFailure) Response))} {failure : StageFailure}
    (h : InTurn (requestCall view) 0 d.requestHooks () s t)
    (ht : t.result.2 = some (.error (.failed failure))) : failure.stage = .preHook := by
  obtain ⟨position, hook, _, s, hcall⟩ := h.stopped_by ht
  simp only [requestCall, Run.result_bind, Run.pure_apply] at hcall
  split at hcall <;> simp only [reduceCtorEq, Sum.inr.injEq, Except.error.injEq] at hcall
  exact stage_of_map hcall

/-- A failed response hook is a failure of the last stage. -/
theorem polish_stage {view : RequestView} {response : Response}
    {t : Step σ κ (Response × Option (Stop StageFailure))} {failure : StageFailure}
    (h : InTurn (responseCall view) 0 d.responseHooks response s t)
    (ht : t.result.2 = some (.failed failure)) : failure.stage = .postHook := by
  obtain ⟨position, hook, response, s, hcall⟩ := h.stopped_by ht
  simp only [responseCall, Run.result_bind, Run.pure_apply] at hcall
  split at hcall <;> simp only [reduceCtorEq, Sum.inr.injEq] at hcall
  exact stage_of_map hcall

/-- Up to the end of the request hooks there are hook events only. -/
theorem Admitted.isHook {t : Step σ κ Request} (h : Admitted d request s t) :
    ∀ e ∈ t.journal, e.isHook := by
  obtain ⟨intake, -, consult, -⟩ := h
  exact fun e he => (List.mem_append.mp he).elim (intake_isHook intake e) (consult_isHook consult e)

/-- A request is let through in one way. -/
theorem Admitted.unique {t t' : Step σ κ Request} (h : Admitted d request s t)
    (h' : Admitted d request s t') : t = t' := by
  obtain ⟨intake, ht, consult, hu⟩ := h
  obtain ⟨intake', ht', consult', hu'⟩ := h'
  obtain rfl := intake.unique intake'
  obtain rfl : _ = _ := congrArg Prod.fst (ht.symm.trans ht')
  rw [consult.unique consult']

/-- A journal and a context as a resolution leaves them, but for what the handler's part enters. -/
def AfterResolution (d : Dispatcher σ κ ν) (request : Request) (s : Session σ κ)
    (ctx : Context σ κ ν) (journal : List Event) : Prop :=
  ∃ r produced, Resolves d request s r ∧ ctx = r.result.2.2 ∧ journal = r.journal ++ produced ∧
    ∀ e ∈ produced, e.isProducing

/-- A resolution that was made is what stands after the resolution. -/
theorem Resolves.after {r : Step σ κ (Request × Resolved σ κ ν (Fields (Product ν)))}
    (h : Resolves d request s r) : AfterResolution d request s r.result.2.2 r.journal :=
  ⟨r, [], h, rfl, (List.append_nil _).symm, nofun⟩

/-- What stands after the resolution still does so when a response has been produced. -/
theorem AfterResolution.append {ctx : Context σ κ ν} {journal more : List Event}
    (h : AfterResolution d request s ctx journal) (hmore : ∀ e ∈ more, e.isProducing) :
    AfterResolution d request s ctx (journal ++ more) := by
  obtain ⟨r, produced, resolves, hctx, rfl, hproduced⟩ := h
  refine ⟨r, produced ++ more, resolves, hctx, List.append_assoc .., fun e he => ?_⟩
  exact (List.mem_append.mp he).elim (hproduced e) (hmore e)

/-- The handler is called after the resolution. -/
theorem Handles.after
    {t : Step σ κ (Request × Context σ κ ν × Except (Stop DispatchError) (Output σ κ))}
    (h : Handles d request s t) : AfterResolution d request s t.result.2.1 t.journal := by
  obtain ⟨resolves, ht, -, -⟩ := h
  have after := resolves.after
  rw [ht] at after
  exact after.append fun e he => by rw [List.mem_singleton.mp he]; rfl

/-- An answer is shaped after the resolution. -/
theorem Shapes.after {t : Step σ κ (Request × Context σ κ ν × Except DispatchError Response)}
    (h : Shapes d request s t) : AfterResolution d request s t.result.2.1 t.journal := by
  obtain ⟨handles, ht, rfl⟩ := h
  have after := handles.after
  rw [ht] at after
  exact after.append ((shape_within (fun _ => by rfl) _ _ _).journal _)

/-- On a way through the stages there is a resolution exactly if the hooks before it let the request
through. -/
theorem Course.resolution {t : Step σ κ (Passage σ κ ν)} (h : Course d request s t) :
    ((∀ u, ¬ Admitted d request s u) ∧ (∀ e ∈ t.journal, e.isHook) ∧
      t.result.context = .new (d.view t.result.request)) ∨
    AfterResolution d request s t.result.context t.journal := by
  cases h with
  | taken intake ht =>
    refine .inl ⟨fun u hu => ?_, intake_isHook intake, rfl⟩
    -- hooks run in one way only, so those that stopped the request did not pass it on
    obtain ⟨intake', ht', -, -⟩ := hu
    rw [intake.unique intake', ht'] at ht
    cases ht
  | consulted intake ht consult hu =>
    refine .inl ⟨fun v hv => ?_, fun e he => ?_, rfl⟩
    · obtain ⟨intake', ht', consult', hu'⟩ := hv
      obtain rfl := intake.unique intake'
      obtain rfl : _ = _ := congrArg Prod.fst (ht.symm.trans ht')
      rw [consult.unique consult', hu'] at hu
      cases hu
    · exact (List.mem_append.mp he).elim (intake_isHook intake e) (consult_isHook consult e)
  | unresolved resolves ht | invalid resolves ht _ =>
    have after := resolves.after
    rw [ht] at after
    exact .inr after
  | unhandled handles ht =>
    have after := handles.after
    rw [ht] at after
    exact .inr after
  | unshaped shapes ht =>
    have after := shapes.after
    rw [ht] at after
    exact .inr after
  | polished shapes ht polish =>
    have after := shapes.after
    rw [ht] at after
    exact .inr (after.append (polish_isProducing polish))

end Resolution

/-! ## The ways of answering -/

/-- The handler that answers the failure of a passage, if a stage failed and there is one. -/
def answeredBy (d : Dispatcher σ κ ν) (p : Passage σ κ ν) : Option (ErrorHandler σ κ) :=
  p.failure?.bind fun failure => d.errorHandlers.lookup failure.error.errorClass

/-- The ways of answering what the stages left. -/
inductive Answers (d : Dispatcher σ κ ν) (p : Passage σ κ ν) (s : Session σ κ) :
    Step σ κ (Except Panic Response) → Prop where
  /-- No stage failed. -/
  | unneeded {response : Response} (hp : p.result = .ok response) :
      Answers d p s ⟨.ok response, s, []⟩
  /-- A panic that nothing contains goes on. -/
  | unwound {panic : Panic} (hp : p.result = .error (.unwound panic)) :
      Answers d p s ⟨.error panic, s, []⟩
  /-- No handler is registered for the failure. -/
  | byDefault {failure : StageFailure} (hp : p.result = .error (.failed failure))
      (none : d.errorHandlers.lookup failure.error.errorClass = none) :
      Answers d p s ⟨defaultResponse failure.error failure.stage, s, []⟩
  /-- The handler failed, and the default answer to its own error is given. -/
  | unhandled {failure : StageFailure} {handler : ErrorHandler σ κ} {e : DispatchError}
      {t : Step σ κ (Completion (Output σ κ))} (hp : p.result = .error (.failed failure))
      (found : d.errorHandlers.lookup failure.error.errorClass = some handler)
      (ht : Run.perform (.exceptionHandler handler.errorClass)
        (handler.call (d.view p.request) failure.error) s = t)
      (failed : t.result.called handler.mode = .error (.failed e)) :
      Answers d p s ⟨defaultResponse e failure.stage, t.session,
        [.exceptionHandler handler.errorClass]⟩
  /-- The handler ended in a panic that nothing contains. -/
  | broken {failure : StageFailure} {handler : ErrorHandler σ κ} {panic : Panic}
      {t : Step σ κ (Completion (Output σ κ))} (hp : p.result = .error (.failed failure))
      (found : d.errorHandlers.lookup failure.error.errorClass = some handler)
      (ht : Run.perform (.exceptionHandler handler.errorClass)
        (handler.call (d.view p.request) failure.error) s = t)
      (unwound : t.result.called handler.mode = .error (.unwound panic)) :
      Answers d p s ⟨.error panic, t.session, [.exceptionHandler handler.errorClass]⟩
  /-- The answer of the handler could not be shaped, and the default answer to that is given. -/
  | unshaped {failure : StageFailure} {handler : ErrorHandler σ κ} {output : Output σ κ}
      {e : DispatchError} {t : Step σ κ (Completion (Output σ κ))}
      {u : Step σ κ (Except DispatchError Response)} (hp : p.result = .error (.failed failure))
      (found : d.errorHandlers.lookup failure.error.errorClass = some handler)
      (ht : Run.perform (.exceptionHandler handler.errorClass)
        (handler.call (d.view p.request) failure.error) s = t)
      (answered : t.result.called handler.mode = .ok output)
      (hu : shape d.supported (d.view p.request) output t.session = u)
      (failed : u.result = .error e) :
      Answers d p s ⟨defaultResponse e failure.stage, u.session,
        .exceptionHandler handler.errorClass :: u.journal⟩
  /-- The handler answered. -/
  | handled {failure : StageFailure} {handler : ErrorHandler σ κ} {output : Output σ κ}
      {response : Response} {t : Step σ κ (Completion (Output σ κ))}
      {u : Step σ κ (Except DispatchError Response)} (hp : p.result = .error (.failed failure))
      (found : d.errorHandlers.lookup failure.error.errorClass = some handler)
      (ht : Run.perform (.exceptionHandler handler.errorClass)
        (handler.call (d.view p.request) failure.error) s = t)
      (answered : t.result.called handler.mode = .ok output)
      (hu : shape d.supported (d.view p.request) output t.session = u)
      (shaped : u.result = .ok response) :
      Answers d p s ⟨.ok response, u.session, .exceptionHandler handler.errorClass :: u.journal⟩

/-- A failure is answered by its handler or by default. -/
private theorem answer_answers {d : Dispatcher σ κ ν} {p : Passage σ κ ν} {failure : StageFailure}
    (hp : p.result = .error (.failed failure)) (s : Session σ κ) :
    Answers d p s (d.answer (d.view p.request) failure s) := by
  -- by the handler, what the handler gives, and what shaping makes of it
  rcases found : d.errorHandlers.lookup failure.error.errorClass with _ | handler
  · simpa [answer, found] using Answers.byDefault (s := s) hp found
  · rcases answered : (Run.perform (.exceptionHandler handler.errorClass)
      (handler.call (d.view p.request) failure.error) s).result.called handler.mode
      with (e | panic) | output
    · simpa [answer, found, Run.bind_apply, answered] using
        Answers.unhandled hp found rfl answered
    · simpa [answer, found, Run.bind_apply, answered] using
        Answers.broken hp found rfl answered
    · rcases hshape : (shape d.supported (d.view p.request) output
        (Run.perform (.exceptionHandler handler.errorClass)
          (handler.call (d.view p.request) failure.error) s).session).result with e | response
      · simpa [answer, found, Run.bind_apply, answered, hshape] using
          Answers.unshaped hp found rfl answered rfl hshape
      · simpa [answer, found, Run.bind_apply, answered, hshape] using
          Answers.handled hp found rfl answered rfl hshape

/-- What the stages left is answered in one of the ways. -/
theorem respond_answers (d : Dispatcher σ κ ν) (p : Passage σ κ ν) (s : Session σ κ) :
    Answers d p s (d.respond p s) := by
  rcases hp : p.result with (failure | panic) | response
  · simpa [respond, hp] using answer_answers hp s
  · simpa [respond, hp] using Answers.unwound (s := s) hp
  · simpa [respond, hp] using Answers.unneeded (s := s) hp

/-! ## How far a dispatch comes -/

/-- How many hooks of each kind were called, which factories, and whether the handler was. -/
structure Reach where
  intakeHooks : Nat
  requestHooks : Nat
  factories : List Event
  handler : Bool
  responseHooks : Nat

/-- The calls up to there, in order. -/
def Reach.calls (r : Reach) : List Event :=
  (List.range r.intakeHooks).map .intakeHook ++ (List.range r.requestHooks).map .requestHook ++
    r.factories ++ (if r.handler then [.handler] else []) ++
      (List.range r.responseHooks).map .responseHook

/-- Each kind of call is made only after all calls of the kinds before. -/
structure Reach.Fits (r : Reach) (d : Dispatcher σ κ ν) : Prop where
  intakeHooks : r.intakeHooks ≤ d.intakeHooks.length
  requestHooks : r.requestHooks ≤ d.requestHooks.length
  responseHooks : r.responseHooks ≤ d.responseHooks.length
  factories : ∀ e ∈ r.factories, e.isInvoked
  beforeRequestHooks : 0 < r.requestHooks → r.intakeHooks = d.intakeHooks.length
  beforeFactories : r.factories ≠ [] →
    r.intakeHooks = d.intakeHooks.length ∧ r.requestHooks = d.requestHooks.length
  beforeHandler : r.handler →
    r.intakeHooks = d.intakeHooks.length ∧ r.requestHooks = d.requestHooks.length
  beforeResponseHooks : 0 < r.responseHooks → r.handler

/-- As far as all hooks before the dependencies, and further. -/
def Reach.beyondHooks (d : Dispatcher σ κ ν) (factories : List Event) (handler : Bool)
    (responseHooks : Nat) : Reach :=
  ⟨d.intakeHooks.length, d.requestHooks.length, factories, handler, responseHooks⟩

/-- Calls beyond the hooks fit a dispatcher if no hook is called without its turn. -/
theorem Reach.beyondHooks_fits {d : Dispatcher σ κ ν} {factories : List Event} {handler : Bool}
    {responseHooks : Nat} (hfactories : ∀ e ∈ factories, e.isInvoked)
    (hle : responseHooks ≤ d.responseHooks.length) (hhandler : 0 < responseHooks → handler) :
    (Reach.beyondHooks d factories handler responseHooks).Fits d where
  intakeHooks := Nat.le_refl _
  requestHooks := Nat.le_refl _
  responseHooks := hle
  factories := hfactories
  beforeRequestHooks _ := rfl
  beforeFactories _ := ⟨rfl, rfl⟩
  beforeHandler _ := ⟨rfl, rfl⟩
  beforeResponseHooks := hhandler

/-- The calls of all hooks before the dependencies. -/
def hookCalls (d : Dispatcher σ κ ν) : List Event :=
  (List.range d.intakeHooks.length).map .intakeHook ++
    (List.range d.requestHooks.length).map .requestHook

/-- The calls beyond the hooks, written out. -/
theorem Reach.beyondHooks_calls (d : Dispatcher σ κ ν) (factories : List Event) (handler : Bool)
    (responseHooks : Nat) :
    (Reach.beyondHooks d factories handler responseHooks).calls =
      d.hookCalls ++ factories ++ (if handler then [.handler] else []) ++
        (List.range responseHooks).map .responseHook := rfl

section Calls

variable {d : Dispatcher σ κ ν} {request : Request} {s : Session σ κ}

private theorem calls_intake {t : Step σ κ (Request × Option (Except (Stop StageFailure) Response))}
    (h : InTurn intakeCall 0 d.intakeHooks request s t) :
    ∃ n ≤ d.intakeHooks.length, callsIn t.journal = (List.range n).map .intakeHook ∧
      (t.result.2 = none → n = d.intakeHooks.length) :=
  h.calls .intakeHook (fun _ => rfl) fun _ _ _ _ => rfl

private theorem calls_consult {view : RequestView}
    {t : Step σ κ (Unit × Option (Except (Stop StageFailure) Response))}
    (h : InTurn (requestCall view) 0 d.requestHooks () s t) :
    ∃ n ≤ d.requestHooks.length, callsIn t.journal = (List.range n).map .requestHook ∧
      (t.result.2 = none → n = d.requestHooks.length) :=
  h.calls .requestHook (fun _ => rfl) fun _ _ _ _ => rfl

private theorem calls_polish {view : RequestView} {response : Response}
    {t : Step σ κ (Response × Option (Stop StageFailure))}
    (h : InTurn (responseCall view) 0 d.responseHooks response s t) :
    ∃ n ≤ d.responseHooks.length,
      callsIn t.journal = (List.range n).map .responseHook := by
  obtain ⟨n, hn, ht, -⟩ := h.calls .responseHook (fun _ => rfl) fun _ _ _ _ => rfl
  exact ⟨n, hn, ht⟩

private theorem calls_shape {supported : List String} {view : RequestView} {output : Output σ κ}
    {s : Session σ κ} : callsIn (shape supported view output s).journal = [] := by
  have h : (shape supported view output).Within fun e => !e.isCall :=
    shape_within (fun _ => rfl) _ _ _
  exact callsIn_eq_nil fun e he => by simpa using h.journal s e he

/-- Before the dependencies all hooks have been called. -/
theorem Admitted.calls {t : Step σ κ Request} (h : Admitted d request s t) :
    callsIn t.journal = d.hookCalls := by
  obtain ⟨intake, ht, consult, hu⟩ := h
  obtain ⟨i, -, hintake, hi⟩ := calls_intake intake
  obtain ⟨j, -, hconsult, hj⟩ := calls_consult consult
  -- neither loop was stopped, so both made all their calls
  rw [callsIn_append, hintake, hconsult, hi (by rw [ht]), hj (by rw [hu]), hookCalls]

/-- Resolving calls nothing but factories. -/
theorem Resolves.calls {t : Step σ κ (Request × Resolved σ κ ν (Fields (Product ν)))}
    (h : Resolves d request s t) :
    ∃ factories, (∀ e ∈ factories, e.isInvoked) ∧
      callsIn t.journal = d.hookCalls ++ factories := by
  obtain ⟨admitted, rfl⟩ := h
  refine ⟨_, fun e he => ?_, by rw [callsIn_append, admitted.calls]⟩
  obtain ⟨he, hcall⟩ := List.mem_filter.mp he
  have hkind := (resolve_within _ _ _ _).journal _ e he
  -- a call of a factory is the only kind of call among what resolving enters
  cases e <;> simp [Event.isResolution, Event.isResolving, Event.isReleasing, Event.isCall,
    Event.isInvoked] at hkind hcall ⊢

/-- After the dependencies the handler is called once. -/
theorem Handles.calls
    {t : Step σ κ (Request × Context σ κ ν × Except (Stop DispatchError) (Output σ κ))}
    (h : Handles d request s t) :
    ∃ factories, (∀ e ∈ factories, e.isInvoked) ∧
      callsIn t.journal = d.hookCalls ++ factories ++ [.handler] := by
  obtain ⟨resolves, -, -, -⟩ := h
  obtain ⟨factories, hfactories, hcalls⟩ := resolves.calls
  exact ⟨factories, hfactories, by rw [callsIn_append, hcalls]; rfl⟩

/-- Shaping calls nothing. -/
theorem Shapes.calls {t : Step σ κ (Request × Context σ κ ν × Except DispatchError Response)}
    (h : Shapes d request s t) :
    ∃ factories, (∀ e ∈ factories, e.isInvoked) ∧
      callsIn t.journal = d.hookCalls ++ factories ++ [.handler] := by
  obtain ⟨handles, -, rfl⟩ := h
  obtain ⟨factories, hfactories, hcalls⟩ := handles.calls
  exact ⟨factories, hfactories, by rw [callsIn_append, hcalls, calls_shape, List.append_nil]⟩

/-- The calls on a way through the stages are those up to where it came. -/
theorem Course.calls {t : Step σ κ (Passage σ κ ν)} (h : Course d request s t) :
    ∃ r : Reach, r.Fits d ∧ callsIn t.journal = r.calls := by
  cases h with
  | taken intake _ =>
    obtain ⟨n, hn, hcalls, -⟩ := calls_intake intake
    refine ⟨⟨n, 0, [], false, 0⟩, ?_, by simp [hcalls, Reach.calls]⟩
    constructor <;> simp [hn]
  | consulted intake ht consult _ =>
    obtain ⟨i, -, hintake, hi⟩ := calls_intake intake
    obtain ⟨n, hn, hconsult, -⟩ := calls_consult consult
    refine ⟨⟨i, n, [], false, 0⟩, ?_, by simp [hintake, hconsult, Reach.calls]⟩
    constructor <;> simp [hn, hi (by rw [ht])]
  | unresolved resolves _ | invalid resolves _ _ =>
    obtain ⟨factories, hfactories, hcalls⟩ := resolves.calls
    refine ⟨.beyondHooks d factories false 0, ?_, by simp [Reach.beyondHooks_calls, hcalls]⟩
    exact Reach.beyondHooks_fits hfactories (Nat.zero_le _) (by simp)
  | unhandled handles _ =>
    obtain ⟨factories, hfactories, hcalls⟩ := handles.calls
    refine ⟨.beyondHooks d factories true 0, ?_, by simp [Reach.beyondHooks_calls, hcalls]⟩
    exact Reach.beyondHooks_fits hfactories (Nat.zero_le _) (by simp)
  | unshaped shapes _ =>
    obtain ⟨factories, hfactories, hcalls⟩ := shapes.calls
    refine ⟨.beyondHooks d factories true 0, ?_, by simp [Reach.beyondHooks_calls, hcalls]⟩
    exact Reach.beyondHooks_fits hfactories (Nat.zero_le _) (by simp)
  | polished shapes _ polish =>
    obtain ⟨factories, hfactories, hcalls⟩ := shapes.calls
    obtain ⟨n, hn, hpolish⟩ := calls_polish polish
    refine ⟨.beyondHooks d factories true n, ?_, ?_⟩
    · exact Reach.beyondHooks_fits hfactories hn (by simp)
    · simp [Reach.beyondHooks_calls, hcalls, hpolish]

/-- Answering calls the error handler of the failure, and nothing else. -/
theorem Answers.calls {p : Passage σ κ ν} {t : Step σ κ (Except Panic Response)}
    (h : Answers d p s t) :
    callsIn t.journal =
      (d.answeredBy p).toList.map fun handler => .exceptionHandler handler.errorClass := by
  cases h with
  | unneeded hp | unwound hp => simp [answeredBy, Passage.failure?, hp]
  | byDefault hp none => simp [answeredBy, Passage.failure?, hp, none]
  | unhandled hp found _ _ | broken hp found _ _ =>
    simp [answeredBy, Passage.failure?, hp, found, callsIn_cons, Event.isCall]
  | unshaped hp found _ _ hu _ | handled hp found _ _ hu _ =>
    subst hu
    simp [answeredBy, Passage.failure?, hp, found, callsIn_cons, Event.isCall, calls_shape]

end Calls

/-! ## The whole dispatch -/

/-- A dispatch in order: the stages and the answer to their failure go one of their ways, and what
is called in all is what these ways call. -/
structure InOrder (d : Dispatcher σ κ ν) (request : Request) (s : Session σ κ) : Prop where
  course : Course d request (d.opened s) (d.passed request s)
  answer : Answers d (d.passed request s).result (d.passed request s).session
    (d.responded request s)
  /-- The answer is the response of the dispatch, and a panic ends the dispatch. -/
  response : (d.dispatch request s).result.map Reply.response =
    (d.responded request s).result.bind settled
  calls : ∃ r : Reach, r.Fits d ∧ callsIn (d.dispatch request s).journal =
    r.calls ++ (d.answeredBy (d.passed request s).result).toList.map fun handler =>
      .exceptionHandler handler.errorClass

/-- The report and the release of a dispatch, or the end of its span, call nothing. -/
private theorem callsIn_dispatch (d : Dispatcher σ κ ν) (request : Request) (s : Session σ κ) :
    callsIn (d.dispatch request s).journal =
      callsIn (d.passed request s).journal ++ callsIn (d.responded request s).journal := by
  cases h : d.outcome request s with
  | error panic => simp [dispatch_unwound h, callsIn_cons, Event.isCall]
  | ok response =>
    have hreport : callsIn (d.reported request s response).journal = [] := by
      refine callsIn_eq_nil fun e he => ?_
      rw [journal_reported, List.mem_map] at he
      obtain ⟨notice, -, rfl⟩ := he
      simp [Event.isCall]
    have hrelease : callsIn (d.released request s response).journal = [] := by
      refine callsIn_eq_nil fun e he => ?_
      have hkind := (Context.release_within _).journal _ e he
      cases e <;> simp [Event.isReleasing, Event.isCall] at hkind ⊢
    simp [dispatch_returned h, callsIn_cons, Event.isCall, hreport, hrelease]

/-- Every dispatch calls hooks, factories and handlers in order. -/
theorem dispatch_inOrder (d : Dispatcher σ κ ν) (request : Request) (s : Session σ κ) :
    d.InOrder request s := by
  have course := d.pass_course request (d.opened s)
  have answer := d.respond_answers (d.passed request s).result (d.passed request s).session
  obtain ⟨r, hfits, hcalls⟩ := course.calls
  refine ⟨course, answer, d.dispatch_response request s, r, hfits, ?_⟩
  rw [callsIn_dispatch, responded, answer.calls, ← hcalls]
  rfl

/-- A dispatcher with an error handler for all errors, whose handler panics when it is called. -/
def hastyDispatcher : Dispatcher Unit Unit Unit :=
  { Dispatcher.new (.new "GET" "/" .hasty) with
    errorHandlers := ErrorHandlers.empty.register
      ⟨.exception, .async, fun _ _ => Effect.value .empty⟩ }

/-- The error handler is not called: the panic ends the dispatch before there is an error. -/
theorem hasty_unanswered :
    (hastyDispatcher.errorHandlers.lookup .internalError).isSome ∧
      callsIn (hastyDispatcher.dispatch (.new "GET" "/") ⟨(), (), []⟩).journal = [.handler] := by
  decide +kernel

end Dispatcher

end RequestDispatch
