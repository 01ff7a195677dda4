import RequestDispatch.Proofs.Defaults
import RequestDispatch.Proofs.Nearest
import RequestDispatch.Proofs.Pulling
import RequestDispatch.Proofs.Stacking
import RequestDispatch.Proofs.Unwinding

/-!
# Streams in a dispatch

Handlers and error handlers may answer with a stream. A whole one is the response that the response
hooks are given, or the answer of the error handler. A broken one is an error: of the shaping stage
if the handler answered with it, so that an error handler may still answer, and of the failed stage
again if an error handler did, which then gets the default answer. `Dispatcher.dispatch_streams`
follows both through the dispatch, and finds that the bytes of a broken stream make no difference.
-/

namespace RequestDispatch

variable {σ κ ν : Type}

namespace Dispatcher

variable {d : Dispatcher σ κ ν} {request : Request} {s : Session σ κ}

/-! ## From the handler on -/

section Handled

variable {t : Step σ κ (Request × Context σ κ ν × Except (Stop DispatchError) (Output σ κ))}

/-- No chunk is pulled and no response hook is called before the handler has answered. -/
theorem Handles.journal_eq (h : Handles d request s t) :
    ∃ before, t.journal = before ++ [.handler] ∧ ∀ e ∈ before, ¬ e.isProducing := by
  obtain ⟨⟨admitted, rfl⟩, ht, valid, rfl⟩ := h
  refine ⟨_, rfl, fun e he => ?_⟩
  rcases List.mem_append.mp he with he | he
  · have hhook := admitted.isHook e he
    cases e <;> simp [Event.isHook, Event.isProducing] at hhook ⊢
  · have hresolution := (resolve_within _ _ _ _).journal _ e he
    cases e <;> simp [Event.isResolution, Event.isResolving, Event.isReleasing,
      Event.isProducing] at hresolution ⊢

variable {status : Status} {mediaType : String} {chunks : List (Effect σ κ Bytes)}
  {s' : Session σ κ}

/-- A whole stream of the handler goes to the response hooks. -/
theorem Handles.pass_whole {pulled : List Bytes} {response : Response} (h : Handles d request s t)
    (ht : t.result.2.2 = .ok (.stream status mediaType chunks))
    (pulls : Pulls 0 chunks t.session pulled s')
    (typed : typedResponse status mediaType (.chunks pulled) = .ok response) :
    d.pass request s =
      let u := polish (d.view t.result.1) 0 d.responseHooks response s'
      ⟨⟨t.result.1, u.result, t.result.2.1⟩, u.session,
        t.journal ++ pullsOf chunks.length ++ u.journal⟩ := by
  rw [h.pass_apply, ht]
  simp [afterHandler, Run.bind_apply, pulls.shape, typed, afterShaping]

/-- A broken stream of the handler fails the stage of shaping. -/
theorem Handles.pass_broken {given : Nat} {failure : Failure} (h : Handles d request s t)
    (ht : t.result.2.2 = .ok (.stream status mediaType chunks))
    (breaks : Breaks 0 chunks t.session given failure s') :
    d.pass request s =
      ⟨⟨t.result.1, .error (.failed ⟨.shaping, failure.contained .async⟩), t.result.2.1⟩, s',
        t.journal ++ pullsOf (given + 1)⟩ := by
  rw [h.pass_apply, ht]
  simp [afterHandler, Run.bind_apply, breaks.shape, afterShaping]

end Handled

/-! ## From the error handler on -/

section ErrorHandled

variable {failed : StageFailure} {handler : ErrorHandler σ κ}

/-- What an error handler answers is shaped, and what cannot be shaped gets the default answer. -/
theorem responded_apply {output : Output σ κ} (hfailed : d.failed? request s = some failed)
    (found : d.errorHandlers.lookup failed.error.errorClass = some handler)
    (answered : (d.errorCall request s handler failed.error).result.called handler.mode =
      .ok output) :
    d.responded request s =
      let u := shape d.supported (d.view (d.passed request s).result.request) output
        (d.errorCall request s handler failed.error).session
      ⟨match u.result with
        | .error e => defaultResponse e failed.stage
        | .ok response => .ok response,
        u.session, .exceptionHandler handler.errorClass :: u.journal⟩ := by
  have hp := Passage.failure?_eq_some.mp hfailed
  rw [errorCall] at answered
  rw [errorCall]
  simp only [responded, respond, hp, answer, found, Run.bind_apply, answered]
  split <;> simp [*]

variable {status : Status} {mediaType : String} {chunks : List (Effect σ κ Bytes)}
  {s' : Session σ κ}

/-- A whole stream of an error handler is its response. -/
theorem responded_whole {pulled : List Bytes} {response : Response}
    (hfailed : d.failed? request s = some failed)
    (found : d.errorHandlers.lookup failed.error.errorClass = some handler)
    (answered : (d.errorCall request s handler failed.error).result.called handler.mode =
      .ok (.stream status mediaType chunks))
    (pulls : Pulls 0 chunks (d.errorCall request s handler failed.error).session pulled s')
    (typed : typedResponse status mediaType (.chunks pulled) = .ok response) :
    d.responded request s =
      ⟨.ok response, s', .exceptionHandler handler.errorClass :: pullsOf chunks.length⟩ := by
  rw [responded_apply hfailed found answered, pulls.shape, typed]

/-- A broken stream of an error handler gets the default answer, and nothing but its chunks is run
for it. -/
theorem responded_broken {given : Nat} {failure : Failure}
    (hfailed : d.failed? request s = some failed)
    (found : d.errorHandlers.lookup failed.error.errorClass = some handler)
    (answered : (d.errorCall request s handler failed.error).result.called handler.mode =
      .ok (.stream status mediaType chunks))
    (breaks : Breaks 0 chunks (d.errorCall request s handler failed.error).session given failure
      s') :
    d.responded request s = ⟨defaultResponse (failure.contained .async) failed.stage, s',
      .exceptionHandler handler.errorClass :: pullsOf (given + 1)⟩ := by
  rw [responded_apply hfailed found answered, breaks.shape]

end ErrorHandled

/-! ## Broken streams -/

/-- The handler answers with a stream that breaks after a number of chunks, with an error. -/
inductive HandlerBreaks (d : Dispatcher σ κ ν) (request : Request) (s : Session σ κ) :
    Nat → DispatchError → Prop where
  | intro {t : Step σ κ (Request × Context σ κ ν × Except (Stop DispatchError) (Output σ κ))}
      {status : Status} {mediaType : String} {chunks : List (Effect σ κ Bytes)} {given : Nat}
      {failure : Failure} {s' : Session σ κ} (handles : Handles d request (d.opened s) t)
      (ht : t.result.2.2 = .ok (.stream status mediaType chunks))
      (breaks : Breaks 0 chunks t.session given failure s') :
      HandlerBreaks d request s given (failure.contained .async)

/-- An error handler answers the failure of a stage with a stream that breaks after a number of
chunks, with an error. -/
inductive AnswerBreaks (d : Dispatcher σ κ ν) (request : Request) (s : Session σ κ) :
    Stage → ErrorClass → Nat → DispatchError → Prop where
  | intro {failed : StageFailure} {handler : ErrorHandler σ κ} {status : Status}
      {mediaType : String} {chunks : List (Effect σ κ Bytes)} {given : Nat} {failure : Failure}
      {s' : Session σ κ} (hfailed : d.failed? request s = some failed)
      (found : d.errorHandlers.lookup failed.error.errorClass = some handler)
      (answered : (d.errorCall request s handler failed.error).result.called handler.mode =
        .ok (.stream status mediaType chunks))
      (breaks : Breaks 0 chunks (d.errorCall request s handler failed.error).session given failure
        s') :
      AnswerBreaks d request s failed.stage handler.errorClass given (failure.contained .async)

section Broken

variable {given : Nat} {e : DispatchError}

theorem HandlerBreaks.failed (h : d.HandlerBreaks request s given e) :
    d.failed? request s = some ⟨.shaping, e⟩ := by
  obtain ⟨handles, ht, breaks⟩ := h
  rw [failed?, passed, handles.pass_broken ht breaks]
  rfl

theorem HandlerBreaks.journal (h : d.HandlerBreaks request s given e) :
    ∃ before, (d.passed request s).journal = before ++ .handler :: pullsOf (given + 1) ∧
      ∀ e ∈ before, ¬ e.isProducing := by
  obtain ⟨handles, ht, breaks⟩ := h
  obtain ⟨before, hjournal, hbefore⟩ := handles.journal_eq
  refine ⟨before, ?_, hbefore⟩
  rw [passed, handles.pass_broken ht breaks, hjournal, List.append_assoc]
  rfl

/-- The answer to a broken stream of the handler is that to an error of shaping. -/
theorem HandlerBreaks.answered (h : d.HandlerBreaks request s given e) :
    (d.errorHandlers.lookup e.errorClass = none ∧
        (d.responded request s).result = defaultResponse e .shaping) ∨
      (∃ answer, d.Answered request s ⟨.shaping, e⟩ answer ∧
        (d.responded request s).result = .ok answer) ∨
      (∃ e', d.Defaults request s (.answering .shaping) e' ∧
        (d.responded request s).result = defaultResponse e' .shaping) ∨
      ∃ panic, d.Broken request s ⟨.shaping, e⟩ panic ∧
        (d.responded request s).result = .error panic := by
  -- a dispatch fails in one stage only, and that is the stream here
  have unique {failure : StageFailure} (other : d.Raises request s failure) :
      failure = ⟨.shaping, e⟩ :=
    Option.some.inj ((failed?_eq_some.mpr other).symm.trans h.failed)
  rcases responded_failure (failed?_eq_some.mp h.failed) with
    answer | ⟨occasion, e', defaults, hresponded⟩ | broken
  · exact .inr (.inl answer)
  · cases defaults with
    | unclaimed other none =>
      obtain rfl := unique other
      exact .inl ⟨none, hresponded⟩
    | unhandled other found hfailed =>
      obtain rfl := unique other
      exact .inr (.inr (.inl ⟨e', .unhandled other found hfailed, hresponded⟩))
    | unshaped other found hanswered hfailed =>
      obtain rfl := unique other
      exact .inr (.inr (.inl ⟨e', .unshaped other found hanswered hfailed, hresponded⟩))
  · exact .inr (.inr (.inr broken))

theorem AnswerBreaks.responded {stage : Stage} {c : ErrorClass}
    (h : d.AnswerBreaks request s stage c given e) :
    (d.responded request s).result = defaultResponse e stage ∧
      (d.responded request s).journal = .exceptionHandler c :: pullsOf (given + 1) := by
  obtain ⟨hfailed, found, answered, breaks⟩ := h
  rw [responded_broken hfailed found answered breaks]
  exact ⟨rfl, rfl⟩

end Broken

end Dispatcher

/-! ## Streams with other bytes -/

/-- Answers that differ in the bytes of their chunks at most. -/
inductive Output.LikeButBytes : Output σ κ → Output σ κ → Prop where
  | same (output : Output σ κ) : LikeButBytes output output
  | stream (status : Status) (mediaType : String) {chunks chunks' : List (Effect σ κ Bytes)}
      (h : List.Forall₂ Effect.LikeButValue chunks chunks') :
      LikeButBytes (.stream status mediaType chunks) (.stream status mediaType chunks')

/-- Handlers whose answers differ in the bytes of chunks at most. -/
structure Handler.LikeButBytes (handler handler' : Handler σ κ ν) : Prop where
  mode : handler.mode = handler'.mode
  call : ∀ arguments,
    Effect.Relates Output.LikeButBytes (handler.call arguments) (handler'.call arguments)

/-- Error handlers of one class whose answers differ in the bytes of chunks at most. -/
structure ErrorHandler.LikeButBytes (handler handler' : ErrorHandler σ κ) : Prop where
  errorClass : handler.errorClass = handler'.errorClass
  mode : handler.mode = handler'.mode
  call : ∀ view e,
    Effect.Relates Output.LikeButBytes (handler.call view e) (handler'.call view e)

theorem Output.LikeButBytes.left_stream {status : Status} {mediaType : String}
    {chunks : List (Effect σ κ Bytes)} {output : Output σ κ}
    (h : Output.LikeButBytes (.stream status mediaType chunks) output) :
    ∃ chunks', output = .stream status mediaType chunks' ∧
      List.Forall₂ Effect.LikeButValue chunks chunks' := by
  cases h with
  | same =>
    have hsame (chunk : Effect σ κ Bytes) : chunk.LikeButValue chunk := fun _ _ =>
      ⟨.of_refl (fun _ => trivial) _, rfl⟩
    exact ⟨chunks, rfl, List.forall₂_same.mpr fun chunk _ => hsame chunk⟩
  | stream _ _ h => exact ⟨_, rfl, h⟩

namespace Dispatcher

/-! ### The dispatch -/

/-- The dispatcher with another handler. -/
def handledBy (d : Dispatcher σ κ ν) (handler : Handler σ κ ν) : Dispatcher σ κ ν :=
  { d with route := { d.route with handler } }

/-- The dispatcher with other error handlers. -/
def answeredWith (d : Dispatcher σ κ ν) (handlers : List (ErrorHandler σ κ)) : Dispatcher σ κ ν :=
  { d with errorHandlers := ⟨handlers⟩ }

section Alike

variable {d d' : Dispatcher σ κ ν} {request : Request} {s : Session σ κ}

/-- Dispatchers whose stages and answers are the same report and release the same. -/
theorem dispatch_congr (path : d'.route.path = d.route.path)
    (observability : d'.observability = d.observability) (settings : d'.settings = d.settings)
    (clock : d'.clock = d.clock) (passed : d'.passed request s = d.passed request s)
    (responded : d'.responded request s = d.responded request s) :
    d'.dispatch request s = d.dispatch request s := by
  have houtcome : d'.outcome request s = d.outcome request s := by
    simp only [outcome, responded]
  rcases h : d.outcome request s with panic | response
  · have habandoned : d'.abandoned request s = d.abandoned request s := by
      simp only [abandoned, spanName, responded, observability, settings]
    simp only [dispatch_unwound (houtcome.trans h), dispatch_unwound h, habandoned, spanName,
      passed, responded, settings]
  · have hfinish : d'.finish request s response = d.finish request s response := by
      simp only [finish, failed?, passed]
    have helapsed : d'.elapsed request s = d.elapsed request s := by
      simp only [elapsed, responded, clock]
    have hreported : d'.reported request s response = d.reported request s response := by
      simp only [reported, report_eq, notices, record, spanName, hfinish, helapsed, responded,
        observability, settings, path]
    have hreleased : d'.released request s response = d.released request s response := by
      simp only [released, passed, hreported]
    simp only [dispatch_returned (houtcome.trans h), dispatch_returned h, hreported, hreleased,
      spanName, passed, responded, settings]

/-- Another handler that answers with other bytes is called in the same place. -/
theorem Handles.likewise {handler : Handler σ κ ν}
    {t : Step σ κ (Request × Context σ κ ν × Except (Stop DispatchError) (Output σ κ))}
    (h : Handles d request s t) (like : d.route.handler.LikeButBytes handler) :
    ∃ result, Handles (d.handledBy handler) request s
        ⟨(t.result.1, t.result.2.1, result), t.session, t.journal⟩ ∧
      Except.LiftRel Eq Output.LikeButBytes t.result.2.2 result := by
  obtain @⟨request', products, ctx, values, _, _, resolves, ht, valid, rfl⟩ := h
  obtain ⟨⟨intake, htaken, consult, hconsulted⟩, hresolved⟩ := resolves
  obtain ⟨hresult, hsession⟩ :=
    (like.call ⟨values, d.given products, d.view request'⟩).step .handler _
  have handles : Handles (d.handledBy handler) request s _ :=
    .intro (.intro (.intro intake htaken consult hconsulted) hresolved) ht valid rfl
  refine ⟨_, ?_, Completion.called_relates hresult _⟩
  rw [hsession, like.mode]
  exact handles

/-- What the chunks before the failing one give makes no difference to a broken stream of the
handler. -/
theorem HandlerBreaks.likewise {given : Nat} {e : DispatchError} {handler : Handler σ κ ν}
    (h : d.HandlerBreaks request s given e) (like : d.route.handler.LikeButBytes handler) :
    (d.handledBy handler).dispatch request s = d.dispatch request s := by
  obtain ⟨handles, ht, breaks⟩ := h
  obtain ⟨result, handles', hresult⟩ := handles.likewise like
  rw [ht] at hresult
  obtain ⟨output, rfl, hlike⟩ := hresult.left_ok
  obtain ⟨chunks', rfl, hchunks⟩ := hlike.left_stream
  have hpassed : (d.handledBy handler).passed request s = d.passed request s :=
    (handles'.pass_broken rfl (breaks.likewise hchunks)).trans (handles.pass_broken ht breaks).symm
  have hresponded : (d.handledBy handler).responded request s = d.responded request s := by
    rw [responded, hpassed]
    rfl
  exact dispatch_congr rfl rfl rfl rfl hpassed hresponded

/-- Nor does it to a broken stream of an error handler. -/
theorem AnswerBreaks.likewise {stage : Stage} {c : ErrorClass} {given : Nat} {e : DispatchError}
    {handlers : List (ErrorHandler σ κ)} (h : d.AnswerBreaks request s stage c given e)
    (like : List.Forall₂ ErrorHandler.LikeButBytes d.errorHandlers.handlers handlers) :
    (d.answeredWith handlers).dispatch request s = d.dispatch request s := by
  obtain @⟨failed, handler, _, _, chunks, _, _, _, hfailed, found, answered, breaks⟩ := h
  -- the handler at the same place answers the same failure, with other bytes at most
  have hlookup : Option.Rel ErrorHandler.LikeButBytes
      (d.errorHandlers.lookup failed.error.errorClass)
      ((d.answeredWith handlers).errorHandlers.lookup failed.error.errorClass) :=
    ErrorHandlers.lookup_rel (fun _ _ h => h.errorClass) like _
  rw [found] at hlookup
  obtain ⟨handler', found', hlike⟩ : ∃ handler', (d.answeredWith handlers).errorHandlers.lookup
      failed.error.errorClass = some handler' ∧ handler.LikeButBytes handler' := by
    generalize ErrorHandlers.lookup _ _ = r at hlookup
    obtain ⟨h⟩ | - := hlookup
    exact ⟨_, rfl, h⟩
  obtain ⟨hresult, hsession⟩ :=
    (hlike.call (d.view (d.passed request s).result.request) failed.error).step
      (.exceptionHandler handler.errorClass) (d.passed request s).session
  have hcalled := Completion.called_relates hresult handler.mode
  rw [errorCall] at answered breaks
  rw [answered] at hcalled
  obtain ⟨output, answered', houtput⟩ := hcalled.left_ok
  obtain ⟨chunks', rfl, hchunks⟩ := houtput.left_stream
  have hcall : (d.answeredWith handlers).errorCall request s handler' failed.error =
      Run.perform (.exceptionHandler handler.errorClass)
        (handler'.call (d.view (d.passed request s).result.request) failed.error)
        (d.passed request s).session := by
    rw [errorCall, ← hlike.errorClass]
    rfl
  have hresponded : (d.answeredWith handlers).responded request s = d.responded request s := by
    rw [responded_broken (d := d) hfailed found answered breaks,
      responded_broken (d := d.answeredWith handlers) hfailed found'
        (by rw [hcall, ← hlike.mode]; exact answered')
        (by rw [hcall, ← hsession]; exact breaks.likewise hchunks), hlike.errorClass]
  exact dispatch_congr rfl rfl rfl rfl rfl hresponded

end Alike

/-! ## What follows a broken stream -/

/-- What a dispatch does once its failure is answered calls nothing but cleanups. -/
theorem dispatch_ending (d : Dispatcher σ κ ν) (request : Request) (s : Session σ κ) :
    ∃ ending, (d.dispatch request s).journal = .notice (.spanOpened d.spanName) ::
        ((d.passed request s).journal ++ (d.responded request s).journal ++ ending) ∧
      ∀ e ∈ ending, e.isNotice ∨ e.isReleasing := by
  rcases h : d.outcome request s with panic | response
  · exact ⟨_, by rw [dispatch_unwound h], by simp [Event.isNotice]⟩
  · refine ⟨(d.reported request s response).journal ++ (d.released request s response).journal,
      by rw [dispatch_journal h, List.append_assoc _ _ (_ ++ _)]; simp, fun e he => ?_⟩
    rcases List.mem_append.mp he with he | he
    · rw [journal_reported] at he
      obtain ⟨notice, -, rfl⟩ := List.mem_map.mp he
      exact .inl rfl
    · exact .inr ((Context.release_within _).journal _ e he)

section Aftermath

variable {d : Dispatcher σ κ ν} {request : Request} {s : Session σ κ} {given : Nat}
  {e : DispatchError}

/-- No response hook is called for a broken stream of the handler, nor for the answer to it. -/
theorem HandlerBreaks.unhooked (h : d.HandlerBreaks request s given e) (position : Nat) :
    .responseHook position ∉ (d.dispatch request s).journal := by
  obtain ⟨before, hjournal, hbefore⟩ := h.journal
  have hpassed : .responseHook position ∉ (d.passed request s).journal := by
    rw [hjournal]
    intro hmem
    rcases List.mem_append.mp hmem with hmem | hmem
    · exact hbefore _ hmem rfl
    · simp [pullsOf] at hmem
  have hresponded : .responseHook position ∉ (d.responded request s).journal := fun hmem =>
    Bool.false_ne_true ((d.respond_within _).journal _ _ hmem)
  obtain ⟨ending, hdispatch, hending⟩ := d.dispatch_ending request s
  have hended : .responseHook position ∉ ending := fun hmem =>
    (hending _ hmem).elim Bool.false_ne_true Bool.false_ne_true
  rw [hdispatch]
  simp [hpassed, hresponded, hended]

/-- An error handler whose stream breaks is the only one called, and after its chunks nothing more
is called. -/
theorem AnswerBreaks.journal {stage : Stage} {c : ErrorClass}
    (h : d.AnswerBreaks request s stage c given e) :
    ∃ before after, (d.dispatch request s).journal =
        before ++ .exceptionHandler c :: (pullsOf (given + 1) ++ after) ∧
      (∀ e ∈ before, ¬ e.isErrorHandler) ∧ ∀ e ∈ after, e.isNotice ∨ e.isReleasing := by
  obtain ⟨ending, hdispatch, hending⟩ := d.dispatch_ending request s
  refine ⟨.notice (.spanOpened d.spanName) :: (d.passed request s).journal, ending, ?_, ?_,
    hending⟩
  · rw [hdispatch, h.responded.2]
    simp
  · intro e he
    rcases List.mem_cons.mp he with rfl | he
    · exact Bool.false_ne_true
    · have hstaging := (d.pass_within request).journal _ e he
      cases e <;> simp [Event.isStaging, Event.isHook, Event.isResolution, Event.isResolving,
        Event.isReleasing, Event.isProducing, Event.isErrorHandler] at hstaging ⊢

end Aftermath

/-! ## Streams of every kind -/

/-- What becomes of streams in a dispatch. -/
structure Streams (d : Dispatcher σ κ ν) (request : Request) (s : Session σ κ) : Prop where
  /-- A whole stream of the handler is the response that the response hooks are given. -/
  handled : ∀ t status mediaType chunks pulled s', Handles d request (d.opened s) t →
    t.result.2.2 = .ok (.stream status mediaType chunks) → Pulls 0 chunks t.session pulled s' →
    (headerValue? mediaType).isSome → ∃ response, response.status = status ∧
      response.body = .chunks pulled ∧ d.passed request s =
        let u := polish (d.view t.result.1) 0 d.responseHooks response s'
        ⟨⟨t.result.1, u.result, t.result.2.1⟩, u.session,
          t.journal ++ pullsOf chunks.length ++ u.journal⟩
  /-- A whole stream of an error handler is the answer. -/
  answered : ∀ failed handler status mediaType chunks pulled s',
    d.failed? request s = some failed →
    d.errorHandlers.lookup failed.error.errorClass = some handler →
    (d.errorCall request s handler failed.error).result.called handler.mode =
      .ok (.stream status mediaType chunks) →
    Pulls 0 chunks (d.errorCall request s handler failed.error).session pulled s' →
    (headerValue? mediaType).isSome → ∃ response, response.status = status ∧
      response.body = .chunks pulled ∧ d.responded request s =
        ⟨.ok response, s', .exceptionHandler handler.errorClass :: pullsOf chunks.length⟩
  /-- A broken stream of the handler is an error of shaping. -/
  shaping : ∀ given e, d.HandlerBreaks request s given e →
    d.failed? request s = some ⟨.shaping, e⟩
  /-- The stages end with the chunk that failed. -/
  pulled : ∀ given e, d.HandlerBreaks request s given e → ∃ before,
    (d.passed request s).journal = before ++ .handler :: pullsOf (given + 1) ∧
      ∀ e ∈ before, ¬ e.isProducing
  /-- No response hook is called, before or after. -/
  unhooked : ∀ given e, d.HandlerBreaks request s given e →
    ∀ position, .responseHook position ∉ (d.dispatch request s).journal
  /-- The nearest error handler answers, and where there is none or it fails, the default answer is
  given. A panic of the error handler that nothing contains ends the dispatch. -/
  response : ∀ given e, d.HandlerBreaks request s given e →
    let outcome := (d.dispatch request s).result.map Reply.response
    (d.errorHandlers.lookup e.errorClass = none ∧
        outcome = (defaultResponse e .shaping).bind settled) ∨
      (∃ answer, d.Answered request s ⟨.shaping, e⟩ answer ∧ outcome = settled answer) ∨
      (∃ e', d.Defaults request s (.answering .shaping) e' ∧
        outcome = (defaultResponse e' .shaping).bind settled) ∨
      ∃ panic, d.Broken request s ⟨.shaping, e⟩ panic ∧ outcome = .error panic
  /-- A broken stream of an error handler gets the default answer. -/
  default : ∀ stage c given e, d.AnswerBreaks request s stage c given e →
    (d.dispatch request s).result.map Reply.response = (defaultResponse e stage).bind settled
  /-- No other error handler is called then, and after the chunk that failed no code but that of
  cleanups. -/
  last : ∀ stage c given e, d.AnswerBreaks request s stage c given e → ∃ before after,
    (d.dispatch request s).journal =
        before ++ .exceptionHandler c :: (pullsOf (given + 1) ++ after) ∧
      (∀ e ∈ before, ¬ e.isErrorHandler) ∧ ∀ e ∈ after, e.isNotice ∨ e.isReleasing
  /-- The bytes of a stream of the handler that breaks make no difference to the dispatch. -/
  handlerBytes : ∀ given e handler, d.HandlerBreaks request s given e →
    d.route.handler.LikeButBytes handler →
      (d.handledBy handler).dispatch request s = d.dispatch request s
  /-- Nor do those of an error handler's. -/
  answerBytes : ∀ stage c given e handlers, d.AnswerBreaks request s stage c given e →
    List.Forall₂ ErrorHandler.LikeButBytes d.errorHandlers.handlers handlers →
      (d.answeredWith handlers).dispatch request s = d.dispatch request s
  /-- One record is emitted if there is a response, and none if a panic ends the dispatch. -/
  finalized : (d.dispatch request s).journal.countP Event.isFinalized =
    if (d.dispatch request s).result.isOk then 1 else 0
  /-- All that was acquired is released, unless a panic ends the dispatch and leaves it behind. -/
  released : (∃ before cleanup after,
    (d.dispatch request s).journal = before ++ cleanup ++ after ∧
      acquisitions (d.dispatch request s).journal = acquisitions before ∧
      Unwinds (acquisitions before).reverse cleanup) ∨
    ∃ panic, d.Forsakes request s panic

/-- Streams are pulled to their end or to the chunk that fails, and a broken one ends as an error
wherever it comes from. -/
theorem dispatch_streams (d : Dispatcher σ κ ν) (request : Request) (s : Session σ κ) :
    (∀ supported view status mediaType (chunks : List (Effect σ κ Bytes)) u,
      Drains supported view status mediaType chunks u) ∧ d.Streams request s := by
  refine ⟨drains, ?_⟩
  constructor
  case handled =>
    intro t status mediaType chunks pulled s' handles ht pulls valid
    obtain ⟨response, typed, hstatus, hbody⟩ :=
      typedResponse_of_headerValue valid status (.chunks pulled)
    exact ⟨response, hstatus, hbody, handles.pass_whole ht pulls typed⟩
  case answered =>
    intro failed handler status mediaType chunks pulled s' hfailed found answered pulls valid
    obtain ⟨response, typed, hstatus, hbody⟩ :=
      typedResponse_of_headerValue valid status (.chunks pulled)
    exact ⟨response, hstatus, hbody, responded_whole hfailed found answered pulls typed⟩
  case shaping => exact fun _ _ breaks => breaks.failed
  case pulled => exact fun _ _ breaks => breaks.journal
  case unhooked => exact fun _ _ breaks => breaks.unhooked
  case response =>
    intro given e breaks
    simp only [dispatch_response, outcome]
    rcases breaks.answered with
      ⟨none, heq⟩ | ⟨answer, answered, heq⟩ | ⟨e', defaults, heq⟩ | ⟨panic, broken, heq⟩
    · exact .inl ⟨none, by rw [heq]⟩
    · exact .inr (.inl ⟨answer, answered, by rw [heq]; rfl⟩)
    · exact .inr (.inr (.inl ⟨e', defaults, by rw [heq]⟩))
    · exact .inr (.inr (.inr ⟨panic, broken, by rw [heq]; rfl⟩))
  case default =>
    intro stage c given e breaks
    rw [dispatch_response, outcome, breaks.responded.1]
  case last => exact fun _ _ _ _ breaks => breaks.journal
  case handlerBytes => exact fun _ _ _ breaks like => breaks.likewise like
  case answerBytes => exact fun _ _ _ _ _ breaks like => breaks.likewise like
  -- the record is made unless the dispatch unwinds
  case finalized =>
    rcases h : d.outcome request s with panic | response
    · rw [countP_isFinalized_unwound h, dispatch_unwound h]
      rfl
    · rw [countP_isFinalized h, dispatch_returned h]
      rfl
  case released =>
    refine (d.exists_releases request s).imp_left ?_
    rintro ⟨before, cleanup, after, releases⟩
    exact ⟨before, cleanup, after, releases.dispatch, releases.acquired, releases.unwinds⟩

/-- A dispatcher of a route with a lease. Its stream breaks at once, and its error handler panics
when it is called. -/
def brokenDispatcher : Dispatcher Unit Unit Unit :=
  let chunk : Effect Unit Unit Bytes := fun _ world =>
    (.error (.raised (.internal (.stated "disk gone"))), world, [])
  let handler : Handler Unit Unit Unit :=
    ⟨.async, fun _ => Effect.value (.stream 200 "text/plain" [chunk])⟩
  { Dispatcher.new { Route.new "GET" "/" handler with dependencies := [("lease", lease)] } with
    errorHandlers := ErrorHandlers.empty.register
      ⟨.exception, .async, fun _ _ _ world => (.error (.panicked .other true), world, [])⟩ }

/-- The dispatch is not finalized, and the lease is not given back. -/
theorem broken_stream_forsakes :
    let request : Request := .new "GET" "/"
    let journal := (brokenDispatcher.dispatch request ⟨(), (), []⟩).journal
    (brokenDispatcher.failed? request ⟨(), (), []⟩).map StageFailure.stage = some .shaping ∧
      journal.countP Event.isFinalized = 0 ∧ acquisitions journal = [.resource 0] ∧
      ∀ e ∈ journal, ¬ e.isCleanup := by
  decide +kernel

/-- Nothing is sent of a stream whose second chunk panics. -/
example :
    let chunks : List (Effect Unit Unit Bytes) :=
      [Effect.value [97], fun _ world =>
        (.error (.panicked (.message "disk gone") false), world, [])]
    let d := constantDispatcher "text/plain" (.stream 200 "text/plain" chunks)
    (d.dispatch (.new "GET" "/") ⟨(), (), []⟩).result.map Reply.response = .ok bareFailure := by
  decide +kernel

end Dispatcher

end RequestDispatch
