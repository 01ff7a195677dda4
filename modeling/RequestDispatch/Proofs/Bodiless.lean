import RequestDispatch.Proofs.Course
import RequestDispatch.Proofs.Headers

/-!
# Responses without a body

A response of a status that never carries a body loses the one it has and keeps its headers, and
among them whatever length it states. A dispatch never states one there: such a length is what the
application put on a response of its own or on an error. `Dispatcher.dispatch_drops_body` says so of
every dispatch.
-/

namespace RequestDispatch

/-! ## Lengths in headers -/

namespace Response

/-- What a response states as its length. -/
def lengths (r : Response) : List Bytes := r.headers.getAll "content-length"

/-- A media type is no length. -/
theorem lengths_setContentType (r : Response) (value : Bytes) :
    (r.setHeader "content-type" value).lengths = r.lengths := by
  have other : ¬ Headers.SameName "content-type" "content-length" := by decide
  rw [lengths, setHeader, Headers.getAll_set, if_neg other, lengths]

@[simp] theorem lengths_new (status : Status) (body : ResponseBody) :
    (new status body).lengths = [] := rfl

@[simp] theorem lengths_json (status : Status) (value : Json) :
    (json status value).lengths = [] := by
  rw [json, lengths_setContentType, lengths_new]

end Response

theorem lengths_typedResponse {status : Status} {mediaType : String} {body : ResponseBody}
    {response : Response} (h : typedResponse status mediaType body = .ok response) :
    response.lengths = [] := by
  unfold typedResponse at h
  split at h
  · obtain rfl := Except.ok.inj h
    rw [Response.lengths_setContentType, Response.lengths_new]
  · cases h

theorem lengths_negotiated {supported : List String} {view : RequestView} {status : Status}
    {value : Json} {response : Response}
    (h : negotiated supported view status value = .ok response) : response.lengths = [] := by
  unfold negotiated at h
  split at h
  · obtain rfl := Except.ok.inj h
    rfl
  · exact lengths_typedResponse h

/-- Shaping states no length: only an answer that is a response brings one. -/
theorem shape_lengths {σ κ : Type} {supported : List String} {view : RequestView}
    {output : Output σ κ} {s : Session σ κ} {response : Response}
    (h : (shape supported view output s).result = .ok response) :
    output = .response response ∨ response.lengths = [] := by
  cases output with
  | response r =>
    obtain rfl := Except.ok.inj h
    exact .inl rfl
  | stream status mediaType chunks =>
    rcases hpull : (pullFrom 0 chunks s).result.contain .async with e | pulled
    · simp [shape, hpull] at h
    · simp only [shape, Run.result_bind, hpull] at h
      exact .inr (lengths_typedResponse h)
  | value value => exact .inr (lengths_negotiated h)
  | withStatus status value => exact .inr (lengths_negotiated h)
  | empty => exact .inr (lengths_negotiated h)

/-- Fields that are added stand after those that are there. -/
theorem Headers.extend_eq_ok {h other h' : Headers} (ok : h.extend other = .ok h') :
    h' = h.appendAll other := by
  unfold extend at ok
  split at ok <;> cases ok
  rfl

/-- A default answer states no length but that in the headers of an error with a status. -/
theorem defaultResponse_lengths {error : DispatchError} {stage : Stage} {response : Response}
    (h : defaultResponse error stage = .ok response) (stated : response.lengths ≠ []) :
    ∃ e, error = .http e := by
  have bare (status : Status) (value : Json) (heq : Response.json status value = response) :
      False := stated (heq ▸ Response.lengths_json status value)
  cases error with
  | http e => exact ⟨e, rfl⟩
  | dependency name message =>
    simp only [defaultResponse, Except.ok.injEq] at h
    split at h <;> exact (bare _ _ h).elim
  | validation | application | internal | unhandled => exact (bare _ _ (Except.ok.inj h)).elim

/-- The default answer to an error with a status that never carries a body has the headers of the
error. -/
theorem defaultResponse_http {e : HttpError} {stage : Stage} {response : Response}
    (h : defaultResponse (.http e) stage = .ok response) : response.status = e.status ∧
      (e.status.hasNoBody → response.headers = Headers.empty.appendAll e.headers) := by
  simp only [defaultResponse] at h
  split at h
  · next bodiless =>
    rcases hextend : (Response.ofStatus e.status).headers.extend e.headers with panic | headers
    · rw [hextend] at h
      cases h
    · rw [hextend] at h
      obtain rfl := Except.ok.inj h
      exact ⟨rfl, fun _ => Headers.extend_eq_ok hextend⟩
  · next bodied =>
    rcases hextend : (Response.json e.status (.object [("detail", e.detail)])).headers.extend
      e.headers with panic | headers
    · rw [hextend] at h
      cases h
    · rw [hextend] at h
      obtain rfl := Except.ok.inj h
      exact ⟨rfl, fun bodiless => absurd bodiless bodied⟩

namespace Dispatcher

variable {σ κ ν : Type}

/-! ## Where a length comes from -/

/-- The call of an error handler for the failed stage of a dispatch. -/
def errorCall (d : Dispatcher σ κ ν) (request : Request) (s : Session σ κ)
    (handler : ErrorHandler σ κ) (error : DispatchError) : Step σ κ (Completion (Output σ κ)) :=
  Run.perform (.exceptionHandler handler.errorClass)
    (handler.call (d.view (d.passed request s).result.request) error) (d.passed request s).session

/-- The application's code answers a dispatch with a response whose length, if it states one, is
that code's own. -/
inductive Gives (d : Dispatcher σ κ ν) (request : Request) (s : Session σ κ) : Response → Prop where
  /-- An intake hook gives it. -/
  | taken {request' : Request} {response : Response}
      {t : Step σ κ (Request × Option (Except (Stop StageFailure) Response))}
      (intake : InTurn intakeCall 0 d.intakeHooks request (d.opened s) t)
      (ht : t.result = (request', some (.ok response))) : Gives d request s response
  /-- A request hook gives it. -/
  | consulted {request' : Request} {response : Response}
      {t : Step σ κ (Request × Option (Except (Stop StageFailure) Response))}
      {u : Step σ κ (Unit × Option (Except (Stop StageFailure) Response))}
      (intake : InTurn intakeCall 0 d.intakeHooks request (d.opened s) t)
      (ht : t.result = (request', none))
      (consult : InTurn (requestCall (d.view request')) 0 d.requestHooks () t.session u)
      (hu : u.result = ((), some (.ok response))) : Gives d request s response
  /-- The response hooks make it, from the handler's own response or from one that states no
  length. -/
  | polished {request' : Request} {ctx : Context σ κ ν} {output : Output σ κ}
      {before response : Response}
      {t : Step σ κ (Request × Context σ κ ν × Except (Stop DispatchError) (Output σ κ))}
      {u : Step σ κ (Except DispatchError Response)}
      {v : Step σ κ (Response × Option (Stop StageFailure))}
      (handles : Handles d request (d.opened s) t) (ht : t.result = (request', ctx, .ok output))
      (hu : shape d.supported (d.view request') output t.session = u)
      (shaped : u.result = .ok before) (own : output = .response before ∨ before.lengths = [])
      (polish : InTurn (responseCall (d.view request')) 0 d.responseHooks before u.session v)
      (hv : v.result = (response, none)) : Gives d request s response
  /-- An error handler gives it. -/
  | handled {failure : StageFailure} {handler : ErrorHandler σ κ} {response : Response}
      (failed : d.failed? request s = some failure)
      (found : d.errorHandlers.lookup failure.error.errorClass = some handler)
      (answered : (d.errorCall request s handler failure.error).result.called handler.mode =
        .ok (.response response)) : Gives d request s response

/-- A dispatch ends in an error with a status, which gets the default answer. -/
inductive Fails (d : Dispatcher σ κ ν) (request : Request) (s : Session σ κ) :
    HttpError → Prop where
  /-- No error handler answers the failed stage. -/
  | unclaimed {stage : Stage} {e : HttpError} (failed : d.failed? request s = some ⟨stage, .http e⟩)
      (none : d.errorHandlers.lookup .httpError = none) : Fails d request s e
  /-- The error handler fails itself. -/
  | unhandled {failure : StageFailure} {handler : ErrorHandler σ κ} {e : HttpError}
      (failed : d.failed? request s = some failure)
      (found : d.errorHandlers.lookup failure.error.errorClass = some handler)
      (raised : (d.errorCall request s handler failure.error).result.called handler.mode =
        .error (.failed (.http e))) : Fails d request s e
  /-- Pulling the stream that the error handler answers fails. -/
  | unshaped {failure : StageFailure} {handler : ErrorHandler σ κ} {output : Output σ κ}
      {e : HttpError} (failed : d.failed? request s = some failure)
      (found : d.errorHandlers.lookup failure.error.errorClass = some handler)
      (answered : (d.errorCall request s handler failure.error).result.called handler.mode =
        .ok output)
      (raised : (shape d.supported (d.view (d.passed request s).result.request) output
        (d.errorCall request s handler failure.error).session).result = .error (.http e)) :
      Fails d request s e

/-- A response of the stages is one of the application, as far as it states a length. -/
theorem Course.gives {d : Dispatcher σ κ ν} {request : Request} {s : Session σ κ}
    {t : Step σ κ (Passage σ κ ν)} (h : Course d request (d.opened s) t) {response : Response}
    (ht : t.result.result = .ok response) : d.Gives request s response := by
  cases h with
  | taken intake stopped =>
    obtain rfl : _ = _ := ht
    exact .taken intake stopped
  | consulted intake passed consult stopped =>
    obtain rfl : _ = _ := ht
    exact .consulted intake passed consult stopped
  | unresolved | invalid | unhandled | unshaped => cases ht
  | @polished _ _ before _ u shapes hshaped polish =>
    rcases hu : u.result with ⟨response', _ | failure⟩
    · obtain rfl : response' = response := by simpa [hu, Dispatcher.polished] using ht
      obtain ⟨handles, houtput, rfl⟩ := shapes
      obtain ⟨rfl, hrest⟩ := Prod.mk.inj hshaped
      have hbefore := (Prod.mk.inj hrest).2
      exact .polished handles houtput rfl hbefore (shape_lengths hbefore) polish hu
    · simp [hu, Dispatcher.polished] at ht

/-- An answer that states a length is a response of the application, or the default one to an error
with a status. -/
theorem responded_lengths {d : Dispatcher σ κ ν} {request : Request} {s : Session σ κ}
    {given : Response} (responded : (d.responded request s).result = .ok given)
    (stated : given.lengths ≠ []) :
    d.Gives request s given ∨
      ∃ e stage, d.Fails request s e ∧ defaultResponse (.http e) stage = .ok given := by
  have course : Course d request (d.opened s) (d.passed request s) := d.pass_course request _
  have answers : Answers d (d.passed request s).result (d.passed request s).session
      (d.responded request s) := d.respond_answers _ _
  have failed {failure : StageFailure}
      (hp : (d.passed request s).result.result = .error (.failed failure)) :
      d.failed? request s = some failure := Passage.failure?_eq_some.mpr hp
  generalize d.responded request s = t at answers responded
  cases answers with
  | unneeded hp =>
    obtain rfl := Except.ok.inj responded
    exact .inl (course.gives hp)
  | unwound | broken => cases responded
  | @byDefault failure hp none =>
    obtain ⟨stage, error⟩ := failure
    obtain ⟨e, rfl⟩ := defaultResponse_lengths responded stated
    exact .inr ⟨e, stage, .unclaimed (failed hp) none, responded⟩
  | @unhandled failure handler _ _ hp found ht errs =>
    obtain ⟨e, rfl⟩ := defaultResponse_lengths responded stated
    subst ht
    exact .inr ⟨e, failure.stage, .unhandled (failed hp) found errs, responded⟩
  | @unshaped failure _ _ _ _ _ hp found ht answered hu errs =>
    obtain ⟨e, rfl⟩ := defaultResponse_lengths responded stated
    subst ht hu
    exact .inr ⟨e, failure.stage, .unshaped (failed hp) found answered errs, responded⟩
  | handled hp found ht answered hu shaped =>
    obtain rfl := Except.ok.inj responded
    subst ht hu
    -- shaping states no length, so the length is that of a response of the error handler's own
    rcases shape_lengths shaped with rfl | none
    · exact .inl (.handled (failed hp) found answered)
    · exact absurd none stated

/-! ## The settled response -/

/-- How a dispatch drops the body of a status that never carries one. -/
structure DropsBody (d : Dispatcher σ κ ν) (request : Request) (s : Session σ κ)
    (response : Response) : Prop where
  bare : response.status.hasNoBody → response.body = .empty
  /-- The headers are those of the answer. -/
  kept : response.status.hasNoBody → ∃ given,
    (d.responded request s).result = .ok given ∧ response.headers = given.headers
  /-- Where the response states a length, it is one that the application gave, but for the body, or
  the default answer to an error with a status, whose headers it has. -/
  brought : response.status.hasNoBody → response.lengths ≠ [] →
    (∃ given, d.Gives request s given ∧ response = { given with body := .empty }) ∨
    ∃ e, d.Fails request s e ∧ response = ⟨e.status, Headers.empty.appendAll e.headers, .empty⟩

/-- Every dispatch drops the body of a status that carries none and leaves the headers as they are;
a length among them is one that the application stated. -/
theorem dispatch_drops_body (d : Dispatcher σ κ ν) (request : Request) (s : Session σ κ)
    {reply : Reply σ κ} (replied : (d.dispatch request s).result = .ok reply) :
    d.DropsBody request s reply.response := by
  obtain ⟨given, responded, hsettled⟩ := outcome_eq_ok.mp (dispatch_eq_ok.mp replied).1
  constructor
  · intro h
    rw [settled_of_noBody hsettled h]
  · intro h
    refine ⟨given, responded, ?_⟩
    rw [settled_of_noBody hsettled h]
  · intro h stated
    have hresponse := settled_of_noBody hsettled h
    rw [hresponse] at h stated ⊢
    rcases responded_lengths responded stated with gives | ⟨e, stage, fails, heq⟩
    · exact .inl ⟨_, gives, rfl⟩
    · obtain ⟨hstatus, hheaders⟩ := defaultResponse_http heq
      have hheaders := hheaders (hstatus ▸ h)
      exact .inr ⟨e, fails, by rw [hstatus, hheaders]⟩

/-- A dispatcher whose handler has nothing to return but states a length. -/
def dismissiveDispatcher : Dispatcher Unit Unit Unit :=
  new (.new "GET" "/" ⟨.async, fun _ =>
    Effect.value (.response (Response.text 204 "done").setContentLength)⟩)

/-- The length of a dropped body is sent. -/
theorem dropped_body_measured :
    ∃ reply, (dismissiveDispatcher.dispatch (.new "GET" "/") ⟨(), (), []⟩).result = .ok reply ∧
      reply.response.status = 204 ∧ reply.response.body = .empty ∧
        reply.response.lengths = [Utf8.encode "4"] :=
  ⟨_, rfl, by decide⟩

/-- It is the length that the handler stated. -/
theorem dismissive_drops_body :
    ∃ reply, (dismissiveDispatcher.dispatch (.new "GET" "/") ⟨(), (), []⟩).result = .ok reply ∧
      dismissiveDispatcher.DropsBody (.new "GET" "/") ⟨(), (), []⟩ reply.response :=
  ⟨_, rfl, dispatch_drops_body _ _ _ rfl⟩

end Dispatcher

end RequestDispatch
