import RequestDispatch.Proofs.Frames

/-!
# A dispatch in its parts

A dispatch opens the span, takes the request through the stages, answers a failure, reports and
releases, in this order. This file names the step of each part, started in the session that the part
before leaves. `Dispatcher.outcome` is the response that a dispatch will give, or the panic that
ends it before the report; `Dispatcher.dispatch_returned` puts a dispatch that gives a response
together from its parts, and `Dispatcher.dispatch_unwound` one that a panic ends.
-/

namespace RequestDispatch

namespace Dispatcher

variable {σ κ ν : Type}

/-! ## The parts -/

/-- The session in which the stages of a dispatch start. -/
def opened (d : Dispatcher σ κ ν) (s : Session σ κ) : Session σ κ :=
  (Run.notify d.observability (.spanOpened d.spanName) { s with queue := [] }).session

/-- The stages of a dispatch. -/
def passed (d : Dispatcher σ κ ν) (request : Request) (s : Session σ κ) :
    Step σ κ (Passage σ κ ν) :=
  d.pass request (d.opened s)

/-- The answer to a failed stage, or the response that the stages gave, or a panic. -/
def responded (d : Dispatcher σ κ ν) (request : Request) (s : Session σ κ) :
    Step σ κ (Except Panic Response) :=
  d.respond (d.passed request s).result (d.passed request s).session

/-- The failed stage of a dispatch, if one failed. -/
def failed? (d : Dispatcher σ κ ν) (request : Request) (s : Session σ κ) : Option StageFailure :=
  (d.passed request s).result.failure?

theorem Passage.failure?_eq_some {p : Passage σ κ ν} {failure : StageFailure} :
    p.failure? = some failure ↔ p.result = .error (.failed failure) := by
  unfold Passage.failure?
  split <;> simp_all

/-- The response that a dispatch gives, or the panic that ends it before its report. -/
def outcome (d : Dispatcher σ κ ν) (request : Request) (s : Session σ κ) : Except Panic Response :=
  (d.responded request s).result.bind settled

/-- What a dispatch with a response reports. -/
def finish (d : Dispatcher σ κ ν) (request : Request) (s : Session σ κ) (response : Response) :
    Finish σ κ ν :=
  { request := (d.passed request s).result.request
    response
    reason := (d.failed? request s).map fun failure => failure.error.message
    context := (d.passed request s).result.context }

/-- How long the dispatch took when it reports. -/
def elapsed (d : Dispatcher σ κ ν) (request : Request) (s : Session σ κ) : Nat :=
  d.clock (d.responded request s).session.world - d.clock s.world

/-- The report of a dispatch with a response. -/
def reported (d : Dispatcher σ κ ν) (request : Request) (s : Session σ κ) (response : Response) :
    Step σ κ Unit :=
  d.report (d.finish request s response) (d.elapsed request s) (d.responded request s).session

/-- The release at the end of a dispatch with a response. -/
def released (d : Dispatcher σ κ ν) (request : Request) (s : Session σ κ) (response : Response) :
    Step σ κ (List DispatchError × Context σ κ ν) :=
  (d.passed request s).result.context.release (d.reported request s response).session

/-- The end of a dispatch that a panic ends. -/
def abandoned (d : Dispatcher σ κ ν) (request : Request) (s : Session σ κ) : Step σ κ Unit :=
  Run.notify d.observability (.spanClosed d.spanName) (d.responded request s).session

/-! ## The settled response -/

/-- What an answer is settled as, if there is room for its length. -/
theorem settled_eq_ok {given response : Response} (h : settled given = .ok response) :
    response =
      if given.status.hasNoBody then { given with body := .empty } else given.setContentLength := by
  unfold settled at h
  split at h
  · next bodiless => rw [if_pos bodiless, Except.ok.inj h]
  · next bodied =>
    split at h
    · cases h
    · rw [if_neg bodied, Except.ok.inj h]

/-- Settling an answer keeps its status. -/
theorem status_settled {given response : Response} (h : settled given = .ok response) :
    response.status = given.status := by
  rw [settled_eq_ok h]
  split <;> rfl

theorem settled_of_noBody {given response : Response} (h : settled given = .ok response)
    (bodiless : response.status.hasNoBody) : response = { given with body := .empty } := by
  rw [status_settled h] at bodiless
  rw [settled_eq_ok h, if_pos bodiless]

theorem settled_of_body {given response : Response} (h : settled given = .ok response)
    (bodied : ¬ response.status.hasNoBody) : response = given.setContentLength := by
  rw [status_settled h] at bodied
  rw [settled_eq_ok h, if_neg bodied]

/-- An answer whose headers are few has room for its length. -/
theorem settled_of_few {given : Response} (bodied : ¬ given.status.hasNoBody)
    (few : given.headers.fields.length < Headers.room) :
    settled given = .ok given.setContentLength := by
  have hroom : ¬ Headers.room ≤ given.headers.fields.length := Nat.not_le.mpr few
  simp [settled, bodied, Headers.isFull, hroom]

/-- A response that a dispatch gives is an answer that has been settled. -/
theorem outcome_eq_ok {d : Dispatcher σ κ ν} {request : Request} {s : Session σ κ}
    {response : Response} : d.outcome request s = .ok response ↔
      ∃ given, (d.responded request s).result = .ok given ∧ settled given = .ok response := by
  rw [outcome]
  rcases (d.responded request s).result with panic | given
  · simp [Except.bind]
  · simp [Except.bind]

/-! ## The report -/

/-- The notices of a report in order. -/
def notices (d : Dispatcher σ κ ν) (finish : Finish σ κ ν) (duration : Nat) : List Notice :=
  .counted requestsMetric 1 :: ((if finish.reason.isSome then [.counted errorsMetric 1] else []) ++
    [.counted durationMetric duration, .finalized (d.record finish duration),
      .spanClosed d.spanName])

/-- Notices given one after another. -/
def notifyAll (o : Observability σ κ) : List Notice → Run σ κ Unit
  | [] => pure ()
  | notice :: notices => do
    Run.notify o notice
    notifyAll o notices

theorem journal_notifyAll (o : Observability σ κ) (notices : List Notice) (s : Session σ κ) :
    (notifyAll o notices s).journal = notices.map .notice := by
  induction notices generalizing s with
  | nil => rfl
  | cons notice notices ih => simp [notifyAll, ih]

/-- A report is its notices. -/
theorem report_eq (d : Dispatcher σ κ ν) (finish : Finish σ κ ν) (duration : Nat) :
    d.report finish duration = notifyAll d.observability (d.notices finish duration) := by
  cases h : finish.reason.isSome <;> simp only [report, notices, h] <;> rfl

theorem journal_reported (d : Dispatcher σ κ ν) (request : Request) (s : Session σ κ)
    (response : Response) :
    (d.reported request s response).journal =
      (d.notices (d.finish request s response) (d.elapsed request s)).map .notice := by
  rw [reported, report_eq, journal_notifyAll]

/-! ## The whole -/

variable {d : Dispatcher σ κ ν} {request : Request} {s : Session σ κ} {response : Response}
  {panic : Panic}

/-- A dispatch with a response is its parts, one after another. -/
theorem dispatch_returned (h : d.outcome request s = .ok response) :
    d.dispatch request s =
      ⟨.ok ⟨response, (d.released request s response).session.queue⟩,
        { (d.released request s response).session with queue := s.queue },
        .notice (.spanOpened d.spanName) :: ((d.passed request s).journal ++
          (d.responded request s).journal ++ (d.reported request s response).journal ++
            (d.released request s response).journal)⟩ := by
  have hgiven : (d.respond (d.passed request s).result (d.passed request s).session).result.bind
      settled = .ok response := h
  have hattempt : d.attempt request (d.opened s) = ⟨.ok (d.finish request s response),
      (d.responded request s).session,
      (d.passed request s).journal ++ (d.responded request s).journal⟩ := by
    simp only [attempt, Run.bind_apply, Run.pure_apply, List.append_nil]
    rw [show d.pass request (d.opened s) = d.passed request s from rfl, hgiven]
    rfl
  have hopened : (Run.notify d.observability (.spanOpened d.spanName)
      { s with queue := [] }).session = d.opened s := rfl
  simp only [dispatch, serve, conclude, Run.bind_apply, Run.withQueue, Run.look_apply, hopened,
    hattempt, Run.pure_apply, List.append_nil, List.nil_append, Run.journal_notify]
  simp only [released, reported, finish, elapsed, Except.map, List.append_assoc, List.cons_append,
    List.nil_append]

/-- A dispatch that a panic ends is its parts up to there, and the span is closed. -/
theorem dispatch_unwound (h : d.outcome request s = .error panic) :
    d.dispatch request s =
      ⟨.error panic, { (d.abandoned request s).session with queue := s.queue },
        .notice (.spanOpened d.spanName) :: ((d.passed request s).journal ++
          (d.responded request s).journal ++ [.notice (.spanClosed d.spanName)])⟩ := by
  have hgiven : (d.respond (d.passed request s).result (d.passed request s).session).result.bind
      settled = .error panic := h
  have hattempt : d.attempt request (d.opened s) = ⟨.error panic,
      (d.responded request s).session,
      (d.passed request s).journal ++ (d.responded request s).journal⟩ := by
    simp only [attempt, Run.bind_apply, Run.pure_apply, List.append_nil]
    rw [show d.pass request (d.opened s) = d.passed request s from rfl, hgiven]
    rfl
  have hopened : (Run.notify d.observability (.spanOpened d.spanName)
      { s with queue := [] }).session = d.opened s := rfl
  simp only [dispatch, serve, conclude, Run.bind_apply, Run.withQueue, Run.look_apply, hopened,
    hattempt, Run.pure_apply, List.append_nil, List.nil_append, Run.journal_notify]
  simp only [abandoned, Except.map, List.append_assoc, List.cons_append, List.nil_append]

/-- A dispatch gives a reply if its outcome is a response; the reply also has what is
queued then. -/
theorem dispatch_eq_ok {reply : Reply σ κ} :
    (d.dispatch request s).result = .ok reply ↔ d.outcome request s = .ok reply.response ∧
      reply.background = (d.released request s reply.response).session.queue := by
  cases h : d.outcome request s with
  | error panic => simp [dispatch_unwound h]
  | ok response =>
    obtain ⟨given, background⟩ := reply
    simp only [dispatch_returned h, Except.ok.injEq, Reply.mk.injEq]
    constructor <;> rintro ⟨rfl, rfl⟩ <;> exact ⟨rfl, rfl⟩

/-- A dispatch with a response gives a reply with it. -/
theorem exists_reply (h : d.outcome request s = .ok response) :
    ∃ reply, (d.dispatch request s).result = .ok reply ∧ reply.response = response := by
  rw [dispatch_returned h]
  exact ⟨_, rfl, rfl⟩

/-- A dispatch ends with a panic if its outcome is one. -/
theorem dispatch_eq_error :
    (d.dispatch request s).result = .error panic ↔ d.outcome request s = .error panic := by
  cases h : d.outcome request s with
  | error panic => simp [dispatch_unwound h]
  | ok response => simp [dispatch_returned h]

/-- What a dispatch responds is its outcome. -/
theorem dispatch_response (d : Dispatcher σ κ ν) (request : Request) (s : Session σ κ) :
    (d.dispatch request s).result.map Reply.response = d.outcome request s := by
  cases h : d.outcome request s with
  | error panic => simp [dispatch_unwound h, Except.map]
  | ok response => simp [dispatch_returned h, Except.map]

/-- The journal of a dispatch with a response is that of its parts, one after another. -/
theorem dispatch_journal (h : d.outcome request s = .ok response) :
    (d.dispatch request s).journal =
      .notice (.spanOpened d.spanName) :: ((d.passed request s).journal ++
        (d.responded request s).journal ++ (d.reported request s response).journal ++
          (d.released request s response).journal) := by
  rw [dispatch_returned h]

end Dispatcher

/-- A handler that panics when it is called, before there is anything to wait for. -/
def Handler.hasty {σ κ ν : Type} : Handler σ κ ν :=
  ⟨.async, fun _ _ world => (.error (.panicked .other true), world, [])⟩

end RequestDispatch
