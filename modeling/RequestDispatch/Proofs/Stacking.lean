import RequestDispatch.Application.Basic
import RequestDispatch.Proofs.Dispatch

/-!
# Stacks of interceptors

A service in a stack of interceptors is the first interceptor around the service in the rest of the
stack, and a stack after another one is nested in it. What that means for a request is said by its
way inwards, past interceptors that pass a request on, and the way of the response back outwards.
For interceptors that write a line into a log, pass a request on at most once and write a second
line, `Onion` says which lines are written on these ways; `Service.within_stacks` says that every
request goes to the dispatcher and back, or to the first interceptor that answers by itself and
back. When the dispatcher panics instead of responding, the way back starts at the innermost
blocking interceptor, if there is one.
-/

namespace RequestDispatch

variable {σ κ ν ℓ : Type}

/-! ## One interceptor -/

namespace Interception

/-- Where the steps of an interceptor have got to. -/
inductive Pause (σ κ : Type) where
  /-- They are over. -/
  | over (result : Except Panic Response)
  /-- A request is passed on. -/
  | passing (request : Request) (resume : Response → Interception σ κ)

/-- Carries steps out up to where a request is passed on, or to their end; also the world then. -/
def advance (telemetry : κ) : Interception σ κ → σ → Pause σ κ × σ
  | .respond response, world => (.over (.ok response), world)
  | .panicked panic, world => (.over (.error panic), world)
  | .act change resume, world => advance telemetry (resume telemetry world) (change telemetry world)
  | .proceed request resume, world => (.passing request resume, world)

variable {next : Service σ κ}

/-- Before a request is passed on nothing is entered, and only the world changes. -/
theorem run_eq (next : Service σ κ) (steps : Interception σ κ) (s : Session σ κ) :
    run next steps s =
      match steps.advance s.telemetry s.world with
      | (.over result, world) => ⟨⟨result, []⟩, { s with world }, []⟩
      | (.passing request resume, world) =>
        run next (.proceed request resume) { s with world } := by
  induction steps generalizing s with
  | respond response => rfl
  | panicked panic => rfl
  | act change resume ih =>
    exact ih s.telemetry s.world { s with world := change s.telemetry s.world }
  | proceed request resume _ => rfl

/-- What the service inside responds is gone on with. -/
theorem run_proceed {request : Request} {resume : Response → Interception σ κ} {s : Session σ κ}
    {response : Response} (h : (next request s).result.result = .ok response) :
    run next (.proceed request resume) s =
      let inner := next request s
      let outer := run next (resume response) inner.session
      ⟨⟨outer.result.result, inner.result.background ++ outer.result.background⟩, outer.session,
        inner.journal ++ outer.journal⟩ := by
  simp [run, Run.bind_apply, h]

/-- After a panic of the service inside nothing more is done. -/
theorem run_proceed_error {request : Request} {resume : Response → Interception σ κ}
    {s : Session σ κ} {panic : Panic} (h : (next request s).result.result = .error panic) :
    run next (.proceed request resume) s =
      let inner := next request s
      ⟨⟨.error panic, inner.result.background⟩, inner.session, inner.journal⟩ := by
  simp [run, Run.bind_apply, h]

end Interception

open Interception

namespace Interceptor

theorem wrap_apply (m : Interceptor σ κ) (inner : Service σ κ) (request : Request)
    (s : Session σ κ) :
    m.wrap inner request s =
      let t := (m.intercept request).run inner s
      ⟨⟨contain m.mode t.result.result, t.result.background⟩, t.session, t.journal⟩ := by
  simp [wrap, Run.bind_apply]

@[simp] theorem contain_ok (mode : Mode) (response : Response) :
    contain mode (.ok response) = .ok response := by
  cases mode <;> rfl

variable {m : Interceptor σ κ} {inner : Service σ κ} {request next : Request} {s : Session σ κ}
  {resume : Response → Interception σ κ} {response answer : Response} {world left : σ}

/-- An interceptor that answers by itself: the service inside is left out. -/
theorem wrap_answers (inner : Service σ κ)
    (h : (m.intercept request).advance s.telemetry s.world = (.over (.ok response), world)) :
    m.wrap inner request s = ⟨⟨.ok response, []⟩, { s with world }, []⟩ := by
  simp [wrap_apply, run_eq, h]

/-- An interceptor that passes one request on: the service inside does all but change the world. -/
theorem wrap_passes {t : Step σ κ (Served σ κ)}
    (h : (m.intercept request).advance s.telemetry s.world = (.passing next resume, world))
    (ht : inner next { s with world } = t) (hresponse : t.result.result = .ok response)
    (hresume : (resume response).advance t.session.telemetry t.session.world =
      (.over (.ok answer), left)) :
    m.wrap inner request s =
      ⟨⟨.ok answer, t.result.background⟩, { t.session with world := left }, t.journal⟩ := by
  subst ht
  have hrest := run_eq inner (resume response) (inner next { s with world }).session
  rw [hresume] at hrest
  rw [wrap_apply, run_eq, h]
  simp [run_proceed hresponse, hrest]

/-- An interceptor that passes a request on and gets no response: the panic goes through it, unless
it is blocking. -/
theorem wrap_breaks {t : Step σ κ (Served σ κ)} {panic : Panic}
    (h : (m.intercept request).advance s.telemetry s.world = (.passing next resume, world))
    (ht : inner next { s with world } = t) (hpanic : t.result.result = .error panic) :
    m.wrap inner request s =
      ⟨⟨contain m.mode (.error panic), t.result.background⟩, t.session, t.journal⟩ := by
  subst ht
  rw [wrap_apply, run_eq, h]
  simp [run_proceed_error hpanic]

end Interceptor

/-! ## The way through a stack -/

/-- The way of a request inwards: every interceptor of a stack passes a request on, the outermost
first. Also what they will go on with, what the last one passes on, and the world then. -/
inductive Inward (telemetry : κ) : List (Interceptor σ κ) → Request → σ →
    List (Response → Interception σ κ) → Request → σ → Prop where
  | arrived (request : Request) (world : σ) : Inward telemetry [] request world [] request world
  | passes {m : Interceptor σ κ} {stack : List (Interceptor σ κ)} {request next last : Request}
      {world entered world' : σ} {resume : Response → Interception σ κ}
      {resumes : List (Response → Interception σ κ)}
      (turn : (m.intercept request).advance telemetry world = (.passing next resume, entered))
      (rest : Inward telemetry stack next entered resumes last world') :
      Inward telemetry (m :: stack) request world (resume :: resumes) last world'

/-- The way of a response outwards: the interceptors go on, the innermost first, and each makes its
own response. Also the last of these responses and the world then. -/
inductive Outward (telemetry : κ) : List (Response → Interception σ κ) → Response → σ →
    Response → σ → Prop where
  | returned (response : Response) (world : σ) : Outward telemetry [] response world response world
  | answers {resume : Response → Interception σ κ} {resumes : List (Response → Interception σ κ)}
      {response inner answer : Response} {world left world' : σ}
      (rest : Outward telemetry resumes response world inner left)
      (turn : (resume inner).advance telemetry left = (.over (.ok answer), world')) :
      Outward telemetry (resume :: resumes) response world answer world'

namespace Service

/-- A stack after another one is nested in it. -/
theorem within_append (terminal : Service σ κ) (outer inner : List (Interceptor σ κ)) :
    terminal.within (outer ++ inner) = (terminal.within inner).within outer :=
  List.foldr_append

/-- What a service does in a stack of interceptors that all pass one request on: it is called once,
between the way inwards and the way outwards. -/
theorem within_passes {terminal : Service σ κ} {stack : List (Interceptor σ κ)}
    {request last : Request} {s : Session σ κ} {resumes : List (Response → Interception σ κ)}
    {response answer : Response} {world left : σ} {t : Step σ κ (Served σ κ)}
    (inward : Inward s.telemetry stack request s.world resumes last world)
    (ht : terminal last { s with world } = t) (hresponse : t.result.result = .ok response)
    (outward : Outward t.session.telemetry resumes response t.session.world answer left) :
    terminal.within stack request s =
      ⟨⟨.ok answer, t.result.background⟩, { t.session with world := left }, t.journal⟩ := by
  induction stack generalizing request s resumes answer left with
  | nil =>
    cases inward
    cases outward
    rw [← hresponse]
    exact ht
  | cons m stack ih =>
    obtain _ | @⟨_, _, _, _, _, _, entered, _, _, _, turn, inward⟩ := inward
    obtain _ | ⟨outward, turn'⟩ := outward
    have hinner := ih (s := { s with world := entered }) inward ht outward
    have houter := Interceptor.wrap_passes turn hinner rfl turn'
    exact houter

/-- What a service does in a stack with an interceptor that answers by itself: nothing, and nor do
the interceptors inside that one. -/
theorem within_answers {outer inner : List (Interceptor σ κ)} {m : Interceptor σ κ}
    (terminal : Service σ κ) {request given : Request} {s : Session σ κ}
    {resumes : List (Response → Interception σ κ)} {response answer : Response}
    {world turned left : σ}
    (inward : Inward s.telemetry outer request s.world resumes given world)
    (turn : (m.intercept given).advance s.telemetry world = (.over (.ok response), turned))
    (outward : Outward s.telemetry resumes response turned answer left) :
    terminal.within (outer ++ m :: inner) request s =
      ⟨⟨.ok answer, []⟩, { s with world := left }, []⟩ := by
  rw [within_append]
  have hanswer := Interceptor.wrap_answers (s := { s with world }) (terminal.within inner) turn
  exact within_passes inward hanswer rfl outward

end Service

/-! ## Interceptors that log -/

/-- What an interceptor that logs has come to at its first pause: it has written a line, and has
answered with a second one or passed a request on. In the latter case it writes the second line when
it goes on, and answers then. -/
inductive Logs (lines : σ → List ℓ) (before after : ℓ) (world : σ) :
    Pause σ κ × σ → Prop where
  | answers {response : Response} {left : σ} (h : lines left = lines world ++ [before, after]) :
      Logs lines before after world (.over (.ok response), left)
  | passes {request : Request} {resume : Response → Interception σ κ} {entered : σ}
      (h : lines entered = lines world ++ [before])
      (finishes : ∀ response telemetry world, ∃ answer left,
        (resume response).advance telemetry world = (.over (.ok answer), left) ∧
          lines left = lines world ++ [after]) :
      Logs lines before after world (.passing request resume, entered)

/-- An interceptor that writes a line into a log, passes a request on at most once, and writes a
second line. Whatever else it does to the world is its own business. -/
structure LoggingInterceptor (κ : Type) (lines : σ → List ℓ) extends Interceptor σ κ where
  before : ℓ
  after : ℓ
  logs : ∀ request telemetry world,
    Logs lines before after world ((intercept request).advance telemetry world)

namespace LoggingInterceptor

variable {lines : σ → List ℓ} {telemetry : κ} {stack : List (LoggingInterceptor κ lines)}
  {request last : Request} {world entered : σ} {resumes : List (Response → Interception σ κ)}

/-- On the way inwards every interceptor of the stack writes its first line. -/
theorem lines_inward
    (h : Inward telemetry (stack.map toInterceptor) request world resumes last entered) :
    lines entered = lines world ++ stack.map before := by
  induction stack generalizing request world resumes with
  | nil =>
    cases h
    simp
  | cons m stack ih =>
    obtain _ | ⟨turn, rest⟩ := h
    have logs := m.logs request telemetry world
    rw [turn] at logs
    obtain _ | ⟨h, -⟩ := logs
    simp [ih rest, h]

/-- When the service inside panics, either all interceptors are asynchronous and the panic goes
through them, or the innermost blocking one ends it as an empty 500. -/
theorem within_breaks {terminal : Service σ κ} {s : Session σ κ} {t : Step σ κ (Served σ κ)}
    {panic : Panic}
    (inward : Inward s.telemetry (stack.map toInterceptor) request s.world resumes last entered)
    (ht : terminal last { s with world := entered } = t)
    (hpanic : t.result.result = .error panic) :
    (∀ m ∈ stack, m.mode = .async) ∧
      terminal.within (stack.map toInterceptor) request s =
        ⟨⟨.error panic, t.result.background⟩, t.session, t.journal⟩ ∨
    ∃ outer m inner resumes given reached, stack = outer ++ m :: inner ∧ m.mode = .blocking ∧
      (∀ m ∈ inner, m.mode = .async) ∧
      Inward s.telemetry (outer.map toInterceptor) request s.world resumes given reached ∧
      terminal.within ((m :: inner).map toInterceptor) given { s with world := reached } =
        ⟨⟨.ok (.ofStatus 500), t.result.background⟩, t.session, t.journal⟩ := by
  induction stack generalizing request s resumes with
  | nil =>
    cases inward
    refine .inl ⟨nofun, ?_⟩
    subst ht
    rw [← hpanic]
    rfl
  | cons m stack ih =>
    -- the outermost interceptor passed the request on, so the rest is the stack inside it
    obtain _ | @⟨_, _, _, next, _, _, passed, _, _, _, turn, rest⟩ := inward
    rcases ih (s := { s with world := passed }) rest ht with
      ⟨hasync, hwithin⟩ |
      ⟨outer, m', inner, resumes, given, reached, rfl, hblocking, hasync, inward, hwithin⟩
    · -- the panic comes as far as the outermost interceptor
      have hbroken := Interceptor.wrap_breaks turn hwithin rfl
      cases hmode : m.mode with
      | async =>
        rw [hmode] at hbroken
        exact .inl ⟨List.forall_mem_cons.mpr ⟨hmode, hasync⟩, hbroken⟩
      | blocking =>
        rw [hmode] at hbroken
        exact .inr ⟨[], m, stack, [], request, s.world, rfl, hmode, hasync, .arrived _ _, hbroken⟩
    -- a blocking interceptor further inside has stopped the panic
    · exact .inr ⟨m :: outer, m', inner, _, given, reached, rfl, hblocking, hasync,
        .passes turn inward, hwithin⟩

/-- There is a way back outwards, and on it they write their second lines, the innermost first. -/
theorem exists_outward
    (h : Inward telemetry (stack.map toInterceptor) request world resumes last entered)
    (telemetry' : κ) (response : Response) (world' : σ) :
    ∃ answer left, Outward telemetry' resumes response world' answer left ∧
      lines left = lines world' ++ (stack.map after).reverse := by
  induction stack generalizing request world resumes with
  | nil =>
    cases h
    exact ⟨_, _, .returned _ _, by simp⟩
  | cons m stack ih =>
    obtain _ | ⟨turn, rest⟩ := h
    have logs := m.logs request telemetry world
    rw [turn] at logs
    obtain _ | ⟨-, finishes⟩ := logs
    obtain ⟨inner, left, outward, hlines⟩ := ih rest
    obtain ⟨answer, left', turn', hlines'⟩ := finishes inner telemetry' left
    exact ⟨answer, left', .answers outward turn', by simp [hlines', hlines]⟩

/-- A request goes all the way inwards, or to a first interceptor that answers by itself. -/
theorem inward_or_answered (telemetry : κ) (stack : List (LoggingInterceptor κ lines))
    (request : Request) (world : σ) :
    (∃ resumes last entered,
      Inward telemetry (stack.map toInterceptor) request world resumes last entered) ∨
    ∃ outer m inner resumes given entered response left, stack = outer ++ m :: inner ∧
      Inward telemetry (outer.map toInterceptor) request world resumes given entered ∧
      (m.intercept given).advance telemetry entered = (.over (.ok response), left) ∧
      lines left = lines entered ++ [m.before, m.after] := by
  induction stack generalizing request world with
  | nil => exact .inl ⟨_, _, _, .arrived _ _⟩
  | cons m stack ih =>
    have logs := m.logs request telemetry world
    rcases turn : (m.intercept request).advance telemetry world with ⟨pause, entered⟩
    rw [turn] at logs
    cases logs with
    | @answers response _ h =>
      exact .inr ⟨[], m, stack, _, request, world, response, entered, rfl, .arrived _ _, turn, h⟩
    | @passes next resume _ h finishes =>
      rcases ih next entered with ⟨resumes, last, entered', inward⟩ |
        ⟨outer, m', inner, resumes, given, entered', response, left, rfl, inward, turn', hlines⟩
      · exact .inl ⟨_, _, _, .passes turn inward⟩
      · exact .inr ⟨m :: outer, m', inner, _, given, entered', response, left, rfl,
          .passes turn inward, turn', hlines⟩

end LoggingInterceptor

open LoggingInterceptor

/-! ## All stacks -/

/-- What a service does with a request in a stack of interceptors that log. -/
inductive Onion {lines : σ → List ℓ} (terminal : Service σ κ)
    (stack : List (LoggingInterceptor κ lines)) (request : Request) (s : Session σ κ) :
    Step σ κ (Served σ κ) → Prop where
  /-- An interceptor is the first that does not pass the request on. The lines are those on the way
  to it and back. Nothing enters the journal and nothing else changes, and whatever interceptors and
  whatever service stand inside, it would be the same. -/
  | answered {outer inner : List (LoggingInterceptor κ lines)} {m : LoggingInterceptor κ lines}
      {given : Request} {resumes : List (Response → Interception σ κ)} {response answer : Response}
      {entered turned left : σ} (split : stack = outer ++ m :: inner)
      (inward : Inward s.telemetry (outer.map toInterceptor) request s.world resumes given entered)
      (turn : (m.intercept given).advance s.telemetry entered = (.over (.ok response), turned))
      (outward : Outward s.telemetry resumes response turned answer left)
      (lines : lines left = lines s.world ++ outer.map before ++ [m.before, m.after] ++
        (outer.map after).reverse)
      (alone : ∀ (other : Service σ κ) (others : List (Interceptor σ κ)),
        other.within (outer.map toInterceptor ++ m.toInterceptor :: others) request s =
          ⟨⟨.ok answer, []⟩, { s with world := left }, []⟩) :
      Onion terminal stack request s ⟨⟨.ok answer, []⟩, { s with world := left }, []⟩
  /-- All interceptors pass the request on. What the service does with what the last one passes on
  happens once, after all first lines and before all second ones. -/
  | served {last : Request} {resumes : List (Response → Interception σ κ)}
      {response answer : Response} {entered left : σ} {t : Step σ κ (Served σ κ)}
      (inward : Inward s.telemetry (stack.map toInterceptor) request s.world resumes last entered)
      (first : lines entered = lines s.world ++ stack.map before)
      (service : terminal last { s with world := entered } = t)
      (responds : t.result.result = .ok response)
      (outward : Outward t.session.telemetry resumes response t.session.world answer left)
      (second : lines left = lines t.session.world ++ (stack.map after).reverse) :
      Onion terminal stack request s
        ⟨⟨.ok answer, t.result.background⟩, { t.session with world := left }, t.journal⟩
  /-- All interceptors pass the request on, the service panics, and no interceptor is blocking: the
  panic goes through them all, and no second line is written. -/
  | broken {last : Request} {resumes : List (Response → Interception σ κ)} {panic : Panic}
      {entered : σ} {t : Step σ κ (Served σ κ)}
      (inward : Inward s.telemetry (stack.map toInterceptor) request s.world resumes last entered)
      (first : lines entered = lines s.world ++ stack.map before)
      (service : terminal last { s with world := entered } = t)
      (panics : t.result.result = .error panic) (async : ∀ m ∈ stack, m.mode = .async) :
      Onion terminal stack request s
        ⟨⟨.error panic, t.result.background⟩, t.session, t.journal⟩
  /-- All interceptors pass the request on and the service panics. The innermost blocking one ends
  the panic as an empty 500, and those outside it go on and write their second lines. -/
  | mended {outer inner : List (LoggingInterceptor κ lines)} {m : LoggingInterceptor κ lines}
      {last given : Request} {resumes resumes' : List (Response → Interception σ κ)}
      {panic : Panic} {answer : Response} {entered reached left : σ} {t : Step σ κ (Served σ κ)}
      (split : stack = outer ++ m :: inner)
      (inward : Inward s.telemetry (stack.map toInterceptor) request s.world resumes last entered)
      (first : lines entered = lines s.world ++ stack.map before)
      (service : terminal last { s with world := entered } = t)
      (panics : t.result.result = .error panic) (blocking : m.mode = .blocking)
      (async : ∀ m ∈ inner, m.mode = .async)
      (outside :
        Inward s.telemetry (outer.map toInterceptor) request s.world resumes' given reached)
      (outward : Outward t.session.telemetry resumes' (.ofStatus 500) t.session.world answer left)
      (second : lines left = lines t.session.world ++ (outer.map after).reverse) :
      Onion terminal stack request s
        ⟨⟨.ok answer, t.result.background⟩, { t.session with world := left }, t.journal⟩

/-- A request goes to the service and back, or to the first interceptor that answers and back. -/
theorem onion {lines : σ → List ℓ} (terminal : Service σ κ)
    (stack : List (LoggingInterceptor κ lines)) (request : Request) (s : Session σ κ) :
    Onion terminal stack request s (terminal.within (stack.map toInterceptor) request s) := by
  rcases inward_or_answered s.telemetry stack request s.world with
    ⟨resumes, last, entered, inward⟩ |
    ⟨outer, m, inner, resumes, given, entered, response, turned, rfl, inward, turn, hturned⟩
  · have hlines := lines_inward inward
    -- inside the stack the service is called once, and gives a response or a panic
    rcases ht : terminal last { s with world := entered } with
      ⟨⟨panic | response, background⟩, s', journal⟩
    · rcases within_breaks inward ht rfl with
        ⟨hasync, hwithin⟩ |
        ⟨outer, m, inner, resumes', given, reached, rfl, hblocking, hasync, outside, hwithin⟩
      · rw [hwithin]
        exact .broken inward hlines ht rfl hasync
      · -- outside the blocking interceptor the empty 500 is a response like any other
        obtain ⟨answer, left, outward, hsecond⟩ :=
          exists_outward outside s'.telemetry (.ofStatus 500) s'.world
        rw [List.map_append, Service.within_append,
          Service.within_passes outside hwithin rfl outward]
        exact Onion.mended (t := ⟨⟨.error panic, background⟩, s', journal⟩) rfl inward hlines ht rfl
          hblocking hasync outside outward hsecond
    · obtain ⟨answer, left, outward, hsecond⟩ :=
        exists_outward inward s'.telemetry response s'.world
      rw [Service.within_passes inward ht rfl outward]
      exact .served inward hlines ht rfl outward hsecond
  -- an interceptor answered by itself, so nothing inside it is called
  · obtain ⟨answer, left, outward, hlines⟩ := exists_outward inward s.telemetry response turned
    have alone (other : Service σ κ) (others : List (Interceptor σ κ)) :
        other.within (outer.map toInterceptor ++ m.toInterceptor :: others) request s =
          ⟨⟨.ok answer, []⟩, { s with world := left }, []⟩ :=
      Service.within_answers other inward turn outward
    rw [List.map_append, List.map_cons, alone]
    refine .answered rfl inward turn outward ?_ alone
    rw [hlines, hturned, lines_inward inward, List.append_assoc]

namespace Dispatcher

variable {d : Dispatcher σ κ ν} {request : Request} {s : Session σ κ}

/-- Serving a request gives what its dispatch gives. -/
theorem service_result (d : Dispatcher σ κ ν) (request : Request) (s : Session σ κ) :
    (d.service request s).result.result = (d.dispatch request s).result.map Reply.response := by
  rcases h : (d.dispatch request s).result with panic | reply <;>
    simp [service, Service.dispatching, h, Except.map]

theorem service_journal (d : Dispatcher σ κ ν) (request : Request) (s : Session σ κ) :
    (d.service request s).journal = (d.dispatch request s).journal := by
  rcases h : (d.dispatch request s).result with panic | reply <;>
    simp [service, Service.dispatching, h]

private theorem countP_passed (d : Dispatcher σ κ ν) (request : Request) (s : Session σ κ) :
    (d.passed request s).journal.countP Event.isFinalized = 0 := by
  refine List.countP_eq_zero.mpr fun e he => ?_
  have hstaging := (d.pass_within request).journal _ e he
  cases e <;> simp_all [Event.isFinalized, Event.isStaging, Event.isHook, Event.isResolution,
    Event.isResolving, Event.isReleasing, Event.isProducing]

private theorem countP_responded (d : Dispatcher σ κ ν) (request : Request) (s : Session σ κ) :
    (d.responded request s).journal.countP Event.isFinalized = 0 := by
  refine List.countP_eq_zero.mpr fun e he => ?_
  have hanswering := (d.respond_within _).journal _ e he
  cases e <;> simp_all [Event.isFinalized, Event.isAnswering]

/-- A dispatch with a response emits one finalizer record. -/
theorem countP_isFinalized {response : Response} (h : d.outcome request s = .ok response) :
    (d.dispatch request s).journal.countP Event.isFinalized = 1 := by
  have released : (d.released request s response).journal.countP Event.isFinalized = 0 := by
    refine List.countP_eq_zero.mpr fun e he => ?_
    have hreleasing := (Context.release_within _).journal _ e he
    cases e <;> simp_all [Event.isFinalized, Event.isReleasing]
  have reported : (d.reported request s response).journal.countP Event.isFinalized = 1 := by
    rw [journal_reported, notices]
    split <;> rfl
  simp [dispatch_journal h, countP_passed, countP_responded, released, reported,
    Event.isFinalized]

/-- A dispatch that a panic ends emits none. -/
theorem countP_isFinalized_unwound {panic : Panic} (h : d.outcome request s = .error panic) :
    (d.dispatch request s).journal.countP Event.isFinalized = 0 := by
  simp [dispatch_unwound h, countP_passed, countP_responded, Event.isFinalized]

end Dispatcher

/-- What holds of services in stacks of interceptors. -/
structure Stacks (σ κ ν ℓ : Type) : Prop where
  /-- The interceptors are put around the service one after another, the last one first. -/
  built : ∀ (terminal : Service σ κ) (stack : List (Interceptor σ κ)),
    terminal.within stack = stack.reverse.foldl (fun service m => m.wrap service) terminal
  /-- Without interceptors there is only the service. -/
  bare : ∀ terminal : Service σ κ, terminal.within [] = terminal
  /-- The first interceptor is run with the service in the rest of the stack inside. -/
  first : ∀ (terminal : Service σ κ) (m : Interceptor σ κ) (stack : List (Interceptor σ κ))
    (request : Request) (s : Session σ κ),
    terminal.within (m :: stack) request s =
      let t := (m.intercept request).run (terminal.within stack) s
      ⟨⟨Interceptor.contain m.mode t.result.result, t.result.background⟩, t.session, t.journal⟩
  /-- A stack after another one is nested in it. -/
  nested : ∀ (terminal : Service σ κ) (outer inner : List (Interceptor σ κ)),
    terminal.within (outer ++ inner) = (terminal.within inner).within outer
  /-- The interceptors of a place are nested in those of the application. -/
  placed : ∀ (a : Application σ κ ν) (route : Route σ κ ν) (place : Placement σ κ ν),
    (a.endpoint route place).service =
      ((a.dispatcher route place).service.within place.interceptors).within a.interceptors
  /-- Interceptors that log do so around a dispatch, or around the first that answers by itself. -/
  logged : ∀ (lines : σ → List ℓ) (d : Dispatcher σ κ ν)
    (stack : List (LoggingInterceptor κ lines)) (request : Request) (s : Session σ κ),
    Onion d.service stack request s (d.service.within (stack.map toInterceptor) request s)
  /-- A dispatcher that is called and responds emits one finalizer record. -/
  recorded : ∀ (d : Dispatcher σ κ ν) (request : Request) (s : Session σ κ) (response : Response),
    (d.service request s).result.result = .ok response →
      (d.service request s).journal.countP Event.isFinalized = 1
  /-- One that panics emits none. -/
  unrecorded : ∀ (d : Dispatcher σ κ ν) (request : Request) (s : Session σ κ) (panic : Panic),
    (d.service request s).result.result = .error panic →
      (d.service request s).journal.countP Event.isFinalized = 0

/-- Services in stacks of interceptors run them as nested layers. -/
theorem Service.within_stacks : Stacks σ κ ν ℓ where
  built terminal stack := by rw [List.foldl_reverse]; rfl
  bare _ := rfl
  first terminal m stack request s := m.wrap_apply (terminal.within stack) request s
  nested := within_append
  placed a route place := within_append _ a.interceptors place.interceptors
  logged _ d stack := onion d.service stack
  recorded d request s response h := by
    rw [d.service_result, d.dispatch_response] at h
    rw [d.service_journal]
    exact Dispatcher.countP_isFinalized h
  unrecorded d request s panic h := by
    rw [d.service_result, d.dispatch_response] at h
    rw [d.service_journal]
    exact Dispatcher.countP_isFinalized_unwound h

/-! ## Two interceptors that log -/

/-- A log of who was entered and who was left. -/
abbrev Trace := List (String ⊕ String)

/-- An interceptor that writes around the service inside. -/
def tracer (name : String) : LoggingInterceptor κ (id : Trace → Trace) where
  mode := .async
  intercept request :=
    .act (fun _ log => log ++ [.inl name]) fun _ _ =>
      .proceed request fun response =>
        .act (fun _ log => log ++ [.inr name]) fun _ _ => .respond response
  before := .inl name
  after := .inr name
  logs _ _ _ := .passes rfl fun _ _ _ => ⟨_, _, rfl, rfl⟩

/-- An interceptor that writes and lets no request through. -/
def gatekeeper (name : String) : LoggingInterceptor κ (id : Trace → Trace) where
  mode := .blocking
  intercept _ :=
    .act (fun _ log => log ++ [.inl name, .inr name]) fun _ _ => .respond (.ofStatus 403)
  before := .inl name
  after := .inr name
  logs _ _ _ := .answers rfl

/-- Whatever stands inside a gatekeeper does not happen. -/
example (service : Service Trace κ) (request : Request) (telemetry : κ) :
    (service.within ([tracer "a", gatekeeper "b", tracer "c"].map toInterceptor) request
      ⟨[], telemetry, []⟩).session.world = [.inl "a", .inl "b", .inr "b", .inr "a"] := by
  cbv

end RequestDispatch
