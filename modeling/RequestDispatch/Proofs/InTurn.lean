import RequestDispatch.Proofs.Dispatch

/-!
# Hooks in turn

`InTurn` is the order in which hooks are called: one after another, each with what the one before
passed on, until one stops. The three loops over hooks follow it, so what holds of hooks is proved
once, of calls in turn: they are numbered without a gap, and all are made if none stops.
-/

namespace RequestDispatch

/-! ## Calls in turn -/

section InTurn

variable {σ κ ι α β : Type}

/-- Calls made one after another, numbered from a position on, until one stops: each is made with
what the one before passed on. The result is what was passed on last and what the stopping call
gave. -/
inductive InTurn (call : Nat → ι → α → Run σ κ (α ⊕ β)) :
    Nat → List ι → α → Session σ κ → Step σ κ (α × Option β) → Prop where
  | done (position : Nat) (a : α) (s : Session σ κ) :
      InTurn call position [] a s ⟨(a, none), s, []⟩
  | stopped {position : Nat} {i : ι} (is : List ι) {a : α} {s : Session σ κ} {b : β}
      (h : (call position i a s).result = .inr b) :
      InTurn call position (i :: is) a s
        ⟨(a, some b), (call position i a s).session, (call position i a s).journal⟩
  | passed {position : Nat} {i : ι} {is : List ι} {a a' : α} {s : Session σ κ}
      {t : Step σ κ (α × Option β)} (h : (call position i a s).result = .inl a')
      (rest : InTurn call (position + 1) is a' (call position i a s).session t) :
      InTurn call position (i :: is) a s
        ⟨t.result, t.session, (call position i a s).journal ++ t.journal⟩

/-- The calls are numbered without a gap, and all are made if none stops. -/
theorem InTurn.positions {call : Nat → ι → α → Run σ κ (α ⊕ β)} {events : Nat → List Event}
    (hcall : ∀ position i a s, (call position i a s).journal = events position) {position : Nat}
    {is : List ι} {a : α} {s : Session σ κ} {t : Step σ κ (α × Option β)}
    (h : InTurn call position is a s t) :
    ∃ n ≤ is.length, t.journal = (List.range' position n).flatMap events ∧
      (t.result.2 = none → n = is.length) := by
  -- a stopping call is the last one, and a passing call precedes the calls of the rest
  induction h with
  | done => exact ⟨0, Nat.le_refl _, rfl, fun _ => rfl⟩
  | stopped is h => exact ⟨1, by simp, by simp [hcall], fun hnone => nomatch hnone⟩
  | passed h rest ih =>
    obtain ⟨n, hn, ht, hall⟩ := ih
    refine ⟨n + 1, by simpa using hn, ?_, fun hnone => by simp [hall hnone]⟩
    simp [hcall, ht, List.range'_succ]

/-- There is one way of making calls in turn. -/
theorem InTurn.unique {call : Nat → ι → α → Run σ κ (α ⊕ β)} {position : Nat} {is : List ι} {a : α}
    {s : Session σ κ} {t t' : Step σ κ (α × Option β)} (h : InTurn call position is a s t)
    (h' : InTurn call position is a s t') : t = t' := by
  -- the first call decides whether the others are made
  induction h generalizing t' with
  | done =>
    cases h'
    rfl
  | stopped is h =>
    cases h' with
    | stopped _ h' =>
      rw [h] at h'
      rw [Sum.inr.inj h']
    | passed h' _ =>
      rw [h] at h'
      cases h'
  | passed h _ ih =>
    cases h' with
    | stopped _ h' =>
      rw [h] at h'
      cases h'
    | passed h' rest' =>
      rw [h] at h'
      obtain rfl := Sum.inl.inj h'
      rw [ih rest']

/-- Calls in turn enter what the single calls enter. -/
theorem InTurn.within {call : Nat → ι → α → Run σ κ (α ⊕ β)} {kind : Event → Bool}
    (hcall : ∀ position i a s, ∀ e ∈ (call position i a s).journal, kind e) {position : Nat}
    {is : List ι} {a : α} {s : Session σ κ} {t : Step σ κ (α × Option β)}
    (h : InTurn call position is a s t) : ∀ e ∈ t.journal, kind e := by
  induction h with
  | done => exact fun e he => absurd he List.not_mem_nil
  | stopped is h => exact hcall _ _ _ _
  | passed h rest ih => exact fun e he => (List.mem_append.mp he).elim (hcall _ _ _ _ e) (ih e)

/-- What stops calls in turn is what one of the calls gave. -/
theorem InTurn.stopped_by {call : Nat → ι → α → Run σ κ (α ⊕ β)} {position : Nat} {is : List ι}
    {a : α} {b : β} {s : Session σ κ} {t : Step σ κ (α × Option β)}
    (h : InTurn call position is a s t) (ht : t.result.2 = some b) :
    ∃ position i a s, (call position i a s).result = .inr b := by
  induction h with
  | done => exact nomatch ht
  | stopped is h => exact ⟨_, _, _, _, h.trans (congrArg _ (Option.some.inj ht))⟩
  | passed h rest ih => exact ih ht

end InTurn

/-! ## Calls in a journal -/

/-- A call of a factory. -/
def Event.isInvoked : Event → Bool
  | .invoked _ _ _ _ => true
  | _ => false

/-- A call of a hook, a factory or a handler. -/
def Event.isCall : Event → Bool
  | .intakeHook _ | .requestHook _ | .invoked _ _ _ _ | .handler | .responseHook _
  | .exceptionHandler _ => true
  | _ => false

/-- The calls of hooks, factories and handlers in a journal. -/
def callsIn (journal : List Event) : List Event := journal.filter Event.isCall

@[simp] theorem callsIn_nil : callsIn [] = [] := rfl

@[simp] theorem callsIn_append (first second : List Event) :
    callsIn (first ++ second) = callsIn first ++ callsIn second := List.filter_append ..

theorem callsIn_cons (e : Event) (journal : List Event) :
    callsIn (e :: journal) = if e.isCall then e :: callsIn journal else callsIn journal :=
  List.filter_cons

theorem callsIn_eq_nil {journal : List Event} (h : ∀ e ∈ journal, ¬ e.isCall) :
    callsIn journal = [] :=
  List.filter_eq_nil_iff.mpr h

/-- The calls in turn are calls from the first position on. -/
theorem InTurn.calls {σ κ ι α β : Type} {call : Nat → ι → α → Run σ κ (α ⊕ β)}
    (event : Nat → Event) (hevent : ∀ position, (event position).isCall)
    (hcall : ∀ position i a s, (call position i a s).journal = [event position]) {is : List ι}
    {a : α} {s : Session σ κ} {t : Step σ κ (α × Option β)} (h : InTurn call 0 is a s t) :
    ∃ n ≤ is.length, callsIn t.journal = (List.range n).map event ∧
      (t.result.2 = none → n = is.length) := by
  obtain ⟨n, hn, ht, hall⟩ := h.positions hcall
  refine ⟨n, hn, ?_, hall⟩
  rw [ht, ← List.map_eq_flatMap, List.range_eq_range', callsIn, List.filter_eq_self]
  simp [hevent]

variable {σ κ ν : Type}

namespace Dispatcher

/-! ## Hooks in turn -/

/-- The call of an intake hook: the request to go on with, or the result of the dispatch. -/
def intakeCall (position : Nat) (hook : IntakeHook σ κ) (request : Request) :
    Run σ κ (Request ⊕ Except (Stop StageFailure) Response) := do
  let decision ← Run.performAlone (.intakeHook position) (hook.call request)
  return match decision.called hook.mode with
    | .ok (.forward next) => .inl next
    | .ok (.respond response) => .inr (.ok response)
    | .error stop => .inr (.error (stop.map (.mk .preHook)))

/-- The call of a request hook: the dispatch goes on, or it has its result. -/
def requestCall (view : RequestView) (position : Nat) (hook : RequestHook σ κ) (_ : Unit) :
    Run σ κ (Unit ⊕ Except (Stop StageFailure) Response) := do
  let answer ← Run.perform (.requestHook position) (hook.call view)
  return match answer.called hook.mode with
    | .ok none => .inl ()
    | .ok (some response) => .inr (.ok response)
    | .error stop => .inr (.error (stop.map (.mk .preHook)))

/-- The call of a response hook: the response to go on with, or a failure. -/
def responseCall (view : RequestView) (position : Nat) (hook : ResponseHook σ κ)
    (response : Response) : Run σ κ (Response ⊕ Stop StageFailure) := do
  let changed ← Run.perform (.responseHook position) (hook.call view response)
  return match changed.called hook.mode with
    | .ok response => .inl response
    | .error stop => .inr (stop.map (.mk .postHook))

/-- The intake hooks are called in turn, each with the request that the one before forwards. -/
theorem takeIn_inTurn (position : Nat) (hooks : List (IntakeHook σ κ)) (request : Request)
    (s : Session σ κ) :
    InTurn intakeCall position hooks request s (takeIn position hooks request s) := by
  induction hooks generalizing position request s with
  | nil => exact .done _ _ _
  | cons hook hooks ih =>
    -- by what the first hook decides: it stops, forwards a request or responds
    rcases h : (Run.performAlone (.intakeHook position) (hook.call request) s).result.called
      hook.mode with stop | (next | response)
    · have hcall : (intakeCall position hook request s).result =
          .inr (.error (stop.map (.mk .preHook))) := by
        simp [intakeCall, h]
      simpa [takeIn, intakeCall, Run.bind_apply, h] using InTurn.stopped hooks hcall
    · have hcall : (intakeCall position hook request s).result = .inl next := by
        simp [intakeCall, h]
      have hpassed := InTurn.passed hcall (ih (position + 1) next _)
      simpa [takeIn, intakeCall, Run.bind_apply, h] using hpassed
    · have hcall : (intakeCall position hook request s).result = .inr (.ok response) := by
        simp [intakeCall, h]
      simpa [takeIn, intakeCall, Run.bind_apply, h] using InTurn.stopped hooks hcall

/-- What the request hooks decided: a result of the dispatch, or to go on. -/
def consulted :
    Unit × Option (Except (Stop StageFailure) Response) →
      Except (Stop StageFailure) (Option Response)
  | (_, none) => .ok none
  | (_, some result) => result.map some

/-- The request hooks are called in turn. -/
theorem consult_inTurn (view : RequestView) (position : Nat) (hooks : List (RequestHook σ κ))
    (s : Session σ κ) :
    ∃ t, InTurn (requestCall view) position hooks () s t ∧
      consult view position hooks s = ⟨consulted t.result, t.session, t.journal⟩ := by
  induction hooks generalizing position s with
  | nil => exact ⟨_, .done _ _ _, rfl⟩
  | cons hook hooks ih =>
    -- by what the first hook gives: a stop, nothing or a response
    rcases h : (Run.perform (.requestHook position) (hook.call view) s).result.called
      hook.mode with stop | (_ | response)
    · have hcall : (requestCall view position hook () s).result =
          .inr (.error (stop.map (.mk .preHook))) := by
        simp [requestCall, h]
      refine ⟨_, .stopped hooks hcall, ?_⟩
      simp [consult, requestCall, consulted, Run.bind_apply, h, Except.map]
    · have hcall : (requestCall view position hook () s).result = .inl () := by
        simp [requestCall, h]
      obtain ⟨t, ht, hconsult⟩ := ih (position + 1) (requestCall view position hook () s).session
      refine ⟨_, .passed hcall ht, ?_⟩
      simp only [requestCall, Run.bind_apply, Run.pure_apply, h] at hconsult ⊢
      simp [consult, Run.bind_apply, h, hconsult]
    · have hcall : (requestCall view position hook () s).result = .inr (.ok response) := by
        simp [requestCall, h]
      refine ⟨_, .stopped hooks hcall, ?_⟩
      simp [consult, requestCall, consulted, Run.bind_apply, h, Except.map]

/-- What the response hooks made of the response. -/
def polished : Response × Option (Stop StageFailure) → Except (Stop StageFailure) Response
  | (response, none) => .ok response
  | (_, some stop) => .error stop

/-- The response hooks are called in turn, each with the response that the one before gives. -/
theorem polish_inTurn (view : RequestView) (position : Nat) (hooks : List (ResponseHook σ κ))
    (response : Response) (s : Session σ κ) :
    ∃ t, InTurn (responseCall view) position hooks response s t ∧
      polish view position hooks response s = ⟨polished t.result, t.session, t.journal⟩ := by
  induction hooks generalizing position response s with
  | nil => exact ⟨_, .done _ _ _, rfl⟩
  | cons hook hooks ih =>
    rcases h : (Run.perform (.responseHook position) (hook.call view response) s).result.called
      hook.mode with stop | next
    · have hcall : (responseCall view position hook response s).result =
          .inr (stop.map (.mk .postHook)) := by
        simp [responseCall, h]
      refine ⟨_, .stopped hooks hcall, ?_⟩
      simp [polish, responseCall, polished, Run.bind_apply, h]
    · have hcall : (responseCall view position hook response s).result = .inl next := by
        simp [responseCall, h]
      obtain ⟨t, ht, hpolish⟩ := ih (position + 1) next
        (responseCall view position hook response s).session
      refine ⟨_, .passed hcall ht, ?_⟩
      simp only [responseCall, Run.bind_apply, Run.pure_apply, h] at hpolish ⊢
      simp [polish, Run.bind_apply, h, hpolish]

end Dispatcher

end RequestDispatch
