import RequestDispatch.Proofs.Postorder
import RequestDispatch.Proofs.Stacking
import RequestDispatch.Proofs.Streams

/-!
# The request that is bound

Every intake hook is given the request as a value of its own, and only a hook that forwards puts
another one in its place. `IntakeHook.Forwards` is the fold of the hooks up to the first one that
answers, fails or panics. `Dispatcher.dispatch_forwards` says that the dispatch goes on with the
request that the fold gives: code that does the same with this one request makes the same dispatch,
whatever it does with another one. The flag for cancelling is no part of a request: all copies lead
to it by their token, so a hook that fails may leave it set (`Dispatcher.cancelled_copy_seen`).
-/

namespace RequestDispatch

/-! ## Calls of intake hooks -/

namespace Event

/-- A call of an intake hook. -/
def isIntakeHook : Event → Bool
  | .intakeHook _ => true
  | _ => false

/-- Events of a kind to which calls of intake hooks do not belong are no such calls. -/
theorem not_isIntakeHook {kind : Event → Bool} {e : Event} (h : kind e)
    (hkind : ∀ position, kind (.intakeHook position) = false) : ¬ e.isIntakeHook := by
  intro hintake
  unfold isIntakeHook at hintake
  split at hintake
  · next position =>
    rw [hkind] at h
    cases h
  · cases hintake

/-- Other events than calls of intake hooks are left out. -/
theorem filter_isIntakeHook {kind : Event → Bool} {journal : List Event}
    (h : ∀ e ∈ journal, kind e) (hkind : ∀ position, kind (.intakeHook position) = false) :
    journal.filter isIntakeHook = [] :=
  List.filter_eq_nil_iff.mpr fun e he => not_isIntakeHook (h e he) hkind

end Event

/-! ## Hooks that forward -/

namespace IntakeHook

variable {σ κ : Type}

/-- The request that a hook forwards with the world it leaves, if it forwards. -/
def forward? (telemetry : κ) : Request × σ → IntakeHook σ κ → Option (Request × σ)
  | (request, world), hook =>
    match hook.call request telemetry world with
    | (.ok (.forward next), world) => some (next, world)
    | _ => none

/-- A hook passes a request on if that is how its code ends. -/
theorem forward?_eq_some {telemetry : κ} {hook : IntakeHook σ κ} {request next : Request}
    {world left : σ} :
    forward? telemetry (request, world) hook = some (next, left) ↔
      hook.call request telemetry world = (.ok (.forward next), left) := by
  rcases hcall : hook.call request telemetry world with
    ⟨failure | (forwarded | response), world'⟩ <;>
    simp [forward?, hcall]

/-- The first hooks, this many, forward what the one before forwards, and after that there is no
hook or one that does not forward. -/
structure Forwards (telemetry : κ) (hooks : List (IntakeHook σ κ)) (start : Request × σ) (n : Nat)
    (final : Request × σ) : Prop where
  le : n ≤ hooks.length
  fold : (hooks.take n).foldlM (forward? telemetry) start = some final
  stops : ∀ hook, hooks[n]? = some hook → forward? telemetry final hook = none

variable {telemetry : κ} {start final final' : Request × σ} {n n' : Nat}
  {hooks : List (IntakeHook σ κ)}

/-- Some number of hooks forwards. -/
theorem exists_forwards (telemetry : κ) (hooks : List (IntakeHook σ κ)) (start : Request × σ) :
    ∃ n final, Forwards telemetry hooks start n final := by
  induction hooks generalizing start with
  | nil => exact ⟨0, start, Nat.le_refl _, rfl, nofun⟩
  | cons hook hooks ih =>
    rcases hnext : forward? telemetry start hook with _ | next
    · refine ⟨0, start, Nat.zero_le _, rfl, fun other hother => ?_⟩
      obtain rfl : hook = other := by simpa using hother
      exact hnext
    · obtain ⟨n, final, le, fold, stops⟩ := ih next
      exact ⟨n + 1, final, Nat.succ_le_succ le, by simp [hnext, fold], by simpa using stops⟩

/-- As far as hooks forward, none of them stops. -/
theorem Forwards.le_of_fold (h : Forwards telemetry hooks start n final) (hle : n' ≤ hooks.length)
    (fold : (hooks.take n').foldlM (forward? telemetry) start = some final') : n' ≤ n := by
  -- a fold over more hooks would have to pass the one that stops
  refine Nat.le_of_not_lt fun hless => ?_
  have hn : n < hooks.length := Nat.lt_of_lt_of_le hless hle
  have hsplit : hooks.take n' = hooks.take n ++ hooks[n] :: (hooks.take n').drop (n + 1) := by
    have hcons := List.drop_eq_getElem_cons (l := hooks.take n') (i := n) (by simp [hless, hn])
    rw [List.getElem_take] at hcons
    have htake : (hooks.take n').take n = hooks.take n := by
      rw [List.take_take, Nat.min_eq_left hless.le]
    rw [← hcons, ← htake, List.take_append_drop]
  rw [hsplit, List.foldlM_append, h.fold] at fold
  simp [h.stops _ (List.getElem?_eq_getElem hn)] at fold

/-- The hooks that forward are as many as they are, and they forward one request. -/
theorem Forwards.unique (h : Forwards telemetry hooks start n final)
    (h' : Forwards telemetry hooks start n' final') : n' = n ∧ final' = final := by
  obtain rfl : n' = n :=
    Nat.le_antisymm (h.le_of_fold h'.le h'.fold) (h'.le_of_fold h.le h.fold)
  exact ⟨rfl, Option.some.inj (h'.fold.symm.trans h.fold)⟩

end IntakeHook

/-! ## Code that does the same with one request

What such code does with another request is left open. -/

section Agreeing

variable {σ κ ν : Type}

/-- Request hooks that do the same with a request. -/
structure RequestHook.AgreesOn (view : RequestView) (hook hook' : RequestHook σ κ) : Prop where
  mode : hook.mode = hook'.mode
  call : hook.call view = hook'.call view

/-- Handlers that do the same with a request. -/
structure Handler.AgreesOn (view : RequestView) (handler handler' : Handler σ κ ν) : Prop where
  mode : handler.mode = handler'.mode
  call : ∀ values dependencies,
    handler.call ⟨values, dependencies, view⟩ = handler'.call ⟨values, dependencies, view⟩

/-- Response hooks that do the same with a request. -/
structure ResponseHook.AgreesOn (view : RequestView) (hook hook' : ResponseHook σ κ) : Prop where
  mode : hook.mode = hook'.mode
  call : hook.call view = hook'.call view

/-- Error handlers that do the same with a request. -/
structure ErrorHandler.AgreesOn (view : RequestView) (handler handler' : ErrorHandler σ κ) :
    Prop where
  errorClass : handler.errorClass = handler'.errorClass
  mode : handler.mode = handler'.mode
  call : handler.call view = handler'.call view

/-- What is called with the bound request or read from it. -/
structure Readers (σ κ ν : Type) where
  requestHooks : List (RequestHook σ κ)
  params : List Param
  handler : Handler σ κ ν
  responseHooks : List (ResponseHook σ κ)
  errorHandlers : ErrorHandlers σ κ

/-- Readers that do the same with a request. -/
structure Readers.AgreeOn (view : RequestView) (r r' : Readers σ κ ν) : Prop where
  requestHooks : List.Forall₂ (RequestHook.AgreesOn view) r.requestHooks r'.requestHooks
  params : validate r.params view = validate r'.params view
  handler : r.handler.AgreesOn view r'.handler
  responseHooks : List.Forall₂ (ResponseHook.AgreesOn view) r.responseHooks r'.responseHooks
  errorHandlers : List.Forall₂ (ErrorHandler.AgreesOn view) r.errorHandlers.handlers
    r'.errorHandlers.handlers

end Agreeing

/-! ## The request in a resolution -/

namespace Resolver

variable {σ κ ν : Type} {chain : OverrideChain σ κ ν} {limit levels : Nat} {path : List FactoryId}
  {specs : List (DependencySpec σ κ ν)} {ctx : Context σ κ ν} {s : Session σ κ}

/-- A call of a factory does not change the request. -/
theorem produce_view (name : String) (f : Factory σ κ ν) (values : Fields (Product ν))
    (ctx : Context σ κ ν) (s : Session σ κ) :
    (produce name f values ctx s).result.2.view = ctx.view := by
  rcases produce_cases name f values ctx s with
    ⟨e, -, heq⟩ | ⟨outcome, t, -, -, ⟨e, -, heq⟩ | ⟨normalized, -, heq⟩⟩
  · rw [heq]
    rfl
  · rw [heq]
    rfl
  · obtain ⟨ctx', hsettle, hview, -, -⟩ := settle_keeps f ctx.invocations normalized ctx.invoked
    rw [heq, hsettle]
    exact hview

/-- The request stays the same in a resolution. -/
theorem keeps_view (chain : OverrideChain σ κ ν) (limit : Nat) :
    Cases chain limit (fun _ _ _ ctx _ t => t.result.2.view = ctx.view)
      (fun _ _ _ _ ctx _ t => t.result.2.view = ctx.view) where
  shared _ _ _ _ _ _ _ _ := rfl
  cyclic _ _ _ _ _ _ _ _ := rfl
  deep _ _ _ _ _ _ _ := rfl
  unmet _ _ _ _ _ _ t _ _ _ _ _ h ht := by rwa [ht] at h
  called _ _ _ _ _ _ t _ _ _ _ _ _ h ht hu := by
    rw [ht] at h
    rw [← hu]
    exact (produce_view ..).trans h
  done _ _ _ _ _ := rfl
  failed _ _ _ _ _ _ _ t _ _ _ h ht := by rwa [ht] at h
  next _ _ _ _ _ _ _ t _ _ _ _ h ht hrest := by
    rw [ht] at h
    exact hrest.trans h

/-- A factory that reads the request is given the one that the resolution started with. -/
theorem Invokes.view {i : Invocation σ κ ν} (h : Invokes chain limit levels path specs ctx s i) :
    i.context.view = ctx.view := by
  induction h with
  | here _ _ ht hvalues =>
    obtain rfl := ht
    have hview := congrArg (fun resolved => resolved.2.view) hvalues
    exact hview.symm.trans ((keeps_view chain limit).each _ _ _ _ _ _)
  | inside _ _ _ ih => exact ih
  | later ht hp _ ih =>
    obtain rfl := ht
    have hview := congrArg (fun resolved => resolved.2.view) hp
    exact ih.trans (hview.symm.trans ((keeps_view chain limit).parameter _ _ _ _ _))

end Resolver

/-- A resolution does not change the request. -/
theorem resolve_view {σ κ ν : Type} (chain : OverrideChain σ κ ν) (limit : Nat)
    (specs : List (DependencySpec σ κ ν)) (ctx : Context σ κ ν) (s : Session σ κ) :
    (resolve chain limit specs ctx s).result.2.view = ctx.view := by
  have hview := (Resolver.keeps_view chain limit).each limit [] specs .empty ctx s
  rcases resolve_cases chain limit specs ctx s with
    ⟨values, -, heq⟩ | ⟨e, -, heq⟩ | ⟨panic, -, heq⟩ <;>
  · rw [heq]
    exact hview

namespace Dispatcher

variable {σ κ ν : Type}

open IntakeHook (forward?)

/-! ## Taking in -/

section Taking

variable {position : Nat} {hook : IntakeHook σ κ} {first hooks : List (IntakeHook σ κ)}
  {request final : Request} {s : Session σ κ} {world : σ}

/-- A hook that forwards leaves the rest to the hooks after it. -/
theorem takeIn_forward (h : forward? s.telemetry (request, s.world) hook = some (final, world)) :
    takeIn position (hook :: hooks) request s =
      let t := takeIn (position + 1) hooks final { s with world }
      ⟨t.result, t.session, .intakeHook position :: t.journal⟩ := by
  have hcall := IntakeHook.forward?_eq_some.mp h
  simp [takeIn, Run.bind_apply, Run.performAlone, hcall]

/-- Hooks that forward, one after another, leave the rest to the hooks after them. -/
theorem takeIn_append
    (h : first.foldlM (forward? s.telemetry) (request, s.world) = some (final, world)) :
    takeIn position (first ++ hooks) request s =
      let t := takeIn (position + first.length) hooks final { s with world }
      ⟨t.result, t.session, (List.range' position first.length).map .intakeHook ++ t.journal⟩ := by
  induction first generalizing position request s with
  | nil =>
    obtain ⟨rfl, rfl⟩ := Prod.mk.inj (Option.some.inj h)
    rfl
  | cons hook first ih =>
    obtain ⟨⟨next, left⟩, hforward, hrest⟩ := Option.bind_eq_some_iff.mp h
    have hlength : position + (hook :: first).length = position + 1 + first.length := by
      rw [List.length_cons, Nat.add_right_comm, Nat.add_assoc]
    rw [List.cons_append, takeIn_forward hforward, ih (s := { s with world := left }) hrest,
      hlength, List.length_cons, List.range'_succ]
    rfl

/-- A call that does not end the dispatch is that of a hook that forwards. -/
theorem forward?_of_intakeCall (h : (intakeCall position hook request s).result = .inl final) :
    ∃ left, forward? s.telemetry (request, s.world) hook = some (final, left) := by
  simp only [IntakeHook.forward?_eq_some]
  rcases hcall : hook.call request s.telemetry s.world with
    ⟨failure | (next | response), left⟩
  · obtain ⟨stop, hstop⟩ :
        ∃ stop, Completion.called hook.mode (.error failure : Completion Intake) = .error stop :=
      Completion.exists_called_error failure
    simp [intakeCall, Run.performAlone, hcall, hstop] at h
  · simpa [intakeCall, Run.performAlone, hcall] using h
  · simp [intakeCall, Run.performAlone, hcall] at h

/-- A hook that does not forward ends the dispatch with the request that the hook was given. -/
theorem takeIn_stop (position : Nat) (hooks : List (IntakeHook σ κ))
    (h : forward? s.telemetry (request, s.world) hook = none) :
    ∃ stop, (intakeCall position hook request s).result = .inr stop ∧
      takeIn position (hook :: hooks) request s =
        ⟨(request, some stop), (intakeCall position hook request s).session,
          [.intakeHook position]⟩ := by
  rcases hcall : (intakeCall position hook request s).result with next | stop
  · obtain ⟨left, hforward⟩ := forward?_of_intakeCall hcall
    cases h.symm.trans hforward
  · exact ⟨stop, rfl, (takeIn_inTurn position _ request s).unique (.stopped hooks hcall)⟩

end Taking

/-! ## Reading the request -/

/-- The readers of a dispatcher. -/
def readers (d : Dispatcher σ κ ν) : Readers σ κ ν :=
  ⟨d.requestHooks, d.route.params, d.route.handler, d.responseHooks, d.errorHandlers⟩

/-- The dispatcher with other readers. -/
def readBy (d : Dispatcher σ κ ν) (r : Readers σ κ ν) : Dispatcher σ κ ν :=
  { d with
    route := { d.route with params := r.params, handler := r.handler }
    requestHooks := r.requestHooks, responseHooks := r.responseHooks
    errorHandlers := r.errorHandlers }

section Readers

variable {d : Dispatcher σ κ ν} {r : Readers σ κ ν} {view : RequestView}

/-- Request hooks that agree on the request may be exchanged. -/
theorem consult_congr {hooks hooks' : List (RequestHook σ κ)}
    (h : List.Forall₂ (RequestHook.AgreesOn view) hooks hooks') (position : Nat) :
    consult view position hooks = consult view position hooks' := by
  induction h generalizing position with
  | nil => rfl
  | cons hhook _ ih => simp only [consult, hhook.mode, hhook.call, ih]

/-- Response hooks that agree on the request may be exchanged. -/
theorem polish_congr {hooks hooks' : List (ResponseHook σ κ)}
    (h : List.Forall₂ (ResponseHook.AgreesOn view) hooks hooks') (position : Nat) :
    polish view position hooks = polish view position hooks' := by
  induction h generalizing position with
  | nil => rfl
  | cons hhook _ ih =>
    funext response
    simp only [polish, hhook.mode, hhook.call, ih]

/-- The handler and the response hooks are called with the request. -/
theorem produce_readBy (h : r.AgreeOn view d.readers) (values : Fields Json)
    (dependencies : Fields (Given ν)) :
    (d.readBy r).produce ⟨values, dependencies, view⟩ =
      d.produce ⟨values, dependencies, view⟩ := by
  have hmode : r.handler.mode = d.route.handler.mode := h.handler.mode
  have hcall : r.handler.call ⟨values, dependencies, view⟩ =
      d.route.handler.call ⟨values, dependencies, view⟩ := h.handler.call values dependencies
  have hpolish : polish view 0 r.responseHooks = polish view 0 d.responseHooks :=
    polish_congr h.responseHooks 0
  simp only [produce, readBy, supported, hmode, hcall, hpolish]

/-- All stages are run with the request. -/
theorem stages_readBy (h : r.AgreeOn view d.readers) :
    (d.readBy r).stages view = d.stages view := by
  have hconsult : consult view 0 (d.readBy r).requestHooks = consult view 0 d.requestHooks :=
    consult_congr h.requestHooks 0
  have hparams : validate (d.readBy r).route.params view = validate d.route.params view := h.params
  have hgiven : (d.readBy r).given = d.given := rfl
  simp only [stages, hconsult, hparams, hgiven, produce_readBy h]
  rfl

/-- A failure is answered with the request. -/
theorem answer_readBy (h : r.AgreeOn view d.readers) (failure : StageFailure) :
    (d.readBy r).answer view failure = d.answer view failure := by
  have hlookup : Option.Rel _ ((d.readBy r).errorHandlers.lookup failure.error.errorClass)
      (d.errorHandlers.lookup failure.error.errorClass) :=
    ErrorHandlers.lookup_rel (fun _ _ h => h.errorClass) h.errorHandlers _
  unfold answer
  generalize (d.readBy r).errorHandlers.lookup _ = found, d.errorHandlers.lookup _ = found'
    at hlookup
  cases hlookup with
  | none => rfl
  | some hhandler =>
    simp only [hhandler.errorClass, hhandler.mode, hhandler.call]
    rfl

/-- Readers that agree on the request answer a failure in the same way. -/
theorem respond_readBy {passage : Passage σ κ ν}
    (h : r.AgreeOn (d.view passage.request) d.readers) :
    (d.readBy r).respond passage = d.respond passage := by
  unfold respond
  split
  · rfl
  · exact answer_readBy h _
  · rfl

end Readers

/-! ## The stages after taking in -/

section Passing

variable {d : Dispatcher σ κ ν} {request final : Request} {s s' : Session σ κ}
  {journal : List Event}

/-- A request that an intake hook stops is not taken further. -/
theorem pass_of_stopped {stop : Except (Stop StageFailure) Response}
    (h : takeIn 0 d.intakeHooks request s = ⟨(final, some stop), s', journal⟩) :
    d.pass request s = ⟨⟨final, stop, .new (d.view final)⟩, s', journal⟩ := by
  simp [pass, Run.bind_apply, h]

/-- A request that all intake hooks pass on goes through the other stages. -/
theorem pass_of_forwarded
    (h : takeIn 0 d.intakeHooks request s = ⟨(final, none), s', journal⟩) :
    d.pass request s =
      let t := d.stages (d.view final) s'
      ⟨⟨final, t.result.1, t.result.2⟩, t.session, journal ++ t.journal⟩ := by
  simp [pass, Run.bind_apply, h]

end Passing

/-- The stages after taking in keep to the request that they are run on. -/
theorem stages_view (d : Dispatcher σ κ ν) (view : RequestView) (s : Session σ κ) :
    (d.stages view s).result.2.view = view := by
  rw [stages_eq, Run.result_bind]
  rcases (consult view 0 d.requestHooks s).result with failure | (_ | response)
  · rfl
  · -- of the stages that follow the hooks, only the resolution touches the context
    generalize (consult view 0 d.requestHooks s).session = s'
    have hview : (resolve d.overrides d.settings.maxDependencyDepth d.route.dependencies
        (.new view) s').result.2.view = view := resolve_view ..
    rcases hresolve : (resolve d.overrides d.settings.maxDependencyDepth d.route.dependencies
      (.new view) s').result with ⟨e | products, ctx⟩
    · rw [hresolve] at hview
      simpa [afterHooks, hresolve] using hview
    · rw [hresolve] at hview
      rcases hvalid : validate d.route.params view with errors | values <;>
        simpa [afterHooks, hresolve, hvalid] using hview
  · rfl

/-- They call no intake hook. -/
theorem stages_filter_isIntakeHook (d : Dispatcher σ κ ν) (view : RequestView) (s : Session σ κ) :
    (d.stages view s).journal.filter Event.isIntakeHook = [] := by
  have within : (d.stages view).Within fun e => !e.isIntakeHook :=
    stages_within (fun _ => rfl)
      (fun e he => by simpa using Event.not_isIntakeHook he fun _ => rfl)
      (fun e he => by simpa using Event.not_isIntakeHook he fun _ => rfl) d view
  exact Event.filter_isIntakeHook (within.journal s) fun _ => rfl

/-! ## The dispatch as a whole -/

/-- The dispatcher with other intake hooks. -/
def withIntake (d : Dispatcher σ κ ν) (hooks : List (IntakeHook σ κ)) : Dispatcher σ κ ν :=
  { d with intakeHooks := hooks }

/-- The first intake hooks of a dispatch, this many, forward, and this is the request that they
forward and the world that they leave. -/
def Forwards (d : Dispatcher σ κ ν) (request : Request) (s : Session σ κ) (n : Nat)
    (final : Request) (world : σ) : Prop :=
  IntakeHook.Forwards (d.opened s).telemetry d.intakeHooks (request, (d.opened s).world) n
    (final, world)

section Forwarded

variable {d : Dispatcher σ κ ν} {request final : Request} {s : Session σ κ} {n : Nat} {world : σ}

/-- If all intake hooks forward, the stages are run on what they forward. -/
theorem Forwards.passed_onwards (h : d.Forwards request s n final world)
    (all : n = d.intakeHooks.length) :
    d.passed request s =
      let t := d.stages (d.view final) { d.opened s with world }
      ⟨⟨final, t.result.1, t.result.2⟩, t.session,
        (List.range n).map .intakeHook ++ t.journal⟩ := by
  subst all
  have fold := h.fold
  rw [List.take_length] at fold
  refine pass_of_forwarded ?_
  rw [← List.append_nil d.intakeHooks, takeIn_append fold]
  simp [takeIn, List.range_eq_range']

/-- Else the next one ends the stages. -/
theorem Forwards.passed_stopped {hook : IntakeHook σ κ} (h : d.Forwards request s n final world)
    (next : d.intakeHooks[n]? = some hook) :
    ∃ stop, (intakeCall n hook final { d.opened s with world }).result = .inr stop ∧
      d.passed request s =
        ⟨⟨final, stop, .new (d.view final)⟩,
          (intakeCall n hook final { d.opened s with world }).session,
          (List.range (n + 1)).map .intakeHook⟩ := by
  obtain ⟨hn, hhook⟩ := List.getElem?_eq_some_iff.mp next
  have hlength : (d.intakeHooks.take n).length = n := by simp [hn.le]
  have hsplit : d.intakeHooks = d.intakeHooks.take n ++ hook :: d.intakeHooks.drop (n + 1) := by
    rw [← hhook, ← List.drop_eq_getElem_cons hn, List.take_append_drop]
  obtain ⟨stop, hstop, htake⟩ := takeIn_stop (s := { d.opened s with world }) n
    (d.intakeHooks.drop (n + 1)) (h.stops hook next)
  refine ⟨stop, hstop, pass_of_stopped ?_⟩
  rw [hsplit, takeIn_append h.fold, hlength, Nat.zero_add, htake]
  simp [List.range_eq_range', List.range'_concat]

/-- The world is then as the next one leaves it. -/
theorem Forwards.left {hook : IntakeHook σ κ} (h : d.Forwards request s n final world)
    (next : d.intakeHooks[n]? = some hook) :
    (d.passed request s).session.world = (hook.call final (d.opened s).telemetry world).2 := by
  obtain ⟨stop, -, hpassed⟩ := h.passed_stopped next
  rw [hpassed]
  rfl

/-- The next hook, if there is one, is the one after those that forward. -/
theorem Forwards.cases (h : d.Forwards request s n final world) :
    n = d.intakeHooks.length ∨ ∃ hook, d.intakeHooks[n]? = some hook :=
  (Nat.eq_or_lt_of_le h.le).imp_right fun hless => ⟨_, List.getElem?_eq_getElem hless⟩

/-- The request that is bound is the one that the hooks forward. -/
theorem Forwards.bound (h : d.Forwards request s n final world) :
    (d.passed request s).result.request = final ∧
      (d.passed request s).result.context.view = d.view final := by
  rcases h.cases with all | ⟨hook, next⟩
  · rw [h.passed_onwards all]
    exact ⟨rfl, stages_view d (d.view final) _⟩
  · obtain ⟨stop, -, hpassed⟩ := h.passed_stopped next
    rw [hpassed]
    exact ⟨rfl, rfl⟩

/-- The hooks that forward are called, and the next one. -/
theorem Forwards.called (h : d.Forwards request s n final world) :
    (d.dispatch request s).journal.filter Event.isIntakeHook =
      (List.range (min (n + 1) d.intakeHooks.length)).map .intakeHook := by
  have hcalls (n : Nat) : ((List.range n).map Event.intakeHook).filter Event.isIntakeHook =
      (List.range n).map .intakeHook := by
    rw [List.filter_eq_self]
    simp [Event.isIntakeHook]
  have responded : (d.responded request s).journal.filter Event.isIntakeHook = [] :=
    Event.filter_isIntakeHook ((d.respond_within _).journal _) fun _ => rfl
  obtain ⟨ending, hdispatch, hending⟩ := d.dispatch_ending request s
  have ended : ending.filter Event.isIntakeHook = [] := by
    refine List.filter_eq_nil_iff.mpr fun e he => ?_
    rcases hending e he with hnotice | hreleasing
    · exact Event.not_isIntakeHook hnotice fun _ => rfl
    · exact Event.not_isIntakeHook hreleasing fun _ => rfl
  have passed : (d.passed request s).journal.filter Event.isIntakeHook =
      (List.range (min (n + 1) d.intakeHooks.length)).map .intakeHook := by
    rcases h.cases with all | ⟨hook, next⟩
    · rw [h.passed_onwards all, List.filter_append, hcalls, stages_filter_isIntakeHook,
        List.append_nil, ← all, Nat.min_eq_right (Nat.le_succ n)]
    · obtain ⟨hless, -⟩ := List.getElem?_eq_some_iff.mp next
      obtain ⟨stop, -, hpassed⟩ := h.passed_stopped next
      rw [hpassed, hcalls, Nat.min_eq_left hless]
  rw [hdispatch, List.filter_cons_of_neg Bool.false_ne_true, List.filter_append,
    List.filter_append, passed, responded, ended, List.append_nil, List.append_nil]

/-- The one record of a dispatch with a response has the method of the request that is bound. -/
theorem Forwards.recorded {reply : Reply σ κ} (h : d.Forwards request s n final world)
    (replied : (d.dispatch request s).result = .ok reply) :
    ∃ record, (d.dispatch request s).journal.filter Event.isFinalized =
      [.notice (.finalized record)] ∧ record.method = final.method := by
  have responds := (dispatch_eq_ok.mp replied).1
  have hone := countP_isFinalized responds
  rw [List.countP_eq_length_filter, List.length_eq_one_iff] at hone
  obtain ⟨e, honly⟩ := hone
  let record := d.record (d.finish request s reply.response) (d.elapsed request s)
  have hmem : .notice (.finalized record) ∈ (d.dispatch request s).journal := by
    rw [dispatch_journal responds, journal_reported]
    simp [notices, record]
  have heq : .notice (.finalized record) ∈ (d.dispatch request s).journal.filter
      Event.isFinalized := List.mem_filter.mpr ⟨hmem, rfl⟩
  rw [honly, List.mem_singleton] at heq
  refine ⟨record, by rw [honly, heq], ?_⟩
  show (d.passed request s).result.request.method = final.method
  rw [h.bound.1]

/-- Readers that agree on the request that is bound cannot be told apart. -/
theorem Forwards.read {r : Readers σ κ ν} (h : d.Forwards request s n final world)
    (agree : r.AgreeOn (d.view final) d.readers) :
    (d.readBy r).dispatch request s = d.dispatch request s := by
  have hforwards : (d.readBy r).Forwards request s n final world := h
  -- the hooks are the same, so with either readers they forward the same request
  have hpassed : (d.readBy r).passed request s = d.passed request s := by
    rcases h.cases with all | ⟨hook, next⟩
    · have hstages : (d.readBy r).stages ((d.readBy r).view final) = d.stages (d.view final) :=
        stages_readBy agree
      rw [hforwards.passed_onwards all, h.passed_onwards all, hstages]
      rfl
    · obtain ⟨stop, hstop, hpassed⟩ := h.passed_stopped next
      obtain ⟨stop', hstop', hpassed'⟩ := hforwards.passed_stopped next
      obtain rfl : stop' = stop := Sum.inr.inj (hstop'.symm.trans hstop)
      rw [hpassed, hpassed']
      rfl
  have hresponded : (d.readBy r).responded request s = d.responded request s := by
    rw [← h.bound.1] at agree
    rw [responded, hpassed, respond_readBy agree]
    rfl
  exact dispatch_congr rfl rfl rfl rfl hpassed hresponded

/-- A factory that reads the request is given the one that is bound. -/
theorem Forwards.factories {t : Step σ κ Request} {i : Invocation σ κ ν}
    (h : d.Forwards request s n final world) (admitted : Admitted d request (d.opened s) t)
    (invokes : Resolver.Invokes d.overrides d.settings.maxDependencyDepth
      d.settings.maxDependencyDepth [] d.route.dependencies (.new (d.view t.result)) t.session i) :
    i.args.request = if i.factory.wantsRequest then some (d.view final) else none := by
  have hrequest : t.result = final := by
    rw [← h.bound.1, passed, admitted.pass_apply]
  have hview : i.context.view = d.view t.result := invokes.view
  rw [Invocation.args, hview, hrequest]

/-- What the hooks forward does not depend on a hook that does not forward. -/
theorem Forwards.unseen {hook : IntakeHook σ κ} (h : d.Forwards request s n final world)
    (stops : forward? (d.opened s).telemetry (final, world) hook = none)
    (hooks : List (IntakeHook σ κ)) :
    (d.withIntake (d.intakeHooks.take n ++ hook :: hooks)).Forwards request s n final world := by
  have hlength : (d.intakeHooks.take n).length = n := List.length_take_of_le h.le
  constructor
  · simp [withIntake, hlength]
  · show ((d.intakeHooks.take n ++ hook :: hooks).take n).foldlM _ _ = _
    rw [List.take_left' hlength]
    exact h.fold
  · intro hook' next
    simp only [withIntake] at next
    rw [List.getElem?_append_right hlength.le, hlength, Nat.sub_self] at next
    obtain rfl : hook = hook' := by simpa using next
    exact stops

/-- The dispatch depends on the next hook by what it ends with, and on no hook after that. -/
theorem Forwards.unrun {hook hook' : IntakeHook σ κ} (h : d.Forwards request s n final world)
    (next : d.intakeHooks[n]? = some hook) (mode : hook'.mode = hook.mode)
    (call : hook'.call final (d.opened s).telemetry world =
      hook.call final (d.opened s).telemetry world) (hooks : List (IntakeHook σ κ)) :
    (d.withIntake (d.intakeHooks.take n ++ hook' :: hooks)).dispatch request s =
      d.dispatch request s := by
  have hstops : forward? (d.opened s).telemetry (final, world) hook' = none := by
    -- a hook that ends in the same way stops where the old one did
    rw [← h.stops hook next]
    simp only [forward?, call]
  have hnext : (d.intakeHooks.take n ++ hook' :: hooks)[n]? = some hook' := by
    simp [List.length_take_of_le h.le]
  have hcall : intakeCall n hook' final { d.opened s with world } =
      intakeCall n hook final { d.opened s with world } := by
    simp [intakeCall, Run.bind_apply, Run.performAlone, mode, call]
  obtain ⟨stop, hstop, hpassed⟩ := h.passed_stopped next
  -- so both stacks pass the request on to the same place, with the same result
  obtain ⟨stop', hstop', hpassed'⟩ := (h.unseen hstops hooks).passed_stopped hnext
  have hopened : (d.withIntake (d.intakeHooks.take n ++ hook' :: hooks)).opened s = d.opened s :=
    rfl
  rw [hopened, hcall] at hstop' hpassed'
  obtain rfl : stop' = stop := Sum.inr.inj (hstop'.symm.trans hstop)
  have hsame := hpassed'.trans hpassed.symm
  refine dispatch_congr rfl rfl rfl rfl hsame ?_
  rw [responded, hsame]
  rfl

end Forwarded

/-- How a dispatch goes on with a request that its first intake hooks, this many, forward with this
world. -/
structure GoesOnWith (d : Dispatcher σ κ ν) (request : Request) (s : Session σ κ) (n : Nat)
    (final : Request) (world : σ) : Prop where
  /-- It is the request that is bound. -/
  bound : (d.passed request s).result.request = final ∧
    (d.passed request s).result.context.view = d.view final
  /-- If these are all hooks, the stages are run on it. -/
  onwards : n = d.intakeHooks.length → d.passed request s =
    let t := d.stages (d.view final) { d.opened s with world }
    ⟨⟨final, t.result.1, t.result.2⟩, t.session, (List.range n).map .intakeHook ++ t.journal⟩
  /-- Else the next hook is given it too and ends the stages. -/
  stopped : ∀ hook, d.intakeHooks[n]? = some hook → ∃ stop,
    let t := intakeCall n hook final { d.opened s with world }
    t.result = .inr stop ∧ d.passed request s =
      ⟨⟨final, stop, .new (d.view final)⟩, t.session, (List.range (n + 1)).map .intakeHook⟩
  /-- What the next hook did to the world stays done, so a token of which it set the flag is set. -/
  left : ∀ hook, d.intakeHooks[n]? = some hook →
    (d.passed request s).session.world = (hook.call final (d.opened s).telemetry world).2
  /-- These hooks and the next one are called in order, and no other. -/
  called : (d.dispatch request s).journal.filter Event.isIntakeHook =
    (List.range (min (n + 1) d.intakeHooks.length)).map .intakeHook
  /-- Request hooks, parameters, handler, response hooks and error handlers that do the same with
  it, whatever they do with another request, make the same dispatch. -/
  read : ∀ r, r.AgreeOn (d.view final) d.readers →
    (d.readBy r).dispatch request s = d.dispatch request s
  /-- A factory that reads the request is given it. -/
  factories : ∀ t i, Admitted d request (d.opened s) t →
    Resolver.Invokes d.overrides d.settings.maxDependencyDepth d.settings.maxDependencyDepth []
      d.route.dependencies (.new (d.view t.result)) t.session i →
    i.args.request = if i.factory.wantsRequest then some (d.view final) else none
  /-- If there is a response, there is one record, which has its method. -/
  recorded : ∀ reply, (d.dispatch request s).result = .ok reply → ∃ record,
    (d.dispatch request s).journal.filter Event.isFinalized = [.notice (.finalized record)] ∧
      record.method = final.method
  /-- It is the same request whatever the next hook does, short of forwarding. -/
  unseen : ∀ hook hooks, forward? (d.opened s).telemetry (final, world) hook = none →
    ((d.withIntake (d.intakeHooks.take n ++ hook :: hooks)).passed request s).result.request =
      final
  /-- A next hook that ends in the same way, with other hooks after it, makes the same dispatch. -/
  unrun : ∀ hook hook' hooks, d.intakeHooks[n]? = some hook → hook'.mode = hook.mode →
    hook'.call final (d.opened s).telemetry world = hook.call final (d.opened s).telemetry world →
    (d.withIntake (d.intakeHooks.take n ++ hook' :: hooks)).dispatch request s =
      d.dispatch request s

/-- Every dispatch goes on with the request that its intake hooks forward, up to the first that does
not forward. -/
theorem dispatch_forwards (d : Dispatcher σ κ ν) (request : Request) (s : Session σ κ) :
    ∃ n final world, d.Forwards request s n final world ∧ d.GoesOnWith request s n final world ∧
      ∀ n' final' world', d.Forwards request s n' final' world' →
        n' = n ∧ final' = final ∧ world' = world := by
  obtain ⟨n, ⟨final, world⟩, forwards⟩ := IntakeHook.exists_forwards (d.opened s).telemetry
    d.intakeHooks (request, (d.opened s).world)
  have h : d.Forwards request s n final world := forwards
  refine ⟨n, final, world, h, ?_, fun n' final' world' h' => ?_⟩
  · exact {
      bound := h.bound
      onwards := h.passed_onwards
      stopped := fun _ next => h.passed_stopped next
      left := fun _ next => h.left next
      called := h.called
      read := fun _ agree => h.read agree
      factories := fun _ _ admitted invokes => h.factories admitted invokes
      recorded := fun _ replied => h.recorded replied
      unseen := fun _ hooks stops => (h.unseen stops hooks).bound.1
      unrun := fun _ _ hooks next mode call => h.unrun next mode call hooks }
  · obtain ⟨rfl, hfinal⟩ := h.unique h'
    exact ⟨rfl, Prod.mk.inj hfinal⟩

/-- The second of three hooks panics, so the method is the one that the first hook forwards. -/
example :
    let naming (method : String) : IntakeHook Unit Unit :=
      ⟨.blocking, fun request _ world => (.ok (.forward { request with method }), world)⟩
    let panicking : IntakeHook Unit Unit :=
      ⟨.async, fun _ _ world => (.error (.panicked .other false), world)⟩
    let d := (constantDispatcher "text/plain" .empty).withIntake
      [naming "PUT", panicking, naming "PATCH"]
    (d.passed (.new "GET" "/") ⟨(), (), []⟩).result.request = .new "PUT" "/" ∧
      (d.dispatch (.new "GET" "/") ⟨(), (), []⟩).result.map Reply.response = .ok bareFailure := by
  decide +kernel

/-! ## Hooks that fail with a trace

The token of a request leads to one flag, which here is the whole world. -/

/-- An intake hook that cancels its copy of the request, or does not, and then fails. -/
def cancellingHook (cancels : Bool) : IntakeHook Bool Unit :=
  ⟨.async, fun request _ flag =>
    (.error (.raised (.unhandled "refused")), flag || cancels && request.cancellation.isSome)⟩

/-- An asynchronous intake hook that panics when it is called. -/
def panickingHook : IntakeHook Bool Unit :=
  ⟨.async, fun _ _ flag => (.error (.panicked .other true), flag)⟩

/-- A dispatcher whose error handler tells whether the request is cancelled. -/
def tellingDispatcher (hook : IntakeHook Bool Unit) : Dispatcher Bool Unit Unit :=
  { new (Route.new "GET" "/" ⟨.async, fun _ => Effect.value .empty⟩) with
    intakeHooks := [hook]
    errorHandlers := ErrorHandlers.empty.register ⟨.exception, .async, fun view _ => fun _ flag =>
      (.ok (.value (.bool (view.isCancelled fun _ => flag))), flag, [])⟩ }

/-- None of these hooks forwards, so the bound request is the same with each. But its flag is the
one that the failing hook set in its copy, and after a panic of a call there is no record. -/
theorem cancelled_copy_seen :
    let request := { Request.new "GET" "/" with cancellation := some ⟨0⟩ }
    let s : Session Bool Unit := ⟨false, (), []⟩
    let body (hook : IntakeHook Bool Unit) :=
      ((tellingDispatcher hook).dispatch request s).result.map fun reply => reply.response.body
    (∀ hook ∈ [cancellingHook true, cancellingHook false, panickingHook],
      (tellingDispatcher hook).Forwards request s 0 request false) ∧
    body (cancellingHook true) = .ok (.text "true") ∧
    body (cancellingHook false) = .ok (.text "false") ∧
    ∀ e ∈ ((tellingDispatcher panickingHook).dispatch request s).journal, ¬ e.isFinalized := by
  refine ⟨fun hook hmem => ⟨Nat.zero_le _, rfl, fun next hnext => ?_⟩, by decide +kernel,
    by decide +kernel, by decide +kernel⟩
  obtain rfl : hook = next := by simpa [tellingDispatcher] using hnext
  simp only [List.mem_cons, List.not_mem_nil, or_false] at hmem
  rcases hmem with rfl | rfl | rfl <;> rfl

end Dispatcher

end RequestDispatch
