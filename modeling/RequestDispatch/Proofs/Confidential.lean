import RequestDispatch.Proofs.Alike
import RequestDispatch.Proofs.Dispatch

/-!
# Error texts stay inside

What errors say never reaches the client, but for what rejected input, an explicit status or a
refusing dependency has to say. The statement is about two dispatches: if the dispatchers are alike
and have no error handlers, they give the same response to the same request. Every part of a
dispatch takes what is alike to what is alike, and errors that are alike get one default answer.
-/

namespace RequestDispatch

variable {σ κ ν : Type}

/-! ## Cleanup -/

/-- Cleanups that are alike. -/
inductive Cleanup.Alike : Cleanup σ κ ν → Cleanup σ κ ν → Prop where
  | action {a a' : Action σ κ} (h : a.Alike a') : Alike (.action a) (.action a')
  | exhaust (source : Mode) {rest rest' : Effect σ κ (Option ν)}
      {close close' : Option (Action σ κ)} (rests : Effect.Alike false Eq rest rest')
      (closes : Option.Rel Action.Alike close close') :
      Alike (.exhaust source rest close) (.exhaust source rest' close')
  | release (resource : Mode) {code code' : Effect σ κ Unit}
      (h : Effect.Alike false Eq code code') :
      Alike (.release resource code) (.release resource code')

namespace Completion.Alike

theorem exhausted {c c' : Completion (Option ν)} (h : Completion.Alike false Eq c c') :
    Completion.Alike false Eq c.exhausted c'.exhausted := by
  cases h with
  | error h => exact .error h
  | @ok value _ h =>
    subst h
    cases value with
    | none => exact .ok rfl
    | some value => exact .error (.raised (.same _))

theorem firstFailure {c c' d d' : Completion Unit} (h : Completion.Alike false Eq c c')
    (h' : Completion.Alike false Eq d d') :
    Completion.Alike false Eq (c.firstFailure d) (c'.firstFailure d') := by
  cases h with
  | error h => exact .error h
  | ok h => exact h'

theorem ofResult {r r' : Except DispatchError Unit} (h : ResultAlike false Eq r r') :
    Completion.Alike false Eq (r.mapError Failure.raised) (r'.mapError Failure.raised) := by
  cases h with
  | error h => exact .error (.raised h)
  | ok h => exact .ok h

end Completion.Alike

namespace Cleanup

variable {origin origin' : Nat} {close close' : Option (Action σ κ)}
  {rest rest' : Effect σ κ (Option ν)}

/-- Close actions that fail with different texts leave completions that do. -/
theorem closeInside_alike (h : Option.Rel Action.Alike close close') :
    Run.Alike (Completion.Alike false Eq) (closeInside origin close)
      (closeInside origin' close') := by
  cases h with
  | none => exact .pure (.ok rfl)
  | some h => exact .perform h.run

/-- The same of a close action that is called by itself. -/
theorem closeApart_alike (h : Option.Rel Action.Alike close close') :
    Run.Alike (ResultAlike false Eq) (closeApart origin close) (closeApart origin' close') := by
  cases h with
  | none => exact .pure (.ok rfl)
  | some h => exact .bind (.perform h.run) fun _ _ hc => .pure (hc.contain _ _)

/-- A panic on closing takes the place of what ended the source; any other failure does not. -/
theorem closing_alike (hclose : Option.Rel Action.Alike close close')
    {ended ended' : Completion Unit} (h : Completion.Alike false Eq ended ended') :
    Run.Alike (Completion.Alike false Eq)
      (do
        match ← closeInside origin close with
        | .error (.panicked panic early) => return .error (.panicked panic early)
        | closed => return ended.firstFailure closed)
      (do
        match ← closeInside origin' close' with
        | .error (.panicked panic early) => return .error (.panicked panic early)
        | closed => return ended'.firstFailure closed) := by
  refine .bind (closeInside_alike hclose) fun closed closed' hclosed => ?_
  cases hclosed with
  | ok hvalue => exact .pure (h.firstFailure (.ok hvalue))
  | error hfailure =>
    cases hfailure with
    | raised herror => exact .pure (h.firstFailure (.error (.raised herror)))
    | panicked panic panic' early => exact .pure (.error (.panicked panic panic' early))

/-- Advances and closes that fail with different texts, done as one piece of code, do so
together. -/
theorem exhaustTogether_alike (hrest : Effect.Alike false Eq rest rest')
    (hclose : Option.Rel Action.Alike close close') :
    Run.Alike (Completion.Alike false Eq) (exhaustTogether origin rest close)
      (exhaustTogether origin' rest' close') := by
  refine .bind (.perform hrest) fun c c' hc => ?_
  rcases hc.exhausted.exists with ⟨e, e', he, he', hfailure⟩ | ⟨a, a', ha, ha', hvalue⟩
  · simp only [he, he']
    cases hfailure with
    | raised herror => exact closing_alike hclose (.error (.raised herror))
    -- a panic of the one source is a panic of the other, and then neither is closed
    | panicked panic panic' early => exact .pure (.error (.panicked panic panic' early))
  · simp only [ha, ha']
    exact closing_alike hclose (.ok hvalue)

/-- Advances and closes that fail with different texts, called one after the other, do so
together. -/
theorem exhaustApart_alike (source : Mode) (hrest : Effect.Alike false Eq rest rest')
    (hclose : Option.Rel Action.Alike close close') :
    Run.Alike (Completion.Alike false Eq) (exhaustApart origin source rest close)
      (exhaustApart origin' source rest' close') := by
  refine .bind (.perform hrest) fun c c' hc => ?_
  have closing (ended ended' : Completion Unit) (h : Completion.Alike false Eq ended ended') :
      Run.Alike (Completion.Alike false Eq)
        (do
          let ended := (ended.contain source).mapError .raised
          let closed := (← closeApart origin close).mapError .raised
          return Completion.firstFailure ended closed)
        (do
          let ended := (ended'.contain source).mapError .raised
          let closed := (← closeApart origin' close').mapError .raised
          return Completion.firstFailure ended closed) :=
    .bind (closeApart_alike hclose) fun closed closed' hclosed =>
      .pure (.firstFailure (.ofResult (h.contain source source)) (.ofResult hclosed))
  rcases hc.exhausted.exists with ⟨e, e', he, he', hfailure⟩ | ⟨a, a', ha, ha', hvalue⟩
  · simp only [he, he']
    cases hfailure with
    | raised herror => cases source <;> exact closing _ _ (.error (.raised herror))
    | panicked panic panic' early =>
      cases source with
      | blocking => exact closing _ _ (.error (.panicked panic panic' early))
      | async => exact .pure (.error (.panicked panic panic' early))
  · simp only [ha, ha']
    cases source <;> exact closing _ _ (.ok hvalue)

/-- A cleanup keeps its mode whatever its errors say. -/
theorem Alike.mode {cleanup cleanup' : Cleanup σ κ ν} (h : cleanup.Alike cleanup') :
    cleanup.mode = cleanup'.mode := by
  cases h with
  | action h => exact h.mode
  | release resource h => rfl
  | exhaust source rests closes =>
    cases closes with
    | none => cases source <;> rfl
    | some close => cases source <;> simp [Cleanup.mode, close.mode]

/-- Alike cleanups end alike. -/
theorem run_alike {cleanup cleanup' : Cleanup σ κ ν} (h : cleanup.Alike cleanup') :
    Run.Alike (ResultAlike false Eq) (cleanup.run origin) (cleanup'.run origin') := by
  have hmode := h.mode
  cases h with
  | action h => exact .bind (.perform h.run) fun _ _ hc => .pure (hc.contain _ _)
  | release resource h => exact .bind (.perform h) fun _ _ hc => .pure (hc.contain _ _)
  | @exhaust source rest rest' close close' rests closes =>
    simp only [run, ← hmode]
    cases Cleanup.mode (.exhaust source rest close) with
    | blocking =>
      exact .bind (exhaustTogether_alike rests closes) fun _ _ hc => .pure (hc.contain _ _)
    | async =>
      exact .bind (exhaustApart_alike source rests closes) fun _ _ hc => .pure (hc.contain _ _)

end Cleanup

namespace CleanupStack

/-- Pending cleanups that are alike, of the same invocations in the same order. -/
abbrev PendingAlike (pending pending' : List (Nat × Cleanup σ κ ν)) : Prop :=
  List.Forall₂ (fun entry entry' => entry.1 = entry'.1 ∧ entry.2.Alike entry'.2) pending pending'

/-- Releases of alike cleanups give alike failures. -/
theorem releaseAll_alike {pending pending' : List (Nat × Cleanup σ κ ν)}
    (h : PendingAlike pending pending') :
    Run.Alike (List.Forall₂ (DispatchError.Alike false)) (releaseAll pending)
      (releaseAll pending') := by
  induction h with
  | nil => exact .pure .nil
  | @cons entry entry' pending pending' hentry hpending ih =>
    refine .bind (.enter _ _) fun _ _ _ => .bind (Cleanup.run_alike hentry.2) fun r r' hr => ?_
    refine .bind (.enter _ _) fun _ _ _ => .bind ih fun failures failures' hfailures => ?_
    cases hr with
    | ok _ => exact .pure hfailures
    | error h => exact .pure (.cons h hfailures)

end CleanupStack

/-! ## Outcomes -/

/-- The same value, and cleanups that are alike. -/
structure Outcome.Normalized.Alike (n n' : Outcome.Normalized σ κ ν) : Prop where
  value : n.value = n'.value
  cleanup : Option.Rel Cleanup.Alike n.cleanup n'.cleanup

/-- A value is obtained from alike outcomes alike, and with an alike cleanup. -/
theorem Outcome.normalize_alike {outcome outcome' : Outcome σ κ ν} (h : outcome.Alike outcome')
    (origin origin' : Nat) :
    Run.Alike (ResultAlike true Outcome.Normalized.Alike) (outcome.normalize origin)
      (outcome'.normalize origin') := by
  cases h with
  | immediate value => exact .pure (.ok ⟨rfl, .none⟩)
  | deferred h =>
    refine .bind (.perform h) fun c c' hc => ?_
    rcases (hc.contain .async .async).exists with ⟨e, e', he, he', herror⟩ | ⟨a, a', ha, ha', rfl⟩
    · simp only [he, he']
      exact .pure (.error herror)
    · simp only [ha, ha']
      exact .pure (.ok ⟨rfl, .none⟩)
  | @singleStep step step' h =>
    refine .bind (.perform h.first) fun c c' hc => ?_
    rcases (hc.contain step.mode step'.mode).exists with
      ⟨e, e', he, he', herror⟩ | ⟨a, a', ha, ha', hvalue⟩
    · simp only [he, he']
      exact .bind (Cleanup.closeApart_alike h.close) fun _ _ _ => .pure (.error herror)
    · simp only [ha, ha']
      cases hvalue with
      -- a source that yields nothing is closed before it is refused
      | none =>
        exact .bind (Cleanup.closeApart_alike h.close) fun _ _ _ =>
          .pure (.error (.internal _ _))
      | @some yielded yielded' hyielded =>
        refine .bind (.enter _ _) fun _ _ _ => .pure (.ok ⟨hyielded.value, ?_⟩)
        rw [h.mode]
        exact .some (.exhaust _ hyielded.rest h.close)
  | @resource resource resource' h =>
    refine .bind (.perform h.acquire) fun c c' hc => ?_
    rcases (hc.contain resource.mode resource'.mode).exists with
      ⟨e, e', he, he', herror⟩ | ⟨a, a', ha, ha', rfl⟩
    · simp only [he, he']
      exact .pure (.error herror)
    · simp only [ha, ha']
      cases a with
      -- an acquisition that gives nothing is released before it is refused
      | none =>
        exact .bind (.perform (h.release none)) fun _ _ _ => .pure (.error (.internal _ _))
      | some value =>
        refine .bind (.enter _ _) fun _ _ _ => .pure (.ok ⟨rfl, ?_⟩)
        rw [h.mode]
        exact .some (.release _ (h.release (some value)))

/-! ## The resolver -/

/-- Contexts that are alike. -/
structure Context.Alike (ctx ctx' : Context σ κ ν) : Prop where
  view : ctx.view = ctx'.view
  cache : ctx.cache = ctx'.cache
  cleanup : CleanupStack.PendingAlike ctx.cleanup.pending ctx'.cleanup.pending
  invocations : ctx.invocations = ctx'.invocations

namespace Context.Alike

variable {ctx ctx' : Context σ κ ν}

theorem new (view : RequestView) : Context.Alike (.new view : Context σ κ ν) (.new view) :=
  ⟨rfl, rfl, .nil, rfl⟩

theorem invoked (h : ctx.Alike ctx') : ctx.invoked.Alike ctx'.invoked :=
  ⟨h.view, h.cache, h.cleanup, congrArg (· + 1) h.invocations⟩

theorem pending (h : ctx.Alike ctx') (origin : Nat) {cleanup cleanup' : Cleanup σ κ ν}
    (hcleanup : cleanup.Alike cleanup') :
    (ctx.pending origin cleanup).Alike (ctx'.pending origin cleanup') :=
  ⟨h.view, h.cache, .cons ⟨rfl, hcleanup⟩ h.cleanup, h.invocations⟩

/-- A value shared under a factory is shared under every factory that is alike. -/
theorem share (h : ctx.Alike ctx') {f f' : Factory σ κ ν} (hf : f.Alike f') (p : Product ν) :
    (ctx.share f p).Alike (ctx'.share f' p) := by
  obtain ⟨id, _, _, _, _, _, usesCache⟩ := hf
  unfold Context.share
  rw [← id, ← usesCache, ← h.cache]
  split
  · exact ⟨h.view, rfl, h.cleanup, h.invocations⟩
  · exact h

/-- Whether a value is shared already does not depend on texts. -/
theorem cached? (h : ctx.Alike ctx') {f f' : Factory σ κ ν} (hf : f.Alike f') :
    ctx.cached? f = ctx'.cached? f' := by
  obtain ⟨id, _, _, _, _, _, usesCache⟩ := hf
  rw [Context.cached?, Context.cached?, id, usesCache, h.cache]

/-- After the release of alike contexts they are alike. -/
theorem release (h : ctx.Alike ctx') :
    Run.Alike (fun r r' => r.2.Alike r'.2) ctx.release ctx'.release :=
  .bind (CleanupStack.releaseAll_alike h.cleanup) fun _ _ _ =>
    .pure ⟨h.view, h.cache, .nil, h.invocations⟩

end Context.Alike

/-- Scopes that are alike replace a factory by factories that are alike. -/
theorem OverrideScope.Alike.get? {scope scope' : OverrideScope σ κ ν} (h : scope.Alike scope')
    (id : FactoryId) : Option.Rel Factory.Alike (scope.get? id) (scope'.get? id) := by
  obtain ⟨replacements, distinct⟩ := scope
  obtain ⟨replacements', distinct'⟩ := scope'
  show Option.Rel Factory.Alike (replacements.lookup id) (replacements'.lookup id)
  replace h : List.Forall₂ _ replacements replacements' := h
  clear distinct distinct'
  induction h with
  | nil => exact .none
  | @cons r r' rest rest' hr hrest ih =>
    obtain ⟨replaced, f⟩ := r
    obtain ⟨_, f'⟩ := r'
    obtain ⟨rfl, hf⟩ := hr
    cases hreplaced : id == replaced with
    | true =>
      simp only [List.lookup_cons, hreplaced]
      exact .some hf
    | false =>
      simp only [List.lookup_cons, hreplaced]
      exact ih

theorem forall₂_getLast? {α β : Type} {R : α → β → Prop} {l : List α} {l' : List β}
    (h : List.Forall₂ R l l') : Option.Rel R l.getLast? l'.getLast? := by
  rw [List.getLast?_eq_head?_reverse, List.getLast?_eq_head?_reverse]
  have hreverse := List.rel_reverse h
  generalize l.reverse = r, l'.reverse = r' at hreverse
  cases hreverse with
  | nil => exact .none
  | cons hlast _ => exact .some hlast

/-- Chains that are alike replace a factory by factories that are alike. -/
theorem OverrideChain.Alike.effective {chain chain' : OverrideChain σ κ ν} (h : chain.Alike chain')
    {f f' : Factory σ κ ν} (hf : f.Alike f') :
    (chain.effective f).Alike (chain'.effective f') := by
  have hlookup : Option.Rel Factory.Alike (chain.lookup f) (chain'.lookup f') := by
    obtain ⟨id⟩ := hf
    unfold OverrideChain.lookup
    rw [← id]
    exact forall₂_getLast? (List.rel_filterMap (fun _ _ hscope => hscope.get? f.id) h)
  unfold OverrideChain.effective
  generalize chain.lookup f = r, chain'.lookup f' = r' at hlookup
  cases hlookup with
  | none => exact hf
  | some hreplacement => exact hreplacement

/-- Resolutions that give the same, or stop alike, and leave contexts that are alike. -/
inductive ResolvedAlike {α : Type} : Resolved σ κ ν α → Resolved σ κ ν α → Prop where
  | error {stop stop' : Stop DispatchError} {ctx ctx' : Context σ κ ν}
      (h : stop.Alike (DispatchError.Alike true) stop') (hctx : ctx.Alike ctx') :
      ResolvedAlike (.error stop, ctx) (.error stop', ctx')
  | ok (a : α) {ctx ctx' : Context σ κ ν} (hctx : ctx.Alike ctx') :
      ResolvedAlike (.ok a, ctx) (.ok a, ctx')

/-- An error of the resolution gets the name of the parameter in the same cases. -/
theorem DispatchError.Alike.withDependencyName {e e' : DispatchError} (h : e.Alike true e')
    (name : String) : (e.withDependencyName name).Alike true (e'.withDependencyName name) := by
  cases h with
  | same e => exact .same _
  | application c message message' => exact .application _ _ _
  | internal cause cause' => exact .internal _ _
  | unhandled message message' => exact .unhandled _ _
  | dependency h => cases h

namespace Resolver

/-- An obtained value is settled in the same way in alike contexts. -/
theorem settle_alike {f f' : Factory σ κ ν} (hf : f.Alike f') (origin : Nat)
    {n n' : Outcome.Normalized σ κ ν} (hn : n.Alike n') {ctx ctx' : Context σ κ ν}
    (hctx : ctx.Alike ctx') : ResolvedAlike (settle f origin n ctx) (settle f' origin n' ctx') := by
  obtain ⟨value, cleanup⟩ := n
  obtain ⟨value', cleanup'⟩ := n'
  obtain ⟨rfl, hcleanup⟩ := hn
  cases hcleanup with
  | none => exact .ok _ (hctx.share hf _)
  | some hcleanup => exact .ok _ ((hctx.pending origin hcleanup).share hf _)

/-- Alike factories that are called in alike contexts give alike products. -/
theorem produce_alike (parameter : String) {f f' : Factory σ κ ν} (hf : f.Alike f')
    (values : Fields (Product ν)) {ctx ctx' : Context σ κ ν} (hctx : ctx.Alike ctx') :
    Run.Alike ResolvedAlike (produce parameter f values ctx)
      (produce parameter f' values ctx') := by
  have ⟨_, _, mode, call, _, wantsRequest, _⟩ := hf
  unfold produce
  simp only [← mode, ← wantsRequest, ← hctx.view, ← hctx.invocations]
  refine .bind (.perform (call _)) fun c c' hc => ?_
  rcases (hc.called f.mode).exists with
    ⟨stop, stop', hstop, hstop', halike⟩ | ⟨a, a', ha, ha', houtcome⟩
  · simp only [hstop, hstop']
    exact .pure (.error (halike.map fun _ _ h => h.withDependencyName parameter) hctx.invoked)
  · simp only [ha, ha']
    refine .bind (Outcome.normalize_alike houtcome _ _) fun n n' hn => ?_
    cases hn with
    | error herror => exact .pure (.error (.failed herror) hctx.invoked)
    | ok hn => exact .bind (.enter _ _) fun _ _ _ => .pure (settle_alike hf _ hn hctx.invoked)

/-- Parameters are resolved alike one after another if each of them is. -/
theorem each_alike
    {one one' : DependencySpec σ κ ν → Context σ κ ν → Run σ κ (Resolved σ κ ν (Product ν))}
    (hone : ∀ name f f' ctx ctx', Factory.Alike f f' → Context.Alike ctx ctx' →
      Run.Alike ResolvedAlike (one (name, f) ctx) (one' (name, f') ctx'))
    {specs specs' : List (DependencySpec σ κ ν)} (h : SpecsAlike specs specs')
    (values : Fields (Product ν)) {ctx ctx' : Context σ κ ν} (hctx : ctx.Alike ctx') :
    Run.Alike ResolvedAlike (each one specs values ctx) (each one' specs' values ctx') := by
  induction specs generalizing specs' values ctx ctx' with
  | nil =>
    cases h
    exact .pure (.ok _ hctx)
  | cons spec specs ih =>
    obtain _ | ⟨name, hf, hspecs⟩ := h
    refine .bind (hone _ _ _ _ _ hf hctx) fun r r' hr => ?_
    cases hr with
    | error hstop hctx => exact .pure (.error hstop hctx)
    | ok product hctx => exact ih hspecs _ hctx

/-- A parameter with alike factories in alike chains is resolved alike. -/
theorem parameter_alike {chain chain' : OverrideChain σ κ ν} (hchain : chain.Alike chain')
    (limit levels : Nat) (path : List FactoryId) (name : String)
    {declared declared' : Factory σ κ ν} (hdeclared : declared.Alike declared')
    {ctx ctx' : Context σ κ ν} (hctx : ctx.Alike ctx') :
    Run.Alike ResolvedAlike (parameter chain limit levels path (name, declared) ctx)
      (parameter chain' limit levels path (name, declared') ctx') := by
  induction levels generalizing path name declared declared' ctx ctx' with
  | zero =>
    have hf := hchain.effective hdeclared
    have ⟨id, _, _, _, _, _, _⟩ := hf
    simp only [parameter, ← hctx.cached? hf, ← id]
    rcases ctx.cached? (chain.effective declared) with _ | product
    · dsimp only
      split <;> exact .pure (.error (.failed (.internal _ _)) hctx)
    · exact .bind (.enter _ _) fun _ _ _ => .pure (.ok _ hctx)
  | succ levels ih =>
    have hf := hchain.effective hdeclared
    have ⟨id, _, _, _, dependencies, _, _⟩ := hf
    simp only [parameter, ← hctx.cached? hf, ← id]
    rcases ctx.cached? (chain.effective declared) with _ | product
    · dsimp only
      split
      · exact .pure (.error (.failed (.internal _ _)) hctx)
      · have below := each_alike (fun name f f' ctx ctx' hf hctx =>
          ih (path ++ [(chain.effective declared).id]) name hf hctx) dependencies .empty hctx
        refine .bind (.enter _ _) fun _ _ _ => .bind below fun r r' hr => ?_
        cases hr with
        | error hstop hctx => exact .pure (.error hstop hctx)
        | ok values hctx =>
          exact .bind (.enter _ _) fun _ _ _ => produce_alike name hf values hctx
    · exact .bind (.enter _ _) fun _ _ _ => .pure (.ok _ hctx)

end Resolver

/-- A whole resolution, and the release after a failed one, is alike. -/
theorem resolve_alike {chain chain' : OverrideChain σ κ ν} (hchain : chain.Alike chain')
    (limit : Nat) {specs specs' : List (DependencySpec σ κ ν)} (h : SpecsAlike specs specs')
    {ctx ctx' : Context σ κ ν} (hctx : ctx.Alike ctx') :
    Run.Alike ResolvedAlike (resolve chain limit specs ctx) (resolve chain' limit specs' ctx') := by
  have heach := Resolver.each_alike (fun name f f' ctx ctx' hf hctx =>
    Resolver.parameter_alike hchain limit limit [] name hf hctx) h .empty hctx
  refine .bind heach fun r r' hr => ?_
  cases hr with
  | ok values hctx => exact .pure (.ok values hctx)
  | error hstop hctx =>
    -- what was acquired is released only after a failure
    cases hstop with
    | failed herror =>
      exact .bind hctx.release fun _ _ hreleased => .pure (.error (.failed herror) hreleased)
    | unwound panic panic' => exact .pure (.error (.unwound panic panic') hctx)

/-! ## Stages -/

/-- Chunks that differ in the texts of their errors are pulled alike. -/
theorem pullFrom_alike (position : Nat) {chunks chunks' : List (Effect σ κ Bytes)}
    (h : List.Forall₂ (Effect.Alike false Eq) chunks chunks') :
    Run.Alike (Completion.Alike false Eq) (pullFrom position chunks)
      (pullFrom position chunks') := by
  induction h generalizing position with
  | nil => exact .pure (.ok rfl)
  | cons hchunk hchunks ih =>
    refine .bind (.perform hchunk) fun c c' hc => ?_
    cases hc with
    | error hfailure => exact .pure (.error hfailure)
    | ok hbytes =>
      subst hbytes
      refine .bind (ih (position + 1)) fun rest rest' hrest => ?_
      cases hrest with
      | error hfailure => exact .pure (.error hfailure)
      | ok hpulled => exact .pure (.ok (congrArg _ hpulled))

/-- Alike answers are shaped into the same response, or fail with the same class. -/
theorem shape_alike (supported : List String) (view : RequestView) {output output' : Output σ κ}
    (h : output.Alike output') :
    Run.Alike (ResultAlike false Eq) (shape supported view output)
      (shape supported view output') := by
  cases h with
  | response response => exact .pure (.refl _)
  | value value => exact .pure (.refl _)
  | withStatus status value => exact .pure (.refl _)
  | empty => exact .pure (.refl _)
  | stream status mediaType hchunks =>
    refine .bind (pullFrom_alike 0 hchunks) fun c c' hc => ?_
    rcases (hc.contain .async .async).exists with ⟨e, e', he, he', herror⟩ | ⟨a, a', ha, ha', rfl⟩
    · simp only [he, he']
      exact .pure (.error herror)
    · simp only [ha, ha']
      exact .pure (.refl _)

/-- Failures of one stage that are alike. -/
structure StageFailure.Alike (failure failure' : StageFailure) : Prop where
  stage : failure.stage = failure'.stage
  error : failure.error.Alike (failure.stage == .resolution) failure'.error

/-- Results of the stages that are the same or stop alike. -/
abbrev StagesAlike {α : Type} :
    Except (Stop StageFailure) α → Except (Stop StageFailure) α → Prop :=
  Except.LiftRel (Stop.Alike StageFailure.Alike) Eq

/-- What stops alike stops a stage alike, in the resolution with the same refusal. -/
theorem Stop.Alike.staged {stop stop' : Stop DispatchError} {resolving : Bool}
    (h : stop.Alike (DispatchError.Alike resolving) stop') (stage : Stage)
    (hstage : (stage == .resolution) = resolving) :
    (stop.map (StageFailure.mk stage)).Alike StageFailure.Alike
      (stop'.map (StageFailure.mk stage)) :=
  h.map fun _ _ herror => ⟨rfl, hstage ▸ herror⟩

namespace Dispatcher

/-- Alike intake hooks let the same request pass or stop it alike. -/
theorem takeIn_alike (position : Nat) {hooks hooks' : List (IntakeHook σ κ)}
    (h : List.Forall₂ IntakeHook.Alike hooks hooks') (request : Request) :
    Run.Alike (fun r r' => r.1 = r'.1 ∧ Option.Rel StagesAlike r.2 r'.2)
      (takeIn position hooks request) (takeIn position hooks' request) := by
  induction h generalizing position request with
  | nil => exact .pure ⟨rfl, .none⟩
  | @cons hook hook' hooks hooks' hhook hhooks ih =>
    refine .bind (.performAlone (hhook.call request)) fun c c' hc => ?_
    rw [← hhook.mode]
    rcases (hc.called hook.mode).exists with
      ⟨stop, stop', hstop, hstop', halike⟩ | ⟨decision, _, ha, ha', rfl⟩
    · simp only [hstop, hstop']
      exact .pure ⟨rfl, .some (.error (halike.staged _ rfl))⟩
    · simp only [ha, ha']
      cases decision with
      | forward next => exact ih _ _
      | respond response => exact .pure ⟨rfl, .some (.ok rfl)⟩

/-- Alike request hooks answer alike. -/
theorem consult_alike (view : RequestView) (position : Nat) {hooks hooks' : List (RequestHook σ κ)}
    (h : List.Forall₂ RequestHook.Alike hooks hooks') :
    Run.Alike StagesAlike (consult view position hooks) (consult view position hooks') := by
  induction h generalizing position with
  | nil => exact .pure (.ok rfl)
  | @cons hook hook' hooks hooks' hhook hhooks ih =>
    refine .bind (.perform (hhook.call view)) fun c c' hc => ?_
    rw [← hhook.mode]
    rcases (hc.called hook.mode).exists with
      ⟨stop, stop', hstop, hstop', halike⟩ | ⟨answer, _, ha, ha', rfl⟩
    · simp only [hstop, hstop']
      exact .pure (.error (halike.staged _ rfl))
    · simp only [ha, ha']
      cases answer with
      | none => exact ih _
      | some response => exact .pure (.ok rfl)

/-- Alike response hooks make the same response. -/
theorem polish_alike (view : RequestView) (position : Nat) {hooks hooks' : List (ResponseHook σ κ)}
    (h : List.Forall₂ ResponseHook.Alike hooks hooks') (response : Response) :
    Run.Alike StagesAlike (polish view position hooks response)
      (polish view position hooks' response) := by
  induction h generalizing position response with
  | nil => exact .pure (.ok rfl)
  | @cons hook hook' hooks hooks' hhook hhooks ih =>
    refine .bind (.perform (hhook.call view response)) fun c c' hc => ?_
    rw [← hhook.mode]
    rcases (hc.called hook.mode).exists with
      ⟨stop, stop', hstop, hstop', halike⟩ | ⟨response, _, ha, ha', rfl⟩
    · simp only [hstop, hstop']
      exact .pure (.error (halike.staged _ rfl))
    · simp only [ha, ha']
      exact ih _ _

section Stages

variable {d d' : Dispatcher σ κ ν}

namespace Alike

theorem supported (h : d.Alike d') : d.supported = d'.supported := by
  rw [Dispatcher.supported, Dispatcher.supported, h.route.mediaTypes, h.settings]

theorem view (h : d.Alike d') (request : Request) : d.view request = d'.view request := by
  rw [Dispatcher.view, Dispatcher.view, Route.pathNames, Route.pathNames, h.route.path]

theorem given (h : d.Alike d') (products : Fields (Product ν)) :
    d.given products = d'.given products := by
  rw [Dispatcher.given, Dispatcher.given, h.route.backgroundParam]

end Alike

/-- The handler and all that follows it is alike for dispatchers that are. -/
theorem produce_alike (h : d.Alike d') (arguments : Arguments ν) :
    Run.Alike StagesAlike (d.produce arguments) (d'.produce arguments) := by
  refine .bind (.perform (h.route.handler.call arguments)) fun c c' hc => ?_
  rw [← h.route.handler.mode]
  rcases (hc.called d.route.handler.mode).exists with
    ⟨stop, stop', hstop, hstop', halike⟩ | ⟨output, output', ha, ha', houtput⟩
  · simp only [hstop, hstop']
    exact .pure (.error (halike.staged _ rfl))
  · simp only [ha, ha', ← h.supported]
    refine .bind (shape_alike _ _ houtput) fun r r' hr => ?_
    cases hr with
    | error herror => exact .pure (.error (.failed ⟨rfl, herror⟩))
    | ok hresponse =>
      subst hresponse
      exact polish_alike _ _ h.responseHooks _

/-- All stages after the intake hooks are alike for dispatchers that are. -/
theorem stages_alike (h : d.Alike d') (view : RequestView) :
    Run.Alike (fun r r' => StagesAlike r.1 r'.1) (d.stages view) (d'.stages view) := by
  refine .bind (consult_alike view 0 h.requestHooks) fun consulted consulted' hconsulted => ?_
  cases hconsulted with
  | error hstop => exact .pure (.error hstop)
  | @ok answer _ hanswer =>
    subst hanswer
    cases answer with
    | some response => exact .pure (.ok rfl)
    | none =>
      simp only [← h.settings, ← h.route.params]
      have hresolve := resolve_alike h.overrides d.settings.maxDependencyDepth h.route.dependencies
        (Context.Alike.new view)
      refine .bind hresolve fun r r' hr => ?_
      cases hr with
      | error hstop _ => exact .pure (.error (hstop.staged _ rfl))
      | ok products _ =>
        -- both requests are validated against the same parameters
        rcases validate d.route.params view with errors | values
        · exact .pure (.error (.failed ⟨rfl, .same _⟩))
        · simp only [← h.given]
          exact .bind (produce_alike h _) fun _ _ hproduced => .pure hproduced

/-- Passages with the same request that end with the same response or stop alike. -/
structure Passage.Alike (p p' : Passage σ κ ν) : Prop where
  request : p.request = p'.request
  result : StagesAlike p.result p'.result

/-- All stages are alike for dispatchers that are. -/
theorem pass_alike (h : d.Alike d') (request : Request) :
    Run.Alike Passage.Alike (d.pass request) (d'.pass request) := by
  refine .bind (takeIn_alike 0 h.intakeHooks request) fun taken taken' htaken => ?_
  obtain ⟨request, result⟩ := taken
  obtain ⟨request', result'⟩ := taken'
  obtain ⟨rfl, hresult⟩ := htaken
  cases hresult with
  | some hresult => exact .pure ⟨rfl, hresult⟩
  | none =>
    simp only [← h.view]
    exact .bind (stages_alike h _) fun _ _ hstages => .pure ⟨rfl, hstages⟩

end Stages

end Dispatcher

/-! ## Answers -/

/-- The default answers to errors that are alike are the same: only during the resolution does a
dependency error say anything. -/
theorem defaultResponse_alike {stage : Stage} {e e' : DispatchError}
    (h : e.Alike (stage == .resolution) e') :
    defaultResponse e stage = defaultResponse e' stage := by
  cases h with
  | same e => rfl
  | application c message message' => rfl
  | internal cause cause' => rfl
  | unhandled message message' => rfl
  | dependency hstage name message name' message' =>
    have other : stage ≠ .resolution := by simpa using hstage
    simp only [defaultResponse, if_neg other]

namespace Dispatcher

/-- The same response, or panics that may say different things. -/
abbrev AnswersAlike : Except Panic Response → Except Panic Response → Prop :=
  Except.LiftRel (fun _ _ => True) Eq

theorem AnswersAlike.refl (answer : Except Panic Response) : AnswersAlike answer answer := by
  cases answer with
  | error panic => exact .error trivial
  | ok response => exact .ok rfl

/-- Without error handlers, failures that are alike get the same answer. -/
theorem respond_alike {d d' : Dispatcher σ κ ν} (handlers : d.errorHandlers = .empty)
    (handlers' : d'.errorHandlers = .empty) {p p' : Passage σ κ ν} (h : p.Alike p') :
    Run.Alike AnswersAlike (d.respond p) (d'.respond p') := by
  obtain ⟨request, result, context⟩ := p
  obtain ⟨request', result', context'⟩ := p'
  obtain ⟨rfl, hresult⟩ := h
  cases hresult with
  | ok hresponse => exact .pure (.ok hresponse)
  | error hstop =>
    cases hstop with
    | unwound panic panic' => exact .pure (.error trivial)
    | @failed failure failure' hfailure =>
      obtain ⟨hstage, herror⟩ := hfailure
      have none (c : ErrorClass) : (ErrorHandlers.empty : ErrorHandlers σ κ).lookup c = none := rfl
      simp only [respond, answer, handlers, handlers', none]
      refine .pure ?_
      rw [← hstage, defaultResponse_alike herror]
      exact .refl _

/-- Two dispatchers without error handlers whose code differs only in what its errors and panics say
give the same response to the same request, or neither gives one: nothing of what they say reaches
the client. -/
theorem dispatch_hides_texts {d d' : Dispatcher σ κ ν} (h : d.Alike d')
    (handlers : d.errorHandlers = .empty) (handlers' : d'.errorHandlers = .empty)
    (request : Request) (s : Session σ κ) :
    AnswersAlike ((d.dispatch request s).result.map Reply.response)
      ((d'.dispatch request s).result.map Reply.response) := by
  have hopened : d.opened s = d'.opened s := by
    rw [opened, opened, spanName, spanName, h.observability, h.settings]
  have hpassed := pass_alike h request (d.opened s) (d'.opened s) (hopened ▸ .refl _)
  obtain ⟨hpassage, hsession⟩ := hpassed
  have hresponded : AnswersAlike (d.responded request s).result (d'.responded request s).result :=
    (respond_alike handlers handlers' hpassage _ _ hsession).1
  rw [dispatch_response, dispatch_response, outcome, outcome]
  rcases hresponded.exists with ⟨panic, panic', h, h', -⟩ | ⟨given, _, h, h', rfl⟩
  · rw [h, h']
    exact .error trivial
  · rw [h, h']
    exact .refl _

end Dispatcher

/-! ## A dispatcher with secrets -/

/-- Code that fails without touching anything. -/
def Effect.failing {α : Type} (failure : Failure) : Effect σ κ α := fun _ world =>
  (.error failure, world, [])

theorem Effect.Alike.failing {α β : Type} {R : α → β → Prop} {resolving : Bool}
    {failure failure' : Failure} (h : failure.Alike resolving failure') :
    Effect.Alike resolving R (Effect.failing failure : Effect σ κ α) (Effect.failing failure') :=
  fun _ _ => ⟨.error h, rfl, rfl⟩

/-- A source whose closing tells a secret. -/
def talkativeSource (secret : String) : SingleStep Unit Unit Unit :=
  { mode := .async
    first := Effect.value (some ⟨(), Effect.value none⟩)
    close := some ⟨.async, Effect.failing (.raised (.dependency "" secret))⟩ }

/-- A dispatcher whose handler panics with a secret in the middle of a stream, and whose only
dependency tells it when it is closed. -/
def talkativeDispatcher (secret : String) : Dispatcher Unit Unit Unit :=
  let connection : Factory Unit Unit Unit :=
    .new 0 "connect" .async fun _ => Effect.value (.singleStep (talkativeSource secret))
  let handler : Handler Unit Unit Unit :=
    ⟨.async, fun _ => Effect.value (.stream 200 "text/plain"
      [Effect.value (Utf8.encode "rows"), Effect.failing (.panicked (.message secret) false)])⟩
  .new { Route.new "GET" "/" handler with dependencies := [("connection", connection)] }

theorem talkativeSource_alike (secret secret' : String) :
    (talkativeSource secret).Alike (talkativeSource secret') where
  mode := rfl
  first := .value (.some ⟨rfl, .value rfl⟩)
  close := .some ⟨rfl, .failing (.raised (.dependency rfl _ _ _ _))⟩

theorem talkativeDispatcher_alike (secret secret' : String) :
    (talkativeDispatcher secret).Alike (talkativeDispatcher secret') where
  route :=
    { method := rfl
      path := rfl
      handler :=
        ⟨rfl, fun _ => .value (.stream _ _ (.cons (.value rfl)
          (.cons (.failing (.panicked _ _ _)) .nil)))⟩
      params := rfl
      dependencies := .cons _ (.intro rfl rfl rfl
        (fun _ => .value (.singleStep (talkativeSource_alike secret secret'))) .nil rfl rfl) .nil
      backgroundParam := rfl
      mediaTypes := rfl
      name := rfl }
  overrides := .nil
  intakeHooks := .nil
  requestHooks := .nil
  responseHooks := .nil
  observability := rfl
  settings := rfl
  clock := rfl

/-- Whichever secret the code tells, the response is the same, and there is one. -/
theorem talkative_tells_nothing :
    (talkativeDispatcher "disk full").Alike (talkativeDispatcher "no such user") ∧
      Dispatcher.AnswersAlike
        (((talkativeDispatcher "disk full").dispatch (.new "GET" "/") ⟨(), (), []⟩).result.map
          Reply.response)
        (((talkativeDispatcher "no such user").dispatch (.new "GET" "/") ⟨(), (), []⟩).result.map
          Reply.response) ∧
      (((talkativeDispatcher "disk full").dispatch (.new "GET" "/") ⟨(), (), []⟩).result.map
        Reply.response).isOk :=
  have alike := talkativeDispatcher_alike "disk full" "no such user"
  ⟨alike, Dispatcher.dispatch_hides_texts alike rfl rfl _ _, by decide +kernel⟩

end RequestDispatch
