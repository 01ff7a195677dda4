import RequestDispatch.Proofs.Audit
import RequestDispatch.Proofs.Twins

/-!
# Acquiring and releasing in other modes

Cleanups, outcomes of factories and the resolver run as twins when their code differs in modes only.
The modes choose between bodies in one place, where a source is ended and closed: `Cleanup.run` does
it in one blocking piece or in two steps. `Cleanup.run_exhaust_some` brings both into one form, from
which a panic is all that can tell them apart.
-/

namespace RequestDispatch

variable {σ κ ν : Type}

/-! ## Cleanup -/

namespace Cleanup

open scoped Audit

/-- The result of ending a source and closing it. -/
def joined (source close : Mode) (ended closed : Completion Unit) : Except DispatchError Unit :=
  match source, close, closed with
  | .blocking, .blocking, .error (.panicked panic _) =>
    .error (.internal (.panicked .blocking panic))
  | _, _, _ =>
    match ended.contain source with
    | .error e => .error e
    | .ok () => closed.contain close

/-- Ending a source that has no closing. -/
theorem run_exhaust_none (origin : Nat) (source : Mode) (rest : Effect σ κ (Option ν)) :
    (exhaust source rest none).run origin = do
      let ended ← Run.perform (.advanced origin) rest
      return ended.exhausted.contain source := by
  cases source <;>
    simp only [run, mode, exhaustTogether, exhaustApart, closeInside, closeApart, bind_assoc] <;>
    refine bind_congr fun ended => ?_ <;>
    obtain (e | ⟨panic, early⟩) | (_ | value) := ended <;> rfl

/-- Ending a source and closing it, whatever the modes: the closing is left out after a panic of the
source that is one piece with it or that nothing contains. -/
theorem run_exhaust_some (origin : Nat) (source : Mode) (rest : Effect σ κ (Option ν))
    (close : Action σ κ) :
    (exhaust source rest (some close)).run origin = do
      let ended ← Run.perform (.advanced origin) rest
      if ended.isPanic && (source == .async || close.mode == .blocking) then
        return ended.exhausted.contain source
      else
        let closed ← Run.perform (.closed origin) close.run
        return joined source close.mode ended.exhausted closed := by
  obtain ⟨closing, code⟩ := close
  -- in one piece or in two, by the modes
  cases source <;> cases closing <;>
    simp only [run, mode, exhaustTogether, exhaustApart, closeInside, closeApart, bind_assoc] <;>
    refine bind_congr fun ended => ?_ <;>
    obtain (e | ⟨panic, early⟩) | (_ | value) := ended <;>
    simp only [Completion.exhausted, Completion.isPanic, bind_assoc, pure_bind,
      beq_self_eq_true, Bool.true_and, Bool.false_and, Bool.or_true, Bool.true_or, if_true,
      Bool.false_eq_true, if_false] <;>
    try rfl
  -- where the closing follows, by how it ends
  all_goals
    refine bind_congr fun closed => ?_
    obtain (e | ⟨panic, early⟩) | ⟨⟩ := closed <;> rfl

/-- Without a panic the modes do not matter. -/
theorem joined_of_calm (source close : Mode) {ended closed : Completion Unit}
    (hended : ended.isPanic = false) (hclosed : closed.isPanic = false) :
    joined source close ended closed = (ended.firstFailure closed).contain .async := by
  obtain (e | ⟨panic, early⟩) | ⟨⟩ := ended
  · obtain (e' | ⟨panic', early'⟩) | ⟨⟩ := closed
    · cases source <;> cases close <;> rfl
    · exact nomatch hclosed
    · cases source <;> cases close <;> rfl
  · exact nomatch hended
  · obtain (e' | ⟨panic', early'⟩) | ⟨⟩ := closed
    · cases source <;> cases close <;> rfl
    · exact nomatch hclosed
    · cases source <;> cases close <;> rfl

/-- A close that is called by itself is the same in both modes. -/
theorem closeApart_twins (origin : Nat) {close close' : Option (Action σ κ)}
    (h : close.map (Action.recast .forget) = close'.map (Action.recast .forget)) :
    Run.Twins id Eq (closeApart origin (close.map (Action.recast .watch))) (closeApart origin close)
      (closeApart origin close') := by
  cases close with
  | none =>
    cases close' with
    | none => exact .pure rfl rfl
    | some close' => exact nomatch h
  | some close =>
    cases close' with
    | none => exact nomatch h
    | some close' =>
      have hcode := congrArg Action.run (Option.some.inj h)
      exact .perform_bind hcode (fun _ _ _ => .pure rfl rfl) (fun _ => .pure rfl rfl)
        fun _ _ => .pure rfl

/-- What follows the advance of a source that is to be closed, if nothing leaves the closing out. -/
def closing (origin : Nat) (source : Mode) (close : Action σ κ) (ended : Completion Unit) :
    Run σ κ (Except DispatchError Unit) := do
  let closed ← Run.perform (.closed origin) close.run
  return joined source close.mode ended closed

theorem closing_watches (origin : Nat) (source : Mode) (close : Action σ κ)
    (ended : Completion Unit) :
    Run.Watches id (closing origin source (close.recast .watch) ended)
      (closing origin source close ended) := by
  refine .bind (.perform _ _ _) fun closed => ?_
  rw [Completion.map_id]
  exact .pure rfl

/-- A close after a source that ended without a panic is the same in both modes of the source. -/
theorem closing_twins (origin : Nat) (source source' : Mode) {close close' : Action σ κ}
    (h : close.recast .forget = close'.recast .forget) {ended : Completion Unit}
    (calm : ended.isPanic = false) :
    Run.Twins id Eq (closing origin source (close.recast .watch) ended)
      (closing origin source close ended) (closing origin source' close' ended) := by
  have hjoined {closed : Completion Unit} (hclosed : closed.isPanic = false) :
      joined source close.mode ended closed = joined source' close'.mode ended closed := by
    rw [joined_of_calm _ _ calm hclosed, joined_of_calm _ _ calm hclosed]
  exact .perform_bind (congrArg Action.run h) (fun _ _ _ => .pure rfl (hjoined rfl))
    (fun _ => .pure rfl (hjoined rfl)) fun _ _ => .pure rfl

/-- Ending sources and closing them. -/
theorem exhaust_twins (origin : Nat) (source source' : Mode) {rest rest' : Effect σ κ (Option ν)}
    {close close' : Option (Action σ κ)} (hrest : rest.recast .forget id = rest'.recast .forget id)
    (hclose : close.map (Action.recast .forget) = close'.map (Action.recast .forget)) :
    Run.Twins id Eq (((exhaust source rest close).recast .watch).run origin)
      ((exhaust source rest close).run origin) ((exhaust source' rest' close').run origin) := by
  obtain _ | close := close <;> obtain _ | close' := close'
  · simp only [recast, Option.map_none, run_exhaust_none]
    refine .perform_bind hrest (fun value _ hvalue => ?_) (fun _ => .pure rfl rfl)
      fun _ _ => .pure rfl
    subst hvalue
    cases value <;> exact .pure rfl rfl
  · exact nomatch hclose
  · exact nomatch hclose
  · have hclosing {ended : Completion Unit} (calm : ended.isPanic = false) :=
      closing_twins origin source source' (Option.some.inj hclose) calm
    simp only [recast, Option.map_some, run_exhaust_some]
    refine .perform_bind hrest (fun value _ hvalue => ?_) (fun _ => hclosing rfl)
      fun panic early => ?_
    · subst hvalue
      cases value <;> exact hclosing rfl
    · -- both leave the closing out or neither does
      exact .ite (.pure rfl) (closing_watches origin source close _)

/-- Cleanups that differ in modes only end in the same way. -/
theorem run_twins (origin : Nat) {cleanup cleanup' : Cleanup σ κ ν}
    (h : cleanup.recast .forget = cleanup'.recast .forget) :
    Run.Twins id Eq ((cleanup.recast .watch).run origin) (cleanup.run origin)
      (cleanup'.run origin) := by
  -- cleanups that differ in modes only are of one kind
  cases cleanup with
  | action a =>
    cases cleanup' with
    | action a' =>
      have hcode := congrArg Action.run (Cleanup.action.inj h)
      exact .perform_bind hcode (fun _ _ _ => .pure rfl rfl) (fun _ => .pure rfl rfl)
        fun _ _ => .pure rfl
    | exhaust source' rest' close' => exact nomatch h
    | release resource' code' => exact nomatch h
  | exhaust source rest close =>
    cases cleanup' with
    | action a' => exact nomatch h
    | exhaust source' rest' close' =>
      obtain ⟨-, hrest, hclose⟩ := Cleanup.exhaust.inj h
      exact exhaust_twins origin source source' hrest hclose
    | release resource' code' => exact nomatch h
  | release resource code =>
    cases cleanup' with
    | action a' => exact nomatch h
    | exhaust source' rest' close' => exact nomatch h
    | release resource' code' =>
      obtain ⟨-, hcode⟩ := Cleanup.release.inj h
      exact .perform_bind hcode (fun _ _ _ => .pure rfl rfl) (fun _ => .pure rfl rfl)
        fun _ _ => .pure rfl

end Cleanup

/-- Pending cleanups that differ in modes only end in the same way. -/
theorem Audit.ofPending_twins {pending pending' : List (Nat × Cleanup σ κ ν)}
    (h : pending.map (Cleanup.recastPending .forget) =
      pending'.map (Cleanup.recastPending .forget)) :
    Run.Twins id Eq (ofPending (pending.map (Cleanup.recastPending .watch))) (ofPending pending)
      (ofPending pending') := by
  induction pending generalizing pending' with
  | nil =>
    obtain rfl := List.map_eq_nil_iff.mp h.symm
    exact .pure rfl rfl
  | cons entry pending ih =>
    obtain ⟨entry', pending', rfl, hentry, hpending⟩ := List.map_eq_cons_iff.mp h.symm
    obtain ⟨origin, cleanup⟩ := entry
    obtain ⟨origin', cleanup'⟩ := entry'
    obtain ⟨rfl, hcleanup⟩ := Prod.mk.inj hentry
    refine .bind_eq (.enter _) fun _ => .bind_eq (cleanup.run_twins _ hcleanup.symm) fun _ => ?_
    exact .bind_eq (.enter _) fun _ => .bind_eq (ih hpending.symm) fun _ => .pure rfl rfl

/-! ## Outcomes of factories -/

/-- Results of turning outcomes into values that differ in modes only. -/
def NormalizedSame (r r' : Except DispatchError (Outcome.Normalized σ κ ν)) : Prop :=
  r.map (Outcome.Normalized.recast .forget) = r'.map (Outcome.Normalized.recast .forget)

namespace Outcome

/-- A source that differs in modes only yields the same or fails in the same way. -/
theorem singleStep_twins (origin : Nat) {step step' : SingleStep σ κ ν}
    (h : step.recast .forget = step'.recast .forget) :
    Run.Twins (Except.map (Normalized.recast .watch)) NormalizedSame
      ((singleStep (step.recast .watch)).normalize origin) ((singleStep step).normalize origin)
      ((singleStep step').normalize origin) := by
  have hfirst := congrArg SingleStep.first h
  have hclose := congrArg SingleStep.close h
  have hclosing := Cleanup.closeApart_twins origin hclose
  refine .perform_bind hfirst (fun yielded yielded' hyielded => ?_) (fun _ => ?_) fun _ _ => ?_
  · cases yielded with
    | none =>
      obtain rfl := Option.map_eq_none_iff.mp hyielded.symm
      exact hclosing.bind_eq fun _ => .pure rfl rfl
    | some yielded =>
      obtain ⟨yielded', rfl, hyielded'⟩ := Option.map_eq_some_iff.mp hyielded.symm
      obtain ⟨hvalue, hrest⟩ := Yield.mk.inj hyielded'
      refine .bind_eq (.enter _) fun _ => .pure rfl ?_
      have hcloses : step.close.map (Action.recast .forget) =
          step'.close.map (Action.recast .forget) := hclose
      simp only [NormalizedSame, Except.map, Normalized.recast, Option.map_some, Cleanup.recast,
        hvalue, hrest, hcloses]
      rfl
  · exact hclosing.bind_eq fun _ => .pure rfl rfl
  · exact hclosing.watches.bind fun _ => .pure rfl

/-- A scoped resource that differs in modes only is acquired with the same value or fails so too. -/
theorem scoped_twins (origin : Nat) {resource resource' : ScopedResource σ κ ν}
    (h : resource.recast .forget = resource'.recast .forget) :
    Run.Twins (Except.map (Normalized.recast .watch)) NormalizedSame
      ((Outcome.scoped (resource.recast .watch)).normalize origin)
      ((Outcome.scoped resource).normalize origin)
      ((Outcome.scoped resource').normalize origin) := by
  have hacquire := congrArg ScopedResource.acquire h
  have hrelease (acquired : Option ν) := congrFun (congrArg ScopedResource.release h) acquired
  refine .perform_bind hacquire (fun acquired _ hacquired => ?_) (fun _ => .pure rfl rfl)
    fun _ _ => .pure rfl
  subst hacquired
  cases acquired with
  | none =>
    exact .perform_bind (hrelease none) (fun _ _ _ => .pure rfl rfl) (fun _ => .pure rfl rfl)
      fun _ _ => .pure rfl
  | some value =>
    refine .bind_eq (.enter _) fun _ => .pure rfl ?_
    have hcode : (resource.release (some value)).recast .forget id =
        (resource'.release (some value)).recast .forget id := hrelease (some value)
    simp only [NormalizedSame, Except.map, Normalized.recast, Option.map_some, Cleanup.recast,
      hcode]
    rfl

/-- Outcomes that differ in modes only are turned into the same. -/
theorem normalize_twins (origin : Nat) {outcome outcome' : Outcome σ κ ν}
    (h : outcome.recast .forget = outcome'.recast .forget) :
    Run.Twins (Except.map (Normalized.recast .watch)) NormalizedSame
      ((outcome.recast .watch).normalize origin) (outcome.normalize origin)
      (outcome'.normalize origin) := by
  -- both are of the same shape
  cases outcome <;> cases outcome' <;>
    simp only [recast, reduceCtorEq, immediate.injEq, deferred.injEq, singleStep.injEq,
      scoped.injEq] at h
  case immediate.immediate value value' =>
    subst h
    exact .pure rfl rfl
  case deferred.deferred compute compute' =>
    refine .perform_bind h (fun value _ hvalue => ?_) (fun _ => .pure rfl rfl) fun _ _ => .pure rfl
    subst hvalue
    exact .pure rfl rfl
  case singleStep.singleStep step step' => exact singleStep_twins origin h
  case scoped.scoped resource resource' => exact scoped_twins origin h

end Outcome

/-! ## The resolver -/

namespace Context

variable {τ : Type} (r : Recast σ τ) (ctx : Context σ κ ν)

@[simp] theorem view_recast : (ctx.recast r).view = ctx.view := rfl

@[simp] theorem cleanup_recast :
    (ctx.recast r).cleanup = ⟨ctx.cleanup.pending.map (Cleanup.recastPending r)⟩ := rfl

@[simp] theorem invocations_recast : (ctx.recast r).invocations = ctx.invocations := rfl

@[simp] theorem invoked_recast : (ctx.recast r).invoked = ctx.invoked.recast r := rfl

@[simp] theorem cached?_recast (f : Factory σ κ ν) :
    (ctx.recast r).cached? (f.recast r) = ctx.cached? f := by
  simp only [cached?, Factory.recast_usesCache, Factory.recast_id, recast]

end Context

/-- What resolving gives, with the context recast. -/
abbrev Resolved.recast {τ α : Type} (r : Recast σ τ) :
    Resolved σ κ ν α → Resolved τ κ ν α :=
  Prod.map id (Context.recast r)

/-- The same result, and contexts that differ in modes only. -/
abbrev ResolvedSame {α : Type} (resolved resolved' : Resolved σ κ ν α) : Prop :=
  Resolved.recast .forget resolved = Resolved.recast .forget resolved'

/-- Results of a resolution are the same up to modes if they and their contexts are. -/
theorem resolvedSame_iff {α : Type} {result result' : Except (Stop DispatchError) α}
    {ctx ctx' : Context σ κ ν} :
    ResolvedSame (result, ctx) (result', ctx') ↔
      result = result' ∧ ctx.recast .forget = ctx'.recast .forget :=
  Prod.ext_iff

/-- Factories that differ in modes only are called in the same way. -/
structure Factory.Same (f f' : Factory σ κ ν) : Prop where
  recast : f.recast .forget = f'.recast .forget
  id : f.id = f'.id
  name : f.name = f'.name
  wantsRequest : f.wantsRequest = f'.wantsRequest
  usesCache : f.usesCache = f'.usesCache
  dependencies :
    f.dependencies.map (recastSpec .forget) = f'.dependencies.map (recastSpec .forget)

/-- Factories that differ in modes have the rest in common. -/
theorem Factory.same_of_recast {f f' : Factory σ κ ν} (h : f.recast .forget = f'.recast .forget) :
    f.Same f' where
  recast := h
  id := by simpa using congrArg Factory.id h
  name := by simpa using congrArg Factory.name h
  wantsRequest := by simpa using congrArg Factory.wantsRequest h
  usesCache := by simpa using congrArg Factory.usesCache h
  dependencies := by simpa using congrArg Factory.dependencies h

/-- Replacements for factories that differ in modes differ in modes. -/
theorem OverrideChain.effective_same {chain chain' : OverrideChain σ κ ν}
    (hchain : chain.recast .forget = chain'.recast .forget) {f f' : Factory σ κ ν}
    (hf : f.recast .forget = f'.recast .forget) :
    (chain.effective f).Same (chain'.effective f') := by
  refine Factory.same_of_recast ?_
  rw [← effective_recast, ← effective_recast, hchain, hf]

/-- Whether a value is shared already does not depend on modes. -/
theorem Context.cached?_same {ctx ctx' : Context σ κ ν}
    (hctx : ctx.recast .forget = ctx'.recast .forget) {f f' : Factory σ κ ν}
    (hf : f.recast .forget = f'.recast .forget) : ctx.cached? f = ctx'.cached? f' := by
  have hcached := cached?_recast .forget ctx f
  rw [hctx, hf] at hcached
  exact hcached.symm.trans (cached?_recast .forget ctx' f')

namespace Resolver

/-- A value is settled before or after the modes are recast. -/
theorem settle_recast {τ : Type} (r : Recast σ τ) (f : Factory σ κ ν) (origin : Nat)
    (normalized : Outcome.Normalized σ κ ν) (ctx : Context σ κ ν) :
    settle (f.recast r) origin (normalized.recast r) (ctx.recast r) =
      Resolved.recast r (settle f origin normalized ctx) := by
  obtain ⟨value, _ | cleanup⟩ := normalized <;> cases h : f.usesCache <;>
    simp [settle, Outcome.Normalized.recast, Context.share, Context.pending, h, Context.recast,
      CleanupStack.push, Cleanup.recastPending]

/-- Factories that differ in modes are called in the same way, as far as no panic tells the modes
apart. -/
theorem produce_twins (parameter : String) {f f' : Factory σ κ ν} (hf : f.Same f')
    (values : Fields (Product ν)) {ctx ctx' : Context σ κ ν}
    (hctx : ctx.recast .forget = ctx'.recast .forget) :
    Run.Twins (Resolved.recast .watch) ResolvedSame
      (produce parameter (f.recast .watch) values (ctx.recast .watch))
      (produce parameter f values ctx) (produce parameter f' values ctx') := by
  have hview : ctx.view = ctx'.view := by simpa using congrArg Context.view hctx
  have hinvocations : ctx.invocations = ctx'.invocations := by
    simpa using congrArg Context.invocations hctx
  have hinvoked : ctx.invoked.recast .forget = ctx'.invoked.recast .forget :=
    congrArg Context.invoked hctx
  have hcall (args : FactoryArgs ν) := congrFun (congrArg Factory.call hf.recast) args
  simp only [Factory.recast_call] at hcall
  simp only [produce, Factory.recast_id, Factory.recast_usesCache, Factory.recast_wantsRequest,
    Factory.recast_mode, Recast.watch_mode, Factory.recast_call, Context.view_recast,
    Context.invocations_recast, Context.invoked_recast,
    ← hf.id, ← hf.usesCache, ← hf.wantsRequest, ← hview, ← hinvocations]
  refine .perform_bind (hcall _) (fun outcome outcome' houtcome => ?_) (fun e => ?_)
    fun panic early => ?_
  · simp only [Completion.called_ok]
    refine .bind (Outcome.normalize_twins ctx.invocations houtcome) (fun _ => rfl)
      fun normalized normalized' hnormalized => ?_
    -- the normalized outcomes are both errors or both values
    obtain e | normalized := normalized <;> obtain e' | normalized' := normalized'
    · obtain rfl := Except.error.inj hnormalized
      exact .pure rfl (resolvedSame_iff.mpr ⟨rfl, hinvoked⟩)
    · cases hnormalized
    · cases hnormalized
    · refine .bind_eq (.enter _) fun _ => .pure (settle_recast _ _ _ _ _) ?_
      rw [ResolvedSame, ← settle_recast, ← settle_recast, hf.recast, hinvoked,
        Except.ok.inj hnormalized]
  · simp only [Completion.called_raised]
    exact .pure rfl (resolvedSame_iff.mpr ⟨rfl, hinvoked⟩)
  · simp only [Completion.called_panicked]
    exact .pure rfl

/-- Parameters are resolved in the same way one after another if each of them is. -/
theorem each_twins
    {watched : DependencySpec (Watched σ) κ ν → Context (Watched σ) κ ν →
      Run (Watched σ) κ (Resolved (Watched σ) κ ν (Product ν))}
    {one one' : DependencySpec σ κ ν → Context σ κ ν → Run σ κ (Resolved σ κ ν (Product ν))}
    (h : ∀ (name : String) (f f' : Factory σ κ ν) (ctx ctx' : Context σ κ ν),
      f.recast .forget = f'.recast .forget → ctx.recast .forget = ctx'.recast .forget →
        Run.Twins (Resolved.recast .watch) ResolvedSame
          (watched (name, f.recast .watch) (ctx.recast .watch)) (one (name, f) ctx)
          (one' (name, f') ctx'))
    {specs specs' : List (DependencySpec σ κ ν)}
    (hspecs : specs.map (Factory.recastSpec .forget) = specs'.map (Factory.recastSpec .forget))
    (values : Fields (Product ν)) {ctx ctx' : Context σ κ ν}
    (hctx : ctx.recast .forget = ctx'.recast .forget) :
    Run.Twins (Resolved.recast .watch) ResolvedSame
      (each watched (specs.map (Factory.recastSpec .watch)) values (ctx.recast .watch))
      (each one specs values ctx) (each one' specs' values ctx') := by
  induction specs generalizing specs' values ctx ctx' with
  | nil =>
    obtain rfl := List.map_eq_nil_iff.mp hspecs.symm
    exact .pure rfl (resolvedSame_iff.mpr ⟨rfl, hctx⟩)
  | cons spec specs ih =>
    obtain ⟨spec', specs', rfl, hspec, hspecs'⟩ := List.map_eq_cons_iff.mp hspecs.symm
    obtain ⟨name, f⟩ := spec
    obtain ⟨name', f'⟩ := spec'
    obtain ⟨rfl, hf⟩ := Prod.mk.inj hspec
    refine .bind (h _ f f' ctx ctx' hf.symm hctx) (fun _ => rfl) fun resolved resolved' hsame => ?_
    obtain ⟨result, ctx⟩ := resolved
    obtain ⟨result', ctx'⟩ := resolved'
    obtain ⟨rfl, hctx⟩ := resolvedSame_iff.mp hsame
    cases result with
    | error e => exact .pure rfl (resolvedSame_iff.mpr ⟨rfl, hctx⟩)
    | ok product => exact ih hspecs'.symm _ hctx

/-- A parameter is resolved in the same way where all factories differ in modes only. -/
theorem parameter_twins {chain chain' : OverrideChain σ κ ν}
    (hchain : chain.recast .forget = chain'.recast .forget) (limit levels : Nat)
    (path : List FactoryId) (name : String) {declared declared' : Factory σ κ ν}
    (hdeclared : declared.recast .forget = declared'.recast .forget) {ctx ctx' : Context σ κ ν}
    (hctx : ctx.recast .forget = ctx'.recast .forget) :
    Run.Twins (Resolved.recast .watch) ResolvedSame
      (parameter (chain.recast .watch) limit levels path (name, declared.recast .watch)
        (ctx.recast .watch))
      (parameter chain limit levels path (name, declared) ctx)
      (parameter chain' limit levels path (name, declared') ctx') := by
  induction levels generalizing path name declared declared' ctx ctx' with
  | zero =>
    have hf := OverrideChain.effective_same hchain hdeclared
    simp only [parameter, OverrideChain.effective_recast, Context.cached?_recast, Factory.recast_id,
      Factory.recast_usesCache, Factory.recast_name, ← hf.id, ← hf.usesCache, ← hf.name,
      ← Context.cached?_same hctx hf.recast]
    -- a cycle or the bound ends it the same way, since the ids are the same
    rcases ctx.cached? (chain.effective declared) with _ | product
    · dsimp only
      split <;> exact .pure rfl (resolvedSame_iff.mpr ⟨rfl, hctx⟩)
    · exact .bind_eq (.enter _) fun _ => .pure rfl (resolvedSame_iff.mpr ⟨rfl, hctx⟩)
  | succ levels ih =>
    have hf := OverrideChain.effective_same hchain hdeclared
    simp only [parameter, OverrideChain.effective_recast, Context.cached?_recast, Factory.recast_id,
      Factory.recast_usesCache, Factory.recast_name, Factory.recast_dependencies, ← hf.id,
      ← hf.usesCache, ← hf.name, ← Context.cached?_same hctx hf.recast]
    rcases ctx.cached? (chain.effective declared) with _ | product
    · dsimp only
      split
      · exact .pure rfl (resolvedSame_iff.mpr ⟨rfl, hctx⟩)
      -- the dependencies are one level below
      · have below := each_twins (fun name f f' ctx ctx' hf hctx =>
          ih (path ++ [(chain.effective declared).id]) name hf hctx) hf.dependencies .empty hctx
        refine .bind_eq (.enter _) fun _ => .bind below (fun _ => rfl)
          fun resolved resolved' hsame => ?_
        obtain ⟨result, ctx⟩ := resolved
        obtain ⟨result', ctx'⟩ := resolved'
        obtain ⟨rfl, hctx⟩ := resolvedSame_iff.mp hsame
        cases result with
        | error e => exact .pure rfl (resolvedSame_iff.mpr ⟨rfl, hctx⟩)
        | ok values => exact .bind_eq (.enter _) fun _ => produce_twins name hf values hctx
    · exact .bind_eq (.enter _) fun _ => .pure rfl (resolvedSame_iff.mpr ⟨rfl, hctx⟩)

end Resolver

/-- Dependencies that differ in modes only are resolved in the same way, and a failed resolution
releases in the same way. -/
theorem Audit.resolve_twins {chain chain' : OverrideChain σ κ ν}
    (hchain : chain.recast .forget = chain'.recast .forget) (limit : Nat)
    {specs specs' : List (DependencySpec σ κ ν)}
    (hspecs : specs.map (Factory.recastSpec .forget) = specs'.map (Factory.recastSpec .forget))
    {ctx ctx' : Context σ κ ν} (hctx : ctx.recast .forget = ctx'.recast .forget) :
    Run.Twins (Prod.map (Resolved.recast .watch) id)
      (fun r r' => ResolvedSame r.1 r'.1 ∧ r.2 = r'.2)
      (resolve (chain.recast .watch) limit (specs.map (Factory.recastSpec .watch))
        (ctx.recast .watch))
      (resolve chain limit specs ctx) (resolve chain' limit specs' ctx') := by
  have heach := Resolver.each_twins (fun name f f' ctx ctx' hf hctx =>
    Resolver.parameter_twins hchain limit limit [] name hf hctx) hspecs .empty hctx
  refine .bind heach (fun _ => rfl) fun resolved resolved' hsame => ?_
  obtain ⟨result, ctx⟩ := resolved
  obtain ⟨result', ctx'⟩ := resolved'
  obtain ⟨rfl, hctx⟩ := resolvedSame_iff.mp hsame
  cases result with
  | ok values => exact .pure rfl ⟨resolvedSame_iff.mpr ⟨rfl, hctx⟩, rfl⟩
  | error stop =>
    have hpending := congrArg (fun ctx => ctx.cleanup.pending) hctx
    simp only [Context.cleanup_recast] at hpending
    have hreleased := congrArg
      (fun ctx => (⟨ctx.view, ctx.cache, .empty, ctx.invocations⟩ : Context σ κ ν)) hctx
    cases stop with
    | failed e =>
      exact .bind_eq (ofPending_twins hpending) fun audit =>
        .pure rfl ⟨resolvedSame_iff.mpr ⟨rfl, hreleased⟩, rfl⟩
    | unwound panic => exact .pure rfl ⟨resolvedSame_iff.mpr ⟨rfl, hctx⟩, rfl⟩

end RequestDispatch
