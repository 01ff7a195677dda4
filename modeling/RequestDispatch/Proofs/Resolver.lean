import RequestDispatch.Proofs.Frames

/-!
# The ways of the resolver

A parameter is resolved in one of five ways: it receives a shared value, it closes a cycle, it lies
too deep, one of its own dependencies stops, or its factory is called. `Resolver.Cases` lists what
has to be shown of each way, together with the three ways of a list of parameters, and
`Resolver.Cases.parameter` and `Resolver.Cases.each` conclude it of every run. An invariant of the
resolver is a value of `Resolver.Cases`, so no invariant opens the recursion again.
-/

namespace RequestDispatch

/-! ## Contexts -/

namespace Context

variable {σ κ ν : Type} (ctx : Context σ κ ν) (f : Factory σ κ ν) (p : Product ν)

@[simp] theorem invoked_invocations : ctx.invoked.invocations = ctx.invocations + 1 := rfl

@[simp] theorem invoked_cleanup : ctx.invoked.cleanup = ctx.cleanup := rfl

@[simp] theorem invoked_cache : ctx.invoked.cache = ctx.cache := rfl

@[simp] theorem share_invocations : (ctx.share f p).invocations = ctx.invocations := by
  unfold share; split <;> rfl

@[simp] theorem share_cleanup : (ctx.share f p).cleanup = ctx.cleanup := by
  unfold share; split <;> rfl

/-- Sharing a value changes what is shared of its factory only. -/
theorem lookup_share (id : FactoryId) :
    (ctx.share f p).cache.lookup id =
      if f.usesCache ∧ id = f.id then some p else ctx.cache.lookup id := by
  unfold share
  by_cases hcache : f.usesCache
  · by_cases hid : id = f.id
    · simp [hcache, hid]
    · simp [hcache, hid, List.lookup_cons, beq_eq_false_iff_ne.mpr hid]
  · simp [hcache]

/-- A factory has a shared value if it takes part in sharing and a value is there. -/
theorem cached?_eq_some {ctx : Context σ κ ν} {f : Factory σ κ ν} {p : Product ν} :
    ctx.cached? f = some p ↔ f.usesCache ∧ ctx.cache.lookup f.id = some p := by
  unfold cached?
  split <;> simp [*]

/-- A factory that takes part in sharing and has no shared value has none in the cache. -/
theorem lookup_eq_none {ctx : Context σ κ ν} {f : Factory σ κ ν} (h : ctx.cached? f = none)
    (hcache : f.usesCache) : ctx.cache.lookup f.id = none := by
  rwa [cached?, if_pos hcache] at h

/-- Releasing a context is releasing its stack. -/
theorem journal_release (s : Session σ κ) :
    (ctx.release s).journal = (CleanupStack.releaseAll ctx.cleanup.pending s).journal := by
  simp [release, CleanupStack.release]

end Context

namespace Resolver

variable {σ κ ν : Type} {chain : OverrideChain σ κ ν} {limit : Nat}

/-! ## Calling a factory -/

/-- The call of a factory, as the journal has it. -/
def callEvent (f : Factory σ κ ν) (values : Fields (Product ν)) (ctx : Context σ κ ν) : Event :=
  .invoked f.id f.usesCache ctx.invocations (values.map Product.origin)

/-- The receipt of a fresh value, as the journal has it. -/
def receiptEvent (name : String) (f : Factory σ κ ν) (origin : Nat) : Event :=
  .received name f.id f.usesCache origin

/-- The step of calling a factory with the values of its dependencies. -/
def callStep (f : Factory σ κ ν) (values : Fields (Product ν)) (ctx : Context σ κ ν)
    (s : Session σ κ) : Step σ κ (Completion (Outcome σ κ ν)) :=
  Run.perform (callEvent f values ctx)
    (f.call ⟨if f.wantsRequest then some ctx.view else none, values⟩) s

/-- Taking up a value gives it with its invocation, and shares it. -/
theorem settle_shares (f : Factory σ κ ν) (origin : Nat) (normalized : Outcome.Normalized σ κ ν)
    (ctx : Context σ κ ν) :
    ∃ ctx', settle f origin normalized ctx = (.ok ⟨origin, normalized.value⟩, ctx') ∧
      ctx'.invocations = ctx.invocations ∧
      ∀ id, ctx'.cache.lookup id =
        if f.usesCache ∧ id = f.id then some ⟨origin, normalized.value⟩
        else ctx.cache.lookup id := by
  unfold settle
  split
  · exact ⟨_, rfl, by simp [Context.pending], fun id => Context.lookup_share _ f _ id⟩
  · exact ⟨_, rfl, by simp, fun id => Context.lookup_share ctx f _ id⟩

/-- Taking up a value makes its cleanup pending, if it has one. -/
theorem settle_pending (f : Factory σ κ ν) (origin : Nat)
    (normalized : Outcome.Normalized σ κ ν) (ctx : Context σ κ ν) :
    (settle f origin normalized ctx).2.invocations = ctx.invocations ∧
      (settle f origin normalized ctx).2.cleanup.pending =
        (normalized.cleanup.map fun cleanup => (origin, cleanup)).toList ++
          ctx.cleanup.pending := by
  unfold settle
  split
  · next cleanup h => simp [h, Context.pending, CleanupStack.push]
  · next h => simp [h]

/-- A call stops, or its outcome gives no value, or its value is taken up. -/
theorem produce_cases (name : String) (f : Factory σ κ ν) (values : Fields (Product ν))
    (ctx : Context σ κ ν) (s : Session σ κ) :
    (∃ stop, (callStep f values ctx s).result.called f.mode = .error stop ∧
      produce name f values ctx s =
        ⟨(.error (stop.map fun e => e.withDependencyName name), ctx.invoked),
          (callStep f values ctx s).session, [callEvent f values ctx]⟩) ∨
    ∃ outcome t, (callStep f values ctx s).result.called f.mode = .ok outcome ∧
      outcome.normalize ctx.invocations (callStep f values ctx s).session = t ∧
      ((∃ e, t.result = .error e ∧ produce name f values ctx s =
          ⟨(.error (.failed e), ctx.invoked), t.session, callEvent f values ctx :: t.journal⟩) ∨
        ∃ normalized, t.result = .ok normalized ∧ produce name f values ctx s =
          ⟨settle f ctx.invocations normalized ctx.invoked, t.session,
            callEvent f values ctx :: t.journal ++ [receiptEvent name f ctx.invocations]⟩) := by
  simp only [produce, Run.bind_apply]
  -- the two results decide the way: that of the call, then that of normalizing its outcome
  rcases hcall : (callStep f values ctx s).result.called f.mode with stop | outcome
  · refine Or.inl ⟨stop, rfl, ?_⟩
    simp only [callStep, callEvent] at hcall ⊢
    simp [hcall]
  · refine Or.inr ⟨outcome, _, rfl, rfl, ?_⟩
    rcases hn : (outcome.normalize ctx.invocations (callStep f values ctx s).session).result
      with e | normalized
    · refine Or.inl ⟨e, rfl, ?_⟩
      simp only [callStep, callEvent] at hcall hn ⊢
      simp [hcall, hn, Run.bind_apply]
    · refine Or.inr ⟨normalized, rfl, ?_⟩
      simp only [callStep, callEvent, receiptEvent] at hcall hn ⊢
      simp [hcall, hn, Run.bind_apply]

/-! ## Resolving parameters -/

section Ways

variable {levels : Nat} {path : List FactoryId} {name : String} {declared : Factory σ κ ν}
  {ctx ctx' : Context σ κ ν} {s : Session σ κ}

/-- A parameter whose value is shared receives it, and nothing is called. -/
theorem parameter_shared {p : Product ν} (hp : ctx.cached? (chain.effective declared) = some p) :
    parameter chain limit levels path (name, declared) ctx s =
      ⟨(.ok p, ctx), s, [receiptEvent name (chain.effective declared) p.origin]⟩ := by
  unfold parameter
  simp [hp, receiptEvent, Run.bind_apply]

/-- A parameter on a cycle is refused before anything is called. -/
theorem parameter_cyclic (hnone : ctx.cached? (chain.effective declared) = none)
    (hpath : (chain.effective declared).id ∈ path) :
    parameter chain limit levels path (name, declared) ctx s =
      ⟨(.error (.failed (.internal (.dependencyCycle name (chain.effective declared).name))), ctx),
        s, []⟩ := by
  unfold parameter
  simp [hnone, hpath]

/-- A parameter below the greatest depth is refused before anything is called. -/
theorem parameter_deep (hnone : ctx.cached? (chain.effective declared) = none)
    (hpath : (chain.effective declared).id ∉ path) :
    parameter chain limit 0 path (name, declared) ctx s =
      ⟨(.error (.failed (.internal (.nestingTooDeep limit name))), ctx), s, []⟩ := by
  simp [parameter, hnone, hpath]

/-- A parameter whose dependencies fail is not called. -/
theorem parameter_unmet {t : Step σ κ (Resolved σ κ ν (Fields (Product ν)))}
    {e : Stop DispatchError}
    (hnone : ctx.cached? (chain.effective declared) = none)
    (hpath : (chain.effective declared).id ∉ path)
    (ht : each (parameter chain limit levels (path ++ [(chain.effective declared).id]))
      (chain.effective declared).dependencies .empty ctx s = t)
    (he : t.result = (.error e, ctx')) :
    parameter chain limit (levels + 1) path (name, declared) ctx s =
      ⟨(.error e, ctx'), t.session, .entered (chain.effective declared).id name :: t.journal⟩ := by
  simp [parameter, hnone, hpath, Run.bind_apply, ht, he]

/-- A parameter whose dependencies are met is called with their values. -/
theorem parameter_called {t : Step σ κ (Resolved σ κ ν (Fields (Product ν)))}
    {values : Fields (Product ν)} {u : Step σ κ (Resolved σ κ ν (Product ν))}
    (hnone : ctx.cached? (chain.effective declared) = none)
    (hpath : (chain.effective declared).id ∉ path)
    (ht : each (parameter chain limit levels (path ++ [(chain.effective declared).id]))
      (chain.effective declared).dependencies .empty ctx s = t)
    (hvalues : t.result = (.ok values, ctx'))
    (hu : produce name (chain.effective declared) values ctx' t.session = u) :
    parameter chain limit (levels + 1) path (name, declared) ctx s =
      ⟨u.result, u.session, .entered (chain.effective declared).id name ::
        (t.journal ++ .left (chain.effective declared).id :: u.journal)⟩ := by
  simp [parameter, hnone, hpath, Run.bind_apply, ht, hvalues, hu]

end Ways

section Lists

variable {one : DependencySpec σ κ ν → Context σ κ ν → Run σ κ (Resolved σ κ ν (Product ν))}
  {spec : DependencySpec σ κ ν} {specs : List (DependencySpec σ κ ν)} {values : Fields (Product ν)}
  {ctx ctx' : Context σ κ ν} {s : Session σ κ} {t : Step σ κ (Resolved σ κ ν (Product ν))}

theorem each_nil : each one [] values ctx s = ⟨(.ok values, ctx), s, []⟩ := rfl

/-- The first parameter that fails ends the resolution of all. -/
theorem each_failed {e : Stop DispatchError} (ht : one spec ctx s = t)
    (he : t.result = (.error e, ctx')) :
    each one (spec :: specs) values ctx s = ⟨(.error e, ctx'), t.session, t.journal⟩ := by
  simp [each, Run.bind_apply, ht, he]

/-- A resolved parameter is followed by the others. -/
theorem each_next {p : Product ν} (ht : one spec ctx s = t) (hp : t.result = (.ok p, ctx')) :
    each one (spec :: specs) values ctx s =
      let u := each one specs (Fields.set spec.1 p values) ctx' t.session
      ⟨u.result, u.session, t.journal ++ u.journal⟩ := by
  simp [each, Run.bind_apply, ht, hp]

end Lists

/-- What has to be shown of each way the resolver goes, to conclude `One` of every parameter and
`All` of every list of parameters. A parameter is at a level on a path; its step starts with a
context in a session. -/
structure Cases (chain : OverrideChain σ κ ν) (limit : Nat)
    (One : Nat → List FactoryId → DependencySpec σ κ ν → Context σ κ ν → Session σ κ →
      Step σ κ (Resolved σ κ ν (Product ν)) → Prop)
    (All : Nat → List FactoryId → List (DependencySpec σ κ ν) → Fields (Product ν) →
      Context σ κ ν → Session σ κ → Step σ κ (Resolved σ κ ν (Fields (Product ν))) → Prop) :
    Prop where
  /-- The parameter receives a shared value. -/
  shared : ∀ levels path name declared ctx s p, ctx.cached? (chain.effective declared) = some p →
    One levels path (name, declared) ctx s
      ⟨(.ok p, ctx), s, [receiptEvent name (chain.effective declared) p.origin]⟩
  /-- The factory is on the way already. -/
  cyclic : ∀ levels path name declared ctx s, ctx.cached? (chain.effective declared) = none →
    (chain.effective declared).id ∈ path →
    One levels path (name, declared) ctx s
      ⟨(.error (.failed (.internal (.dependencyCycle name (chain.effective declared).name))), ctx),
        s, []⟩
  /-- There are as many factories on the way as there may be. -/
  deep : ∀ path name declared ctx s, ctx.cached? (chain.effective declared) = none →
    (chain.effective declared).id ∉ path →
    One 0 path (name, declared) ctx s
      ⟨(.error (.failed (.internal (.nestingTooDeep limit name))), ctx), s, []⟩
  /-- A dependency of the factory stops. -/
  unmet : ∀ levels path name declared ctx s t e ctx',
    ctx.cached? (chain.effective declared) = none → (chain.effective declared).id ∉ path →
    Resolver.each (Resolver.parameter chain limit levels (path ++ [(chain.effective declared).id]))
      (chain.effective declared).dependencies .empty ctx s = t →
    All levels (path ++ [(chain.effective declared).id]) (chain.effective declared).dependencies
      .empty
      ctx s t →
    t.result = (.error e, ctx') →
    One (levels + 1) path (name, declared) ctx s
      ⟨(.error e, ctx'), t.session, .entered (chain.effective declared).id name :: t.journal⟩
  /-- The factory is called with the values of its dependencies. -/
  called : ∀ levels path name declared ctx s t values ctx' u,
    ctx.cached? (chain.effective declared) = none → (chain.effective declared).id ∉ path →
    Resolver.each (Resolver.parameter chain limit levels (path ++ [(chain.effective declared).id]))
      (chain.effective declared).dependencies .empty ctx s = t →
    All levels (path ++ [(chain.effective declared).id]) (chain.effective declared).dependencies
      .empty
      ctx s t →
    t.result = (.ok values, ctx') →
    produce name (chain.effective declared) values ctx' t.session = u →
    One (levels + 1) path (name, declared) ctx s
      ⟨u.result, u.session, .entered (chain.effective declared).id name ::
        (t.journal ++ .left (chain.effective declared).id :: u.journal)⟩
  /-- No parameter is left. -/
  done : ∀ levels path values ctx s, All levels path [] values ctx s ⟨(.ok values, ctx), s, []⟩
  /-- The first parameter stops. -/
  failed : ∀ levels path spec specs values ctx s t e ctx',
    Resolver.parameter chain limit levels path spec ctx s = t →
    One levels path spec ctx s t → t.result = (.error e, ctx') →
    All levels path (spec :: specs) values ctx s ⟨(.error e, ctx'), t.session, t.journal⟩
  /-- The first parameter has its value. -/
  next : ∀ levels path spec specs values ctx s t p ctx' u,
    Resolver.parameter chain limit levels path spec ctx s = t →
    One levels path spec ctx s t → t.result = (.ok p, ctx') →
    All levels path specs (Fields.set spec.1 p values) ctx' t.session u →
    All levels path (spec :: specs) values ctx s ⟨u.result, u.session, t.journal ++ u.journal⟩

namespace Cases

variable
  {One : Nat → List FactoryId → DependencySpec σ κ ν → Context σ κ ν → Session σ κ →
    Step σ κ (Resolved σ κ ν (Product ν)) → Prop}
  {All : Nat → List FactoryId → List (DependencySpec σ κ ν) → Fields (Product ν) →
    Context σ κ ν → Session σ κ → Step σ κ (Resolved σ κ ν (Fields (Product ν))) → Prop}

/-- All parameters of a factory are as `Cases` says if each of them is. -/
private theorem each_of_one (h : Cases chain limit One All) (levels : Nat) (path : List FactoryId)
    (one : ∀ spec ctx s, One levels path spec ctx s (parameter chain limit levels path spec ctx s))
    (specs : List (DependencySpec σ κ ν)) (values : Fields (Product ν)) (ctx : Context σ κ ν)
    (s : Session σ κ) :
    All levels path specs values ctx s
      (each (parameter chain limit levels path) specs values ctx s) := by
  induction specs generalizing values ctx s with
  | nil =>
    rw [each_nil]
    exact h.done levels path values ctx s
  | cons spec specs ih =>
    -- by what the first parameter gives
    rcases ht : (parameter chain limit levels path spec ctx s).result with ⟨e | p, ctx'⟩
    · rw [each_failed rfl ht]
      exact h.failed _ _ _ _ _ _ _ _ e ctx' rfl (one spec ctx s) ht
    · rw [each_next rfl ht]
      exact h.next _ _ _ _ _ _ _ _ p ctx' _ rfl (one spec ctx s) ht (ih _ _ _)

/-- What the cases conclude of a parameter. -/
theorem parameter (h : Cases chain limit One All) (levels : Nat) (path : List FactoryId)
    (spec : DependencySpec σ κ ν) (ctx : Context σ κ ν) (s : Session σ κ) :
    One levels path spec ctx s (Resolver.parameter chain limit levels path spec ctx s) := by
  induction levels generalizing path spec ctx s with
  | zero =>
    obtain ⟨name, declared⟩ := spec
    -- a value that is shared goes first, then the cycle, then the bound
    rcases hnone : ctx.cached? (chain.effective declared) with _ | p
    · by_cases hpath : (chain.effective declared).id ∈ path
      · rw [parameter_cyclic hnone hpath]
        exact h.cyclic 0 path name declared ctx s hnone hpath
      · rw [parameter_deep hnone hpath]
        exact h.deep path name declared ctx s hnone hpath
    · rw [parameter_shared hnone]
      exact h.shared 0 path name declared ctx s p hnone
  | succ levels ih =>
    obtain ⟨name, declared⟩ := spec
    rcases hnone : ctx.cached? (chain.effective declared) with _ | p
    · by_cases hpath : (chain.effective declared).id ∈ path
      · rw [parameter_cyclic hnone hpath]
        exact h.cyclic (levels + 1) path name declared ctx s hnone hpath
      · -- the dependencies one level below, through the induction hypothesis
        have hall := each_of_one h levels (path ++ [(chain.effective declared).id])
          (fun spec ctx s => ih _ spec ctx s) (chain.effective declared).dependencies .empty ctx s
        rcases ht : (Resolver.each (Resolver.parameter chain limit levels
            (path ++ [(chain.effective declared).id])) (chain.effective declared).dependencies .empty
            ctx s).result with ⟨e | values, ctx'⟩
        · rw [parameter_unmet hnone hpath rfl ht]
          exact h.unmet levels path name declared ctx s _ e ctx' hnone hpath rfl hall ht
        · rw [parameter_called hnone hpath rfl ht rfl]
          exact h.called levels path name declared ctx s _ values ctx' _ hnone hpath rfl hall ht rfl
    · rw [parameter_shared hnone]
      exact h.shared (levels + 1) path name declared ctx s p hnone

/-- What the cases conclude of a list of parameters. -/
theorem each (h : Cases chain limit One All) (levels : Nat) (path : List FactoryId)
    (specs : List (DependencySpec σ κ ν)) (values : Fields (Product ν)) (ctx : Context σ κ ν)
    (s : Session σ κ) :
    All levels path specs values ctx s
      (Resolver.each (Resolver.parameter chain limit levels path) specs values ctx s) :=
  each_of_one h levels path (h.parameter levels path) specs values ctx s

end Cases

end Resolver

/-- Resolving parameters gives what the parameters give, or their error, and then it releases what
they acquired, or their panic, and then it does not. -/
theorem resolve_cases {σ κ ν : Type} (chain : OverrideChain σ κ ν) (limit : Nat)
    (specs : List (DependencySpec σ κ ν)) (ctx : Context σ κ ν) (s : Session σ κ) :
    let t := Resolver.each (Resolver.parameter chain limit limit []) specs .empty ctx s
    (∃ values, t.result.1 = .ok values ∧ resolve chain limit specs ctx s = t) ∨
    (∃ e, t.result.1 = .error (.failed e) ∧ resolve chain limit specs ctx s =
      ⟨(.error (.failed e), { t.result.2 with cleanup := .empty }),
        (t.result.2.release t.session).session,
        t.journal ++ (t.result.2.release t.session).journal⟩) ∨
    ∃ panic, t.result.1 = .error (.unwound panic) ∧ resolve chain limit specs ctx s = t := by
  intro t
  rcases ht : t with ⟨⟨(e | panic) | values, ctx'⟩, s', journal⟩
  · refine .inr (.inl ⟨e, rfl, ?_⟩)
    simp only [t] at ht
    simp [resolve, Run.bind_apply, ht, Context.release]
  · refine .inr (.inr ⟨panic, rfl, ?_⟩)
    simp only [t] at ht
    simp [resolve, Run.bind_apply, ht]
  · refine .inl ⟨values, rfl, ?_⟩
    simp only [t] at ht
    simp [resolve, Run.bind_apply, ht]

/-- Releasing what was acquired does not change the error. -/
theorem resolve_result {σ κ ν : Type} (chain : OverrideChain σ κ ν) (limit : Nat)
    (specs : List (DependencySpec σ κ ν)) (ctx : Context σ κ ν) (s : Session σ κ) :
    (resolve chain limit specs ctx s).result.1 =
      (Resolver.each (Resolver.parameter chain limit limit []) specs .empty ctx s).result.1 := by
  rcases resolve_cases chain limit specs ctx s with ⟨values, hvalues, heq⟩ | ⟨e, he, heq⟩ |
    ⟨panic, hpanic, heq⟩
  · rw [heq]
  · rw [heq, he]
  · rw [heq]

end RequestDispatch
