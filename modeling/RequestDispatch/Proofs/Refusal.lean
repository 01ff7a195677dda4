import RequestDispatch.DefaultResponse
import RequestDispatch.Proofs.Invocation

/-!
# Errors of a resolution

A call that fails ends the resolution, however deep it is made, and its error is the error of the
resolution. Only an error of the call itself gets the name of the parameter; an error that comes out
of the outcome, as a computation, a source or a scope raises it, stays as it is. `resolve_refusals`
says so of every call, and that no other errors occur but those of a chain of factories that repeats
or is too long. An error raised by an outcome without a name is therefore reported without one. A
panic that the call of a factory does not contain ends the resolution in the same way, and nothing
else does.
-/

namespace RequestDispatch

variable {σ κ ν : Type}

/-! ## Errors of outcomes -/

/-- An outcome gives no value, but an error. -/
inductive Outcome.Refuses (origin : Nat) (s : Session σ κ) :
    Outcome σ κ ν → DispatchError → Prop where
  /-- The computation raised it. -/
  | computing {compute : Effect σ κ ν} {e : DispatchError}
      (h : (Run.perform (.computed origin) compute s).result.contain .async = .error e) :
      Refuses origin s (.deferred compute) e
  /-- The source raised it instead of yielding. -/
  | advancing {step : SingleStep σ κ ν} {e : DispatchError}
      (h : (Run.perform (.advanced origin) step.first s).result.contain step.mode = .error e) :
      Refuses origin s (.singleStep step) e
  | noYield {step : SingleStep σ κ ν}
      (h : (Run.perform (.advanced origin) step.first s).result.contain step.mode = .ok none) :
      Refuses origin s (.singleStep step) (.internal .noYield)
  /-- Acquiring raised it. -/
  | acquiring {resource : ScopedResource σ κ ν} {e : DispatchError}
      (h : (Run.perform (.acquiring origin) resource.acquire s).result.contain resource.mode =
        .error e) :
      Refuses origin s (.scoped resource) e
  | nothingAcquired {resource : ScopedResource σ κ ν}
      (h : (Run.perform (.acquiring origin) resource.acquire s).result.contain resource.mode =
        .ok none) :
      Refuses origin s (.scoped resource) (.internal .nothingAcquired)

/-- An outcome gives an error exactly if it refuses with it. -/
theorem Outcome.normalize_eq_error {origin : Nat} {outcome : Outcome σ κ ν} {s : Session σ κ}
    {e : DispatchError} :
    (outcome.normalize origin s).result = .error e ↔ outcome.Refuses origin s e := by
  -- by the shape of the outcome, and by what its code gives
  constructor
  · intro h
    obtain value | compute | step | resource := outcome
    · simp [normalize] at h
    · rcases hcode : (Run.perform (.computed origin) compute s).result.contain .async with e' | value
      · simp [normalize, hcode, Except.map] at h
        exact h ▸ .computing hcode
      · simp [normalize, hcode, Except.map] at h
    · rcases hcode : (Run.perform (.advanced origin) step.first s).result.contain step.mode
        with e' | (_ | yielded)
      · simp [normalize, hcode] at h
        exact h ▸ .advancing hcode
      · simp [normalize, hcode] at h
        exact h ▸ .noYield hcode
      · simp [normalize, hcode] at h
    · rcases hcode : (Run.perform (.acquiring origin) resource.acquire s).result.contain
        resource.mode with e' | (_ | value)
      · simp [normalize, hcode] at h
        exact h ▸ .acquiring hcode
      · simp [normalize, hcode] at h
        exact h ▸ .nothingAcquired hcode
      · simp [normalize, hcode] at h
  · intro h
    cases h with
    | computing h => simp [normalize, h, Except.map]
    | advancing h | noYield h | acquiring h | nothingAcquired h => simp [normalize, h]

/-! ## Errors of calls -/

/-- What the resolver makes of a failed call, or of one that a panic ends. -/
inductive Invocation.Fails (i : Invocation σ κ ν) : Stop DispatchError → Prop where
  /-- The call itself gave no outcome. -/
  | call {stop : Stop DispatchError} (h : i.outcome = .error stop) :
      Fails i (stop.map fun e => e.withDependencyName i.parameter)
  /-- Its outcome gave no value. -/
  | refused {outcome : Outcome σ κ ν} {e : DispatchError} (h : i.outcome = .ok outcome)
      (refuses : outcome.Refuses i.origin i.called.session e) : Fails i (.failed e)

/-- Only the call itself ends in a panic. -/
theorem Invocation.fails_unwound {i : Invocation σ κ ν} {panic : Panic} :
    i.Fails (.unwound panic) ↔ i.outcome = .error (.unwound panic) := by
  constructor
  · intro h
    generalize hstop : Stop.unwound panic = stop at h
    cases h with
    | @call stop' h =>
      cases stop' <;> cases hstop
      exact h
    | refused => cases hstop
  · exact fun h => .call h

/-- A call ends in an error or a panic exactly if it fails with it. -/
theorem Invocation.produced_eq_error {i : Invocation σ κ ν} {e : Stop DispatchError} :
    i.produced.result.1 = .error e ↔ i.Fails e := by
  rcases Resolver.produce_cases i.parameter i.factory i.values i.context i.session with
    ⟨e', hcall, heq⟩ | ⟨outcome, t, hcall, ht, hcases⟩
  -- the call itself fails
  · rw [produced, heq]
    refine ⟨fun h => ?_, fun h => ?_⟩
    · exact Except.error.inj h ▸ .call hcall
    · cases h with
      | call h =>
        obtain rfl := Except.error.inj (hcall.symm.trans h)
        rfl
      | refused h _ => cases hcall.symm.trans h
  · rw [produced]
    refine ⟨fun h => ?_, fun h => ?_⟩
    · rcases hcases with ⟨e', he', heq⟩ | ⟨normalized, hn, heq⟩
      · rw [heq] at h
        obtain rfl := Except.error.inj h
        exact .refused hcall (Outcome.normalize_eq_error.mp (ht ▸ he'))
      · obtain ⟨ctx', hsettle, -⟩ :=
          Resolver.settle_shares i.factory i.context.invocations normalized i.context.invoked
        rw [heq, hsettle] at h
        cases h
    · cases h with
      | call h => cases hcall.symm.trans h
      | refused h refuses =>
        obtain rfl := Except.ok.inj (hcall.symm.trans h)
        have hrefused := Outcome.normalize_eq_error.mpr refuses
        rcases hcases with ⟨e', he', heq⟩ | ⟨normalized, hn, heq⟩
        · obtain rfl := Except.error.inj ((ht ▸ hrefused).symm.trans he')
          rw [heq]
        · cases (ht ▸ hrefused).symm.trans hn

/-! ## Errors of resolutions -/

/-- The error of a chain of factories that repeats or is too long. -/
inductive Unresolvable (limit : Nat) : DispatchError → Prop where
  | cycle (parameter factory : String) :
      Unresolvable limit (.internal (.dependencyCycle parameter factory))
  | depth (parameter : String) : Unresolvable limit (.internal (.nestingTooDeep limit parameter))

namespace Resolver

/-- A part of a resolution, in which these calls are made, that fails exactly with the errors of its
calls, but for chains that are not resolvable. -/
structure Refuses {α : Type} (limit : Nat) (invokes : Invocation σ κ ν → Prop)
    (t : Step σ κ (Resolved σ κ ν α)) : Prop where
  failed : ∀ i stop, invokes i → i.Fails stop → t.result.1 = .error stop
  only : ∀ stop, t.result.1 = .error stop →
    (∃ e, stop = .failed e ∧ Unresolvable limit e) ∨ ∃ i, invokes i ∧ i.Fails stop

/-- On every way the errors of the calls are the errors of the resolver. -/
theorem refuses (chain : OverrideChain σ κ ν) (limit : Nat) :
    Cases chain limit
      (fun levels path spec ctx s t =>
        Refuses limit (Invokes chain limit levels path [spec] ctx s) t)
      (fun levels path specs _ ctx s t =>
        Refuses limit (Invokes chain limit levels path specs ctx s) t) where
  shared _ path name declared ctx s p hp := by
    refine ⟨fun i e invokes _ => ?_, fun e he => ?_⟩
    -- what is shared already is received, and no call is made
    · obtain ⟨hnone, -⟩ := invokes.single_cases
      rw [hp] at hnone
      cases hnone
    · cases he
  cyclic _ _ name declared ctx s hnone hpath := by
    refine ⟨fun i e invokes _ => ?_, fun e he => ?_⟩
    · obtain ⟨-, hpath', -⟩ := invokes.single_cases
      exact absurd hpath hpath'
    · exact .inl ⟨_, (Except.error.inj he).symm, .cycle _ _⟩
  deep _ name declared ctx s hnone hpath := by
    refine ⟨fun i e invokes _ => ?_, fun e he => ?_⟩
    · obtain ⟨-, -, below, hbelow, -⟩ := invokes.single_cases
      omega
    · exact .inl ⟨_, (Except.error.inj he).symm, .depth _⟩
  unmet _ _ name declared ctx s t e ctx' hnone hpath heq h ht := by
    have he : t.result.1 = .error e := congrArg Prod.fst ht
    refine ⟨fun i e' invokes hi => ?_, fun e' he' => ?_⟩
    · obtain ⟨-, -, below, hbelow, ⟨t', values, ctx'', heq', hvalues, rfl⟩ | invokes⟩ :=
        invokes.single_cases
      · -- no call is made for the parameter itself, since a dependency failed
        obtain rfl := Nat.succ.inj hbelow
        obtain rfl := heq.symm.trans heq'
        cases ht.symm.trans hvalues
      · obtain rfl := Nat.succ.inj hbelow
        obtain rfl := Except.error.inj (he.symm.trans (h.failed i e' invokes hi))
        rfl
    · obtain rfl := Except.error.inj he'
      rcases h.only e he with hchain | ⟨i, invokes, hi⟩
      · exact .inl hchain
      · exact .inr ⟨i, .inside hnone hpath invokes, hi⟩
  called _ _ name declared ctx s t values ctx' u hnone hpath heq h ht hu := by
    subst hu
    refine ⟨fun i e invokes hi => ?_, fun e he => ?_⟩
    · obtain ⟨-, -, below, hbelow, ⟨t', values', ctx'', heq', hvalues', rfl⟩ | invokes⟩ :=
        invokes.single_cases
      -- it is the call that has just been made
      · obtain rfl := Nat.succ.inj hbelow
        obtain rfl := heq.symm.trans heq'
        cases ht.symm.trans hvalues'
        exact Invocation.produced_eq_error.mpr hi
      · -- the dependencies have their values, so no call below failed
        obtain rfl := Nat.succ.inj hbelow
        have hvalues : t.result.1 = .ok values := congrArg Prod.fst ht
        cases hvalues.symm.trans (h.failed i e invokes hi)
    · exact .inr ⟨_, .here hnone hpath heq ht, Invocation.produced_eq_error.mp he⟩
  done _ _ _ ctx _ := by
    refine ⟨fun i e invokes _ => ?_, fun e he => ?_⟩
    · cases invokes
    · cases he
  failed _ _ spec specs _ ctx s t e ctx' heq h ht := by
    have he : t.result.1 = .error e := congrArg Prod.fst ht
    refine ⟨fun i e' invokes hi => ?_, fun e' he' => ?_⟩
    · rcases invokes.cons_cases heq with invokes | ⟨_, _, hok, -⟩
      · obtain rfl := Except.error.inj (he.symm.trans (h.failed i e' invokes hi))
        rfl
      · cases ht.symm.trans hok
    · obtain rfl := Except.error.inj he'
      -- a dependency is refused by the chain itself or by a call further down
      rcases h.only e he with hchain | ⟨i, invokes, hi⟩
      · exact .inl hchain
      · exact .inr ⟨i, invokes.single specs, hi⟩
  next _ _ spec specs _ ctx s t p ctx' u heq h ht hrest := by
    refine ⟨fun i e invokes hi => ?_, fun e he => ?_⟩
    · rcases invokes.cons_cases heq with invokes | ⟨_, _, hok, invokes⟩
      · -- the first parameter has its value, so no call for it failed
        have hp : t.result.1 = .ok p := congrArg Prod.fst ht
        cases hp.symm.trans (h.failed i e invokes hi)
      · cases ht.symm.trans hok
        exact hrest.failed i e invokes hi
    · rcases hrest.only e he with hchain | ⟨i, invokes, hi⟩
      · exact .inl hchain
      · exact .inr ⟨i, .later heq ht invokes, hi⟩

end Resolver

/-- What a resolution of parameters answers to a refusal: the error it gives and the default
response to it. -/
structure Refusals (chain : OverrideChain σ κ ν) (limit : Nat)
    (specs : List (DependencySpec σ κ ν)) (ctx : Context σ κ ν) (s : Session σ κ) : Prop where
  /-- An error of a call gets the name of the parameter that the call is made for. -/
  named : ∀ i, Resolver.Invokes chain limit limit [] specs ctx s i →
    ∀ e, i.outcome = .error (.failed e) → (resolve chain limit specs ctx s).result.1 =
      .error (.failed (e.withDependencyName i.parameter))
  /-- An error that comes out of an outcome stays as it is. -/
  asRaised : ∀ i, Resolver.Invokes chain limit limit [] specs ctx s i →
    ∀ outcome e, i.outcome = .ok outcome → outcome.Refuses i.origin i.called.session e →
      (resolve chain limit specs ctx s).result.1 = .error (.failed e)
  /-- There are no other errors but those of chains of factories. -/
  only : ∀ e, (resolve chain limit specs ctx s).result.1 = .error (.failed e) →
    Unresolvable limit e ∨
      ∃ i, Resolver.Invokes chain limit limit [] specs ctx s i ∧ i.Fails (.failed e)
  /-- A panic that nothing contains is that of a call, and goes through as it is. -/
  unwound : ∀ panic, (resolve chain limit specs ctx s).result.1 = .error (.unwound panic) ↔
    ∃ i, Resolver.Invokes chain limit limit [] specs ctx s i ∧
      i.outcome = .error (.unwound panic)
  /-- A call that refuses without a name is located at the parameter. -/
  located : ∀ i, Resolver.Invokes chain limit limit [] specs ctx s i →
    ∀ message, i.outcome = .error (.failed (.dependency "" message)) →
      ∃ e, (resolve chain limit specs ctx s).result.1 = .error (.failed e) ∧
        defaultResponse e .resolution =
          .ok (Response.json 422 (dependencyReport i.parameter message))
  /-- An outcome that refuses without a name is located at no parameter. -/
  unlocated : ∀ i, Resolver.Invokes chain limit limit [] specs ctx s i →
    ∀ outcome message, i.outcome = .ok outcome →
      outcome.Refuses i.origin i.called.session (.dependency "" message) →
        ∃ e, (resolve chain limit specs ctx s).result.1 = .error (.failed e) ∧
          defaultResponse e .resolution = .ok (Response.json 422 (dependencyReport "" message))

/-- The errors of every resolution, with their names. -/
theorem resolve_refusals (chain : OverrideChain σ κ ν) (limit : Nat)
    (specs : List (DependencySpec σ κ ν)) (ctx : Context σ κ ν) (s : Session σ κ) :
    Refusals chain limit specs ctx s := by
  have refuses := (Resolver.refuses chain limit).each limit [] specs .empty ctx s
  have failed : ∀ i stop, Resolver.Invokes chain limit limit [] specs ctx s i → i.Fails stop →
      (resolve chain limit specs ctx s).result.1 = .error stop := by
    intro i stop invokes hi
    rw [resolve_result]
    exact refuses.failed i stop invokes hi
  refine ⟨fun i invokes e he => failed i _ invokes (.call he),
    fun i invokes outcome e hcall he => failed i _ invokes (.refused hcall he), fun e he => ?_,
    fun panic => ⟨fun hpanic => ?_, fun ⟨i, invokes, hi⟩ => failed i _ invokes (.call hi)⟩,
    fun i invokes message hcall => ⟨_, failed i _ invokes (.call hcall), rfl⟩,
    fun i invokes outcome message hcall he => ⟨_, failed i _ invokes (.refused hcall he), rfl⟩⟩
  · rw [resolve_result] at he
    refine (refuses.only _ he).imp_left ?_
    rintro ⟨e', heq, hchain⟩
    cases heq
    exact hchain
  · rw [resolve_result] at hpanic
    rcases refuses.only _ hpanic with ⟨_, heq, -⟩ | ⟨i, invokes, hi⟩
    · cases heq
    · exact ⟨i, invokes, Invocation.fails_unwound.mp hi⟩

/-! ## A refusal of a computation -/

/-- A token that turns out to be expired when it is computed. -/
def expiredToken : Factory Unit Unit Unit :=
  .new 1 "token" .async fun _ => Effect.value (.deferred fun _ w =>
    (.error (.raised (.dependency "" "token expired")), w, []))

/-- The report of the expired token has no name, although it was needed for a parameter. -/
theorem deferred_refusal_unnamed :
    (resolve .empty 32 [("user", expiredToken)] (.new (.bind (.new "GET" "/") []))
        (⟨(), (), []⟩ : Session Unit Unit)).result.1 =
          .error (.failed (.dependency "" "token expired")) ∧
      defaultResponse (.dependency "" "token expired") .resolution =
        .ok (Response.json 422 (dependencyReport "" "token expired")) := by
  refine ⟨?_, rfl⟩
  -- nothing is replaced or shared, so the factory is called, and its computation is run
  simp [resolve_result, Resolver.each, Resolver.parameter, Resolver.produce, Run.bind_apply,
    OverrideChain.effective, OverrideChain.lookup, OverrideChain.empty, Context.cached?,
    Context.new, expiredToken, Factory.new, Run.perform, Effect.value, Completion.called_ok,
    Completion.contain, Outcome.normalize, Except.map]

end RequestDispatch
