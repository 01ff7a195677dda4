import RequestDispatch.Proofs.Resolver

/-!
# The calls of factories in a resolution

`Resolver.Invokes` says which factories are called while parameters are resolved, at the top or
below it, for which parameter and with what: the call is made once the dependencies of its factory
have their values. What holds of all calls is shown by the ways of the resolver;
`Invokes.cons_cases` and `Invokes.single_cases` take a call apart along them.
-/

namespace RequestDispatch

variable {σ κ ν : Type}

/-- The call of a factory for a parameter: the values it is given, and when it is made. -/
structure Invocation (σ κ ν : Type) where
  parameter : String
  factory : Factory σ κ ν
  values : Fields (Product ν)
  context : Context σ κ ν
  session : Session σ κ

namespace Invocation

variable (i : Invocation σ κ ν)

/-- The number of the invocation. -/
def origin : Nat := i.context.invocations

/-- The step of the call itself. -/
def called : Step σ κ (Completion (Outcome σ κ ν)) :=
  Resolver.callStep i.factory i.values i.context i.session

/-- What the call gives, or what stops the resolution there. -/
def outcome : Except (Stop DispatchError) (Outcome σ κ ν) := i.called.result.called i.factory.mode

/-- The step of turning an outcome of the call into a value. -/
def obtained (outcome : Outcome σ κ ν) :
    Step σ κ (Except DispatchError (Outcome.Normalized σ κ ν)) :=
  outcome.normalize i.origin i.called.session

/-- What the resolver makes of the call. -/
def produced : Step σ κ (Resolved σ κ ν (Product ν)) :=
  Resolver.produce i.parameter i.factory i.values i.context i.session

end Invocation

/-- In resolving parameters, a factory is called: for one of them, or for a parameter of a factory
that is called for one of them, however far below. -/
inductive Resolver.Invokes (chain : OverrideChain σ κ ν) (limit : Nat) :
    Nat → List FactoryId → List (DependencySpec σ κ ν) → Context σ κ ν → Session σ κ →
      Invocation σ κ ν → Prop where
  /-- For the first parameter. -/
  | here {levels : Nat} {path : List FactoryId} {name : String} {declared : Factory σ κ ν}
      {specs : List (DependencySpec σ κ ν)} {ctx ctx' : Context σ κ ν} {s : Session σ κ}
      {t : Step σ κ (Resolved σ κ ν (Fields (Product ν)))} {values : Fields (Product ν)}
      (hnone : ctx.cached? (chain.effective declared) = none)
      (hpath : (chain.effective declared).id ∉ path)
      (ht : each (parameter chain limit levels (path ++ [(chain.effective declared).id]))
        (chain.effective declared).dependencies .empty ctx s = t)
      (hvalues : t.result = (.ok values, ctx')) :
      Invokes chain limit (levels + 1) path ((name, declared) :: specs) ctx s
        ⟨name, chain.effective declared, values, ctx', t.session⟩
  /-- For a parameter that the factory of the first one needs. -/
  | inside {levels : Nat} {path : List FactoryId} {name : String} {declared : Factory σ κ ν}
      {specs : List (DependencySpec σ κ ν)} {ctx : Context σ κ ν} {s : Session σ κ}
      {i : Invocation σ κ ν} (hnone : ctx.cached? (chain.effective declared) = none)
      (hpath : (chain.effective declared).id ∉ path)
      (h : Invokes chain limit levels (path ++ [(chain.effective declared).id])
        (chain.effective declared).dependencies ctx s i) :
      Invokes chain limit (levels + 1) path ((name, declared) :: specs) ctx s i
  /-- For a parameter after the first one, which has its value. -/
  | later {levels : Nat} {path : List FactoryId} {spec : DependencySpec σ κ ν}
      {specs : List (DependencySpec σ κ ν)} {ctx ctx' : Context σ κ ν} {s : Session σ κ}
      {t : Step σ κ (Resolved σ κ ν (Product ν))} {p : Product ν} {i : Invocation σ κ ν}
      (ht : parameter chain limit levels path spec ctx s = t) (hp : t.result = (.ok p, ctx'))
      (h : Invokes chain limit levels path specs ctx' t.session i) :
      Invokes chain limit levels path (spec :: specs) ctx s i

namespace Resolver.Invokes

variable {chain : OverrideChain σ κ ν} {limit levels : Nat} {path : List FactoryId}
  {spec : DependencySpec σ κ ν} {specs : List (DependencySpec σ κ ν)} {ctx : Context σ κ ν}
  {s : Session σ κ} {i : Invocation σ κ ν}

/-- A call is made for the first parameter or for those after it. -/
theorem cons_cases {t : Step σ κ (Resolved σ κ ν (Product ν))}
    (h : Invokes chain limit levels path (spec :: specs) ctx s i)
    (ht : parameter chain limit levels path spec ctx s = t) :
    Invokes chain limit levels path [spec] ctx s i ∨
      ∃ p ctx', t.result = (.ok p, ctx') ∧
        Invokes chain limit levels path specs ctx' t.session i := by
  cases h with
  | here hnone hpath hdeps hvalues => exact .inl (.here hnone hpath hdeps hvalues)
  | inside hnone hpath h => exact .inl (.inside hnone hpath h)
  | later ht' hp h =>
    obtain rfl := ht.symm.trans ht'
    exact .inr ⟨_, _, hp, h⟩

/-- A call is made for a parameter itself or below it. -/
theorem single_cases {name : String} {declared : Factory σ κ ν}
    (h : Invokes chain limit levels path [(name, declared)] ctx s i) :
    ctx.cached? (chain.effective declared) = none ∧ (chain.effective declared).id ∉ path ∧
      ∃ below, levels = below + 1 ∧
        ((∃ t values ctx', each (parameter chain limit below
            (path ++ [(chain.effective declared).id])) (chain.effective declared).dependencies .empty
            ctx s = t ∧ t.result = (.ok values, ctx') ∧
            i = ⟨name, chain.effective declared, values, ctx', t.session⟩) ∨
          Invokes chain limit below (path ++ [(chain.effective declared).id])
            (chain.effective declared).dependencies ctx s i) := by
  cases h with
  | here hnone hpath ht hvalues => exact ⟨hnone, hpath, _, rfl, .inl ⟨_, _, _, ht, hvalues, rfl⟩⟩
  | inside hnone hpath h => exact ⟨hnone, hpath, _, rfl, .inr h⟩
  | later _ _ h => cases h

/-- A single parameter is the first of others. -/
theorem single (h : Invokes chain limit levels path [spec] ctx s i)
    (specs : List (DependencySpec σ κ ν)) :
    Invokes chain limit levels path (spec :: specs) ctx s i := by
  obtain ⟨name, declared⟩ := spec
  obtain ⟨hnone, hpath, below, rfl, ⟨t, values, ctx', ht, hvalues, rfl⟩ | h⟩ := h.single_cases
  · exact .here hnone hpath ht hvalues
  · exact .inside hnone hpath h

end Resolver.Invokes

end RequestDispatch
