import Mathlib.Logic.Relation
import RequestDispatch.Proofs.Refusal

/-!
# Chains of factories

The factories that parameters need form a graph: each declares its own parameters, and for each of
these the override chain says which factory is called. `Descends` follows the chains of this graph
down from the parameters of a resolution. `resolve_obstructed` says that a resolution fails with a
failed call, or else at the end of such a chain, which repeats a factory or is as long as it may be.
-/

namespace RequestDispatch

variable {σ κ ν : Type}

/-! ## The graph -/

/-- From some parameters a chain of called factories, given by their identities from the top down,
leads to a further parameter, which the last of them declares. -/
inductive Descends (chain : OverrideChain σ κ ν) (specs : List (DependencySpec σ κ ν)) :
    List FactoryId → DependencySpec σ κ ν → Prop where
  | top {spec : DependencySpec σ κ ν} (h : spec ∈ specs) : Descends chain specs [] spec
  | deeper {path : List FactoryId} {name : String} {declared : Factory σ κ ν}
      {spec : DependencySpec σ κ ν} (h : Descends chain specs path (name, declared))
      (hspec : spec ∈ (chain.effective declared).dependencies) :
      Descends chain specs (path ++ [(chain.effective declared).id]) spec

/-- A factory is called for one of some parameters or somewhere below them. -/
def Reached (chain : OverrideChain σ κ ν) (specs : List (DependencySpec σ κ ν))
    (f : Factory σ κ ν) : Prop :=
  ∃ path spec, Descends chain specs path spec ∧ chain.effective spec.2 = f

/-- A factory is called for a parameter that another one declares. -/
def Needs (chain : OverrideChain σ κ ν) (f other : Factory σ κ ν) : Prop :=
  ∃ spec ∈ f.dependencies, chain.effective spec.2 = other

namespace Descends

variable {chain : OverrideChain σ κ ν} {specs specs' : List (DependencySpec σ κ ν)}
  {path : List FactoryId} {spec : DependencySpec σ κ ν}

theorem reached (h : Descends chain specs path spec) :
    Reached chain specs (chain.effective spec.2) := ⟨path, spec, h, rfl⟩

/-- The chains from parameters are those from others that are among them too. -/
theorem mono (h : Descends chain specs path spec) (hsub : specs ⊆ specs') :
    Descends chain specs' path spec := by
  induction h with
  | top h => exact .top (hsub h)
  | deeper _ hspec ih => exact .deeper ih hspec

/-- Every factory of a chain is reached, and needs what stands at the end. -/
theorem above (h : Descends chain specs path spec) :
    ∀ id ∈ path, ∃ f, Reached chain specs f ∧ f.id = id ∧
      Relation.TransGen (Needs chain) f (chain.effective spec.2) := by
  induction h with
  | top => exact fun _ hid => absurd hid List.not_mem_nil
  | @deeper path name declared spec h hspec ih =>
    have last : Needs chain (chain.effective declared) (chain.effective spec.2) :=
      ⟨spec, hspec, rfl⟩
    intro id hid
    rcases List.mem_append.mp hid with hid | hid
    · obtain ⟨f, reached, hf, needs⟩ := ih id hid
      exact ⟨f, reached, hf, needs.tail last⟩
    · exact ⟨_, h.reached, (List.mem_singleton.mp hid).symm, .single last⟩

end Descends

theorem Reached.mono {chain : OverrideChain σ κ ν} {specs specs' : List (DependencySpec σ κ ν)}
    {f : Factory σ κ ν} (h : Reached chain specs f) (hsub : specs ⊆ specs') :
    Reached chain specs' f := by
  obtain ⟨path, spec, descends, hf⟩ := h
  exact ⟨path, spec, descends.mono hsub, hf⟩

/-- What holds of the factories called for the parameters, and below any factory of which it holds,
holds of all that are reached. -/
theorem Reached.of_closed {chain : OverrideChain σ κ ν} {specs : List (DependencySpec σ κ ν)}
    {P : Factory σ κ ν → Prop} (top : ∀ spec ∈ specs, P (chain.effective spec.2))
    (below : ∀ f, P f → ∀ spec ∈ f.dependencies, P (chain.effective spec.2)) {f : Factory σ κ ν}
    (h : Reached chain specs f) : P f := by
  obtain ⟨path, spec, descends, rfl⟩ := h
  induction descends with
  | top hspec => exact top _ hspec
  | deeper _ hspec ih => exact below _ ih _ hspec

/-- No chain from the parameters repeats a factory. -/
def Acyclic (chain : OverrideChain σ κ ν) (specs : List (DependencySpec σ κ ν)) : Prop :=
  ∀ path spec, Descends chain specs path spec → (chain.effective spec.2).id ∉ path

/-- No chain from the parameters has more factories than there may be. -/
def Shallow (chain : OverrideChain σ κ ν) (specs : List (DependencySpec σ κ ν)) (limit : Nat) :
    Prop :=
  ∀ path spec, Descends chain specs path spec → path.length < limit

/-! ## Errors of chains -/

/-- The error of a chain that leads to one of its own factories, or that is as long as it may be and
leads to a further one. -/
inductive Obstructed (chain : OverrideChain σ κ ν) (specs : List (DependencySpec σ κ ν))
    (limit : Nat) : DispatchError → Prop where
  | cycle {path : List FactoryId} {spec : DependencySpec σ κ ν}
      (h : Descends chain specs path spec) (hpath : (chain.effective spec.2).id ∈ path) :
      Obstructed chain specs limit
        (.internal (.dependencyCycle spec.1 (chain.effective spec.2).name))
  | depth {path : List FactoryId} {spec : DependencySpec σ κ ν}
      (h : Descends chain specs path spec) (hpath : path.length = limit) :
      Obstructed chain specs limit (.internal (.nestingTooDeep limit spec.1))

namespace Resolver

/-- A part of a resolution that fails with one of its calls, or with a chain from the parameters of
the whole. -/
def Obstructs {α : Type} (chain : OverrideChain σ κ ν) (top : List (DependencySpec σ κ ν))
    (limit : Nat) (invokes : Invocation σ κ ν → Prop) (t : Step σ κ (Resolved σ κ ν α)) : Prop :=
  ∀ stop, t.result.1 = .error stop →
    (∃ e, stop = .failed e ∧ Obstructed chain top limit e) ∨ ∃ i, invokes i ∧ i.Fails stop

/-- What is resolved on a path stands at the end of the chain that the path is, and there are as
many levels left as the chain may still grow. -/
theorem obstructs (chain : OverrideChain σ κ ν) (limit : Nat) (top : List (DependencySpec σ κ ν)) :
    Cases chain limit
      (fun levels path spec ctx s t =>
        Descends chain top path spec → path.length + levels = limit →
          Obstructs chain top limit (Invokes chain limit levels path [spec] ctx s) t)
      (fun levels path specs _ ctx s t =>
        (∀ spec ∈ specs, Descends chain top path spec) → path.length + levels = limit →
          Obstructs chain top limit (Invokes chain limit levels path specs ctx s) t) where
  shared _ _ _ _ _ _ _ _ _ _ _ he := nomatch he
  cyclic _ _ _ _ _ _ _ hpath descends _ _ he :=
    .inl ⟨_, (Except.error.inj he).symm, .cycle descends hpath⟩
  deep _ _ _ _ _ _ _ descends hlimit _ he :=
    .inl ⟨_, (Except.error.inj he).symm, .depth descends (by simpa using hlimit)⟩
  unmet levels path name declared ctx s t e ctx' hnone hpath _ h ht descends hlimit e' he' := by
    obtain rfl := Except.error.inj he'
    -- the dependencies of a parameter are one level deeper and have one level less
    have below := h (fun _ hspec => descends.deeper hspec)
      (by simp only [List.length_append, List.length_singleton]; omega)
    rcases below e (congrArg Prod.fst ht) with obstructed | ⟨i, invokes, fails⟩
    · exact .inl obstructed
    · exact .inr ⟨i, .inside hnone hpath invokes, fails⟩
  called _ _ _ _ _ _ t values ctx' u hnone hpath heq _ ht hu _ _ e he := by
    subst hu
    exact .inr ⟨_, .here hnone hpath heq ht, Invocation.produced_eq_error.mp he⟩
  done _ _ _ _ _ _ _ _ he := nomatch he
  failed _ _ spec specs _ _ _ t e ctx' _ h ht descends hlimit e' he' := by
    obtain rfl := Except.error.inj he'
    rcases h (descends spec List.mem_cons_self) hlimit e (congrArg Prod.fst ht) with
      obstructed | ⟨i, invokes, fails⟩
    · exact .inl obstructed
    · exact .inr ⟨i, invokes.single specs, fails⟩
  next _ _ spec specs _ _ _ t p ctx' u heq _ ht hrest descends hlimit e he := by
    rcases hrest (fun _ hspec => descends _ (List.mem_cons_of_mem _ hspec)) hlimit e he with
      obstructed | ⟨i, invokes, fails⟩
    · exact .inl obstructed
    · exact .inr ⟨i, .later heq ht invokes, fails⟩

/-- A called factory is reached. -/
theorem Invokes.reached {chain : OverrideChain σ κ ν} {limit levels : Nat}
    {path : List FactoryId} {top specs : List (DependencySpec σ κ ν)} {ctx : Context σ κ ν}
    {s : Session σ κ} {i : Invocation σ κ ν} (h : Invokes chain limit levels path specs ctx s i)
    (descends : ∀ spec ∈ specs, Descends chain top path spec) : Reached chain top i.factory := by
  induction h with
  | here => exact (descends _ List.mem_cons_self).reached
  | inside _ _ _ ih => exact ih fun _ hspec => (descends _ List.mem_cons_self).deeper hspec
  | later _ _ _ ih => exact ih fun _ hspec => descends _ (List.mem_cons_of_mem _ hspec)

end Resolver

/-- A resolution stops with a call that fails, of a factory that is reached, or with a chain. -/
theorem resolve_obstructed {chain : OverrideChain σ κ ν} {limit : Nat}
    {specs : List (DependencySpec σ κ ν)} {ctx : Context σ κ ν} {s : Session σ κ}
    {stop : Stop DispatchError} (h : (resolve chain limit specs ctx s).result.1 = .error stop) :
    (∃ e, stop = .failed e ∧ Obstructed chain specs limit e) ∨
      ∃ i, Resolver.Invokes chain limit limit [] specs ctx s i ∧ i.Fails stop := by
  rw [resolve_result] at h
  exact (Resolver.obstructs chain limit specs).each limit [] specs .empty ctx s
    (fun _ hspec => .top hspec) (by simp) stop h

end RequestDispatch
