import Mathlib.Data.List.Basic
import RequestDispatch.Application.Basic
import RequestDispatch.Proofs.Journal

/-!
# Chains of overrides as one scope

A resolution looks at the override chain in one way only: it asks which factory is called for a
declared one (`OverrideChain.effective`). A chain may therefore be merged into a single scope, in
which later scopes lie over earlier ones, and it may even be carried out beforehand on the declared
parameters (`Factory.substituted`): each declared factory gives way once to its replacement, whose
own parameters are treated in the same way, and nothing is left to replace. Neither changes a step
of any resolution. In the endpoints of an application the chain is that of the mount, the router and
the application, so binding a route there is binding the route with its factories substituted.
-/

namespace RequestDispatch

variable {σ κ ν : Type}

/-! ## Merging scopes -/

namespace OverrideScope

theorem lookup_filter_fst {α β : Type} [BEq α] [LawfulBEq α] (keep : α → Bool) {key : α}
    (h : keep key = true) (entries : List (α × β)) :
    (entries.filter fun entry => keep entry.1).lookup key = entries.lookup key := by
  induction entries with
  | nil => rfl
  | cons entry entries ih =>
    obtain ⟨other, value⟩ := entry
    by_cases hkey : key = other
    · subst hkey
      rw [List.filter_cons_of_pos (by exact h), List.lookup_cons_self, List.lookup_cons_self]
    · have hother : (key == other) = false := beq_eq_false_iff_ne.mpr hkey
      rw [List.lookup_cons, hother]
      by_cases hkeep : keep other = true
      · rw [List.filter_cons_of_pos (by exact hkeep), List.lookup_cons, hother]
        exact ih
      · rw [List.filter_cons_of_neg (by exact hkeep)]
        exact ih

/-- A scope has a replacement for each factory that it lists. -/
theorem isSome_get? {scope : OverrideScope σ κ ν} {id : FactoryId}
    (h : id ∈ scope.replacements.map (·.1)) : (scope.get? id).isSome := by
  obtain ⟨entry, hentry, rfl⟩ := List.mem_map.mp h
  exact List.lookup_isSome_iff.mpr ⟨entry, hentry, beq_self_eq_true _⟩

/-- One scope over another: the replacements of the lower one that the upper one does not have are
added to those of the upper one. -/
def overlay (upper lower : OverrideScope σ κ ν) : OverrideScope σ κ ν where
  replacements :=
    upper.replacements ++ lower.replacements.filter fun (id, _) => (upper.get? id).isNone
  distinct := by
    rw [List.map_append]
    refine List.nodup_append.mpr
      ⟨upper.distinct, lower.distinct.sublist (List.filter_sublist.map _), ?_⟩
    -- what is added has no replacement above, and what stands above has one
    rintro id hid _ hother rfl
    obtain ⟨entry, hentry, rfl⟩ := List.mem_map.mp hother
    have hnone := Option.isNone_iff_eq_none.mp (List.mem_filter.mp hentry).2
    have hsome := isSome_get? hid
    rw [hnone] at hsome
    cases hsome

theorem get?_overlay (upper lower : OverrideScope σ κ ν) (id : FactoryId) :
    (upper.overlay lower).get? id = (upper.get? id).or (lower.get? id) := by
  show (upper.replacements ++ _).lookup id = _
  rw [List.lookup_append]
  show (upper.get? id).or _ = _
  rcases hupper : upper.get? id with _ | f
  · have hkeep : (upper.get? id).isNone = true := by rw [hupper]; rfl
    exact lookup_filter_fst (fun id => (upper.get? id).isNone) hkeep lower.replacements
  · rfl

end OverrideScope

namespace OverrideChain

/-- The scopes of a chain as one, the later ones over the earlier ones. -/
def merged (chain : OverrideChain σ κ ν) : OverrideScope σ κ ν :=
  chain.scopes.foldr (fun lower upper => upper.overlay lower) .empty

/-- The chain of the merged scope alone. -/
def single (chain : OverrideChain σ κ ν) : OverrideChain σ κ ν := ⟨[chain.merged]⟩

/-- The merged scope gives what the scopes give, the last one first. -/
theorem get?_merged (chain : OverrideChain σ κ ν) (id : FactoryId) :
    chain.merged.get? id = (chain.scopes.filterMap (·.get? id)).getLast? := by
  obtain ⟨scopes⟩ := chain
  induction scopes with
  | nil => rfl
  | cons scope scopes ih =>
    show ((merged ⟨scopes⟩).overlay scope).get? id = _
    rw [OverrideScope.get?_overlay, ih, List.getLast?_filterMap, List.getLast?_filterMap,
      List.reverse_cons, List.findSome?_append, List.findSome?_singleton]

theorem get?_merged_eq_some {chain : OverrideChain σ κ ν} {id : FactoryId} {f : Factory σ κ ν} :
    chain.merged.get? id = some f ↔ ∃ before scope after, chain.scopes = before ++ scope :: after ∧
      scope.get? id = some f ∧ ∀ later ∈ after, later.get? id = none := by
  rw [get?_merged, List.getLast?_filterMap, List.findSome?_eq_some_iff]
  -- the same split of the scopes, read from the end
  constructor
  · rintro ⟨after, scope, before, hsplit, hscope, hafter⟩
    refine ⟨before.reverse, scope, after.reverse, ?_, hscope, fun later hlater =>
      hafter later (List.mem_reverse.mp hlater)⟩
    rw [List.reverse_eq_iff.mp hsplit]
    simp
  · rintro ⟨before, scope, after, hsplit, hscope, hafter⟩
    refine ⟨after.reverse, scope, before.reverse, ?_, hscope, fun later hlater =>
      hafter later (List.mem_reverse.mp hlater)⟩
    rw [hsplit]
    simp

/-- The factory called for a declared one is its replacement in the merged scope, if there
is one. -/
theorem effective_eq (chain : OverrideChain σ κ ν) (f : Factory σ κ ν) :
    chain.effective f = (chain.merged.get? f.id).getD f := by
  rw [get?_merged]
  rfl

/-- For a declared factory, the merged scope calls the one that the chain calls. -/
theorem effective_single (chain : OverrideChain σ κ ν) (f : Factory σ κ ν) :
    chain.single.effective f = chain.effective f := by
  have hlookup : chain.single.lookup f = chain.merged.get? f.id := by
    show ([chain.merged].filterMap (·.get? f.id)).getLast? = _
    rw [List.getLast?_filterMap, List.reverse_singleton, List.findSome?_singleton]
  rw [effective, hlookup, get?_merged]
  rfl

end OverrideChain

/-! ## Resolving under another chain -/

namespace Resolver

/-- A parameter is resolved alike under chains that call the same factories. -/
theorem parameter_congr {chain chain' : OverrideChain σ κ ν}
    (h : ∀ f, chain.effective f = chain'.effective f) (limit levels : Nat) :
    parameter chain limit levels = parameter chain' limit levels := by
  induction levels with
  | zero =>
    funext path ⟨name, declared⟩ ctx
    simp only [parameter, h]
  | succ levels ih =>
    funext path ⟨name, declared⟩ ctx
    simp only [parameter, h, ih]

/-- A list of parameters is resolved like another one if each parameter is resolved like its
counterpart, which has the same name. -/
theorem each_map {one one' : DependencySpec σ κ ν → Context σ κ ν →
      Run σ κ (Resolved σ κ ν (Product ν))} (g : Factory σ κ ν → Factory σ κ ν)
    (h : ∀ spec, one (spec.1, g spec.2) = one' spec) (specs : List (DependencySpec σ κ ν)) :
    each one (specs.map fun spec => (spec.1, g spec.2)) = each one' specs := by
  induction specs with
  | nil => rfl
  | cons spec specs ih =>
    funext values ctx
    simp only [List.map_cons, each, h, ih]

end Resolver

theorem resolve_congr {chain chain' : OverrideChain σ κ ν}
    (h : ∀ f, chain.effective f = chain'.effective f) : resolve chain = resolve chain' := by
  funext limit specs ctx
  rw [resolve, resolve, Resolver.parameter_congr h]

/-! ## Overrides carried out beforehand -/

/-- A factory after one substitution: it gives way to its replacement, if it has one, and the
factories that the replacement declares are treated in the same way, as many levels down as there
are. -/
def Factory.substituted (replacement? : FactoryId → Option (Factory σ κ ν)) :
    Nat → Factory σ κ ν → Factory σ κ ν
  | 0, f => (replacement? f.id).getD f
  | levels + 1, f =>
    let g := (replacement? f.id).getD f
    { g with dependencies := g.dependencies.map fun (name, on) =>
        (name, on.substituted replacement? levels) }

/-- A route with the factories that it declares substituted. -/
def Route.substituted (replacement? : FactoryId → Option (Factory σ κ ν)) (levels : Nat)
    (route : Route σ κ ν) : Route σ κ ν :=
  { route with dependencies := route.dependencies.map fun (name, f) =>
      (name, f.substituted replacement? levels) }

@[simp] theorem OverrideChain.effective_empty (f : Factory σ κ ν) :
    (empty : OverrideChain σ κ ν).effective f = f := rfl

/-- A parameter that is bound to a substituted factory is resolved without overrides as the declared
one is resolved under the chain. -/
theorem Resolver.parameter_substituted (chain : OverrideChain σ κ ν) (limit levels : Nat)
    (path : List FactoryId) (spec : DependencySpec σ κ ν) :
    parameter .empty limit levels path
        (spec.1, spec.2.substituted chain.merged.get? levels) =
      parameter chain limit levels path spec := by
  obtain ⟨name, declared⟩ := spec
  -- the factory called is the same; what it declares lies one level below
  induction levels generalizing path name declared with
  | zero =>
    funext ctx
    simp only [parameter, OverrideChain.effective_empty, Factory.substituted,
      ← chain.effective_eq]
    rfl
  | succ levels ih =>
    funext ctx
    set f := chain.effective declared
    have hsubstituted : declared.substituted chain.merged.get? (levels + 1) =
        { f with dependencies := f.dependencies.map fun (name, on) =>
          (name, on.substituted chain.merged.get? levels) } := by
      simp only [Factory.substituted, ← chain.effective_eq, f]
    have hbelow : each (parameter .empty limit levels (path ++ [f.id]))
        (f.dependencies.map fun (name, on) => (name, on.substituted chain.merged.get? levels)) =
          each (parameter chain limit levels (path ++ [f.id])) f.dependencies :=
      each_map _ (fun spec => ih _ spec.1 spec.2) f.dependencies
    simp only [parameter, OverrideChain.effective_empty, hsubstituted, hbelow]
    rfl

theorem resolve_substituted (chain : OverrideChain σ κ ν) (limit : Nat)
    (specs : List (DependencySpec σ κ ν)) :
    resolve chain limit specs = resolve .empty limit (specs.map fun (name, f) =>
      (name, f.substituted chain.merged.get? limit)) := by
  funext ctx
  have heach := Resolver.each_map (Factory.substituted chain.merged.get? limit)
    (Resolver.parameter_substituted chain limit limit []) specs
  simp only [resolve, heach]

/-! ## Dispatching under another chain -/

/-- A dispatcher that resolves alike dispatches alike. -/
theorem Dispatcher.dispatch_of_resolve (d : Dispatcher σ κ ν) {chain : OverrideChain σ κ ν}
    {specs : List (DependencySpec σ κ ν)}
    (h : resolve chain d.settings.maxDependencyDepth specs =
      resolve d.overrides d.settings.maxDependencyDepth d.route.dependencies) :
    { d with overrides := chain, route := { d.route with dependencies := specs } }.dispatch =
      d.dispatch := by
  set d' : Dispatcher σ κ ν :=
    { d with overrides := chain, route := { d.route with dependencies := specs } }
  have hstages : d'.stages = d.stages := by
    funext view
    simp only [stages, d', h]
    rfl
  have hpass : d'.pass = d.pass := by
    funext request
    simp only [pass, hstages]
    rfl
  have hserve : d'.serve = d.serve := by
    funext request
    simp only [serve, attempt, hpass]
    rfl
  funext request
  simp only [dispatch, hserve]

namespace Application

variable (a : Application σ κ ν) (place : Placement σ κ ν)

/-- The replacement in force at a place: that of the mount, else that of the router, else that of
the application. -/
def replacement? (id : FactoryId) : Option (Factory σ κ ν) :=
  (place.mount.bind (·.get? id)).or ((place.router.bind (·.get? id)).or (a.overrides.get? id))

/-- The merged scope of a place has the replacements in force there. -/
theorem get?_merged_chain : (a.chain place).merged.get? = a.replacement? place := by
  funext id
  obtain ⟨router, mount, interceptors⟩ := place
  have hscopes : (a.chain ⟨router, mount, interceptors⟩).scopes.reverse =
      mount.toList ++ (router.toList ++ [a.overrides]) := by
    cases router <;> cases mount <;> rfl
  have hone (scope : Option (OverrideScope σ κ ν)) :
      scope.toList.findSome? (·.get? id) = scope.bind (·.get? id) := by
    cases scope with
    | none => rfl
    | some scope => exact List.findSome?_singleton
  rw [OverrideChain.get?_merged, List.getLast?_filterMap, hscopes, List.findSome?_append,
    List.findSome?_append, hone, hone, List.findSome?_singleton]
  rfl

/-- Binding a route with its factories substituted. -/
theorem endpoint_substituted (route : Route σ κ ν) :
    { a with overrides := .empty }.endpoint
        (route.substituted (a.replacement? place) a.settings.maxDependencyDepth)
        { interceptors := place.interceptors } =
      a.endpoint route place := by
  set levels := a.settings.maxDependencyDepth
  set substituted := route.substituted (a.replacement? place) levels
  -- an application without overrides has one scope, which replaces nothing
  have hchain (f : Factory σ κ ν) :
      (⟨[.empty]⟩ : OverrideChain σ κ ν).effective f = OverrideChain.empty.effective f := rfl
  have hresolve : resolve ⟨[.empty]⟩ levels substituted.dependencies =
      resolve (a.dispatcher route place).overrides levels
        (a.dispatcher route place).route.dependencies := by
    rw [resolve_congr hchain, show (a.dispatcher route place).overrides = a.chain place from rfl,
      resolve_substituted (a.chain place), a.get?_merged_chain]
    rfl
  have hdispatch := (a.dispatcher route place).dispatch_of_resolve hresolve
  exact congrArg (fun dispatch => (⟨route.method, route.path, dispatch,
    a.interceptors ++ place.interceptors⟩ : Endpoint σ κ)) hdispatch

end Application

/-! ## The chain and its merged scope -/

/-- How an override chain relates to the single scope it is merged into. -/
structure OverrideChain.ActsAsOne (chain : OverrideChain σ κ ν) : Prop where
  /-- The scope has the replacement of the last scope with one. -/
  last : ∀ id f, chain.merged.get? id = some f ↔
    ∃ before scope after, chain.scopes = before ++ scope :: after ∧ scope.get? id = some f ∧
      ∀ later ∈ after, later.get? id = none
  /-- Resolving under it is resolving under the chain: the result, the context with its cleanups,
  the session and the journal are the same. -/
  resolved : ∀ limit specs ctx s,
    resolve chain limit specs ctx s = resolve chain.single limit specs ctx s
  /-- So is resolving without any overrides after every declared factory has been looked up in the
  scope once: its replacement is not looked up again, but what the replacement declares is. -/
  once : ∀ limit specs ctx s, resolve chain limit specs ctx s =
    resolve .empty limit (specs.map fun (name, f) =>
      (name, f.substituted chain.merged.get? limit)) ctx s

/-- How the overrides at a place of an application relate to one scope. -/
structure Application.BindsAsOne (a : Application σ κ ν) (place : Placement σ κ ν) : Prop where
  /-- In the scope the mount decides before the router, and the router before the application. -/
  order : ∀ id, (a.chain place).merged.get? id = a.replacement? place id
  /-- Every route is bound as if each factory it declares had been looked up once in the mount, the
  router and the application, in this order, and there were no overrides at all. -/
  bound : ∀ route, a.endpoint route place =
    { a with overrides := .empty }.endpoint
      (route.substituted (a.replacement? place) a.settings.maxDependencyDepth)
      { interceptors := place.interceptors }

/-- A chain of overrides acts as one scope, on its own and in the endpoints of an application. -/
theorem OverrideChain.acts_as_one (chain : OverrideChain σ κ ν) (a : Application σ κ ν)
    (place : Placement σ κ ν) : chain.ActsAsOne ∧ a.BindsAsOne place := by
  refine ⟨⟨fun _ _ => chain.get?_merged_eq_some, ?_, ?_⟩, ?_, ?_⟩
  · intro limit specs ctx s
    rw [resolve_congr chain.effective_single]
  · intro limit specs ctx s
    rw [resolve_substituted]
  · exact fun id => by rw [a.get?_merged_chain place]
  · exact fun route => (a.endpoint_substituted place route).symm

end RequestDispatch
