import RequestDispatch.Proofs.Chains
import RequestDispatch.Proofs.Fields
import RequestDispatch.Proofs.InTurn

/-!
# Factories in post-order

`Postorder` goes down from parameters without a path, a bound or a session: what a factory needs is
called before the factory itself, and what is shared already is left out. `resolve_postorder` says
that a resolution makes exactly these calls and binds exactly these values whenever it succeeds, and
that it succeeds where no chain of factories repeats one or is too long and no call fails. A
resolution that gives up over a cycle or over the nesting has met such a chain.
-/

namespace RequestDispatch

variable {σ κ ν : Type}

/-! ## Calls and what they give -/

namespace Invocation

variable (i : Invocation σ κ ν)

/-- What the factory is called with. -/
def args : FactoryArgs ν :=
  ⟨if i.factory.wantsRequest then some i.context.view else none, i.values⟩

/-- The call, as the journal has it. -/
def event : Event := Resolver.callEvent i.factory i.values i.context

/-- The call gives an outcome, and the outcome this value. -/
def Gives (p : Product ν) : Prop :=
  ∃ outcome normalized, i.outcome = .ok outcome ∧ (i.obtained outcome).result = .ok normalized ∧
    p = ⟨i.origin, normalized.value⟩

end Invocation

/-- The calls of factories in a journal. -/
def factoryCalls (journal : List Event) : List Event := journal.filter Event.isInvoked

@[simp] theorem factoryCalls_nil : factoryCalls [] = [] := rfl

@[simp] theorem factoryCalls_append (first second : List Event) :
    factoryCalls (first ++ second) = factoryCalls first ++ factoryCalls second :=
  List.filter_append ..

@[simp] theorem factoryCalls_cons (e : Event) (journal : List Event) :
    factoryCalls (e :: journal) =
      if e.isInvoked then e :: factoryCalls journal else factoryCalls journal :=
  List.filter_cons

theorem factoryCalls_eq_nil {journal : List Event} (h : ∀ e ∈ journal, ¬ e.isInvoked) :
    factoryCalls journal = [] :=
  List.filter_eq_nil_iff.mpr h

/-! ## The graph depth first -/

/-- The shared values with that of a factory, if the factory takes part in sharing. -/
def Factory.keep (f : Factory σ κ ν) (p : Product ν) (shared : List (FactoryId × Product ν)) :
    List (FactoryId × Product ν) :=
  if f.usesCache then (f.id, p) :: shared else shared

theorem Context.cache_share (ctx : Context σ κ ν) (f : Factory σ κ ν) (p : Product ν) :
    (ctx.share f p).cache = f.keep p ctx.cache := by
  unfold share Factory.keep
  split <;> rfl

/-- Keeping the value of a factory changes what is shared of this factory only. -/
theorem Factory.lookup_keep (f : Factory σ κ ν) (p : Product ν)
    (shared : List (FactoryId × Product ν)) (id : FactoryId) :
    (f.keep p shared).lookup id =
      if f.usesCache ∧ id = f.id then some p else shared.lookup id := by
  unfold keep
  by_cases hcache : f.usesCache
  · by_cases hid : id = f.id
    · simp [hcache, hid]
    · simp [hcache, hid, List.lookup_cons, beq_eq_false_iff_ne.mpr hid]
  · simp [hcache]

/-- The value of a factory: it was shared before, or one of the calls of the factory gives it. -/
def Supplied (shared : List (FactoryId × Product ν)) (calls : List (Invocation σ κ ν))
    (f : Factory σ κ ν) (p : Product ν) : Prop :=
  (f.usesCache ∧ shared.lookup f.id = some p) ∨ ∃ i ∈ calls, i.factory.id = f.id ∧ i.Gives p

/-- From values that are shared already, parameters are resolved in order and depth first: with
these calls, with these products by parameter, and with these values shared in the end. -/
inductive Postorder (chain : OverrideChain σ κ ν) (view : RequestView) :
    List (FactoryId × Product ν) → List (DependencySpec σ κ ν) → List (Invocation σ κ ν) →
      List (String × Product ν) → List (FactoryId × Product ν) → Prop where
  | done (shared : List (FactoryId × Product ν)) : Postorder chain view shared [] [] [] shared
  /-- The value of the factory is shared already, so neither it nor what it needs is called. -/
  | reuse {shared shared' : List (FactoryId × Product ν)} {name : String}
      {declared : Factory σ κ ν} {specs : List (DependencySpec σ κ ν)}
      {calls : List (Invocation σ κ ν)} {bindings : List (String × Product ν)} {p : Product ν}
      (cached : (chain.effective declared).usesCache)
      (hp : shared.lookup (chain.effective declared).id = some p)
      (rest : Postorder chain view shared specs calls bindings shared') :
      Postorder chain view shared ((name, declared) :: specs) calls ((name, p) :: bindings) shared'
  /-- What the factory needs is resolved, then it is called with that, and then comes the rest. -/
  | call {shared shared' shared'' : List (FactoryId × Product ν)} {name : String}
      {declared : Factory σ κ ν} {specs : List (DependencySpec σ κ ν)}
      {inner calls : List (Invocation σ κ ν)} {own bindings : List (String × Product ν)}
      {i : Invocation σ κ ν} {p : Product ν}
      (fresh : (chain.effective declared).usesCache →
        shared.lookup (chain.effective declared).id = none)
      (below : Postorder chain view shared (chain.effective declared).dependencies inner own
        shared')
      (parameter : i.parameter = name) (factory : i.factory = chain.effective declared)
      (args : i.args = ⟨if (chain.effective declared).wantsRequest then some view else none,
        Fields.ofList own⟩)
      (gives : i.Gives p)
      (rest : Postorder chain view ((chain.effective declared).keep p shared') specs calls bindings
        shared'') :
      Postorder chain view shared ((name, declared) :: specs) (inner ++ i :: calls)
        ((name, p) :: bindings) shared''

namespace Postorder

variable {chain : OverrideChain σ κ ν} {view : RequestView}
  {shared shared' shared'' : List (FactoryId × Product ν)} {spec : DependencySpec σ κ ν}
  {specs : List (DependencySpec σ κ ν)} {calls calls' : List (Invocation σ κ ν)}
  {binding : String × Product ν} {bindings : List (String × Product ν)}

theorem names (h : Postorder chain view shared specs calls bindings shared') :
    bindings.map Prod.fst = specs.map Prod.fst := by
  induction h with
  | done => rfl
  | reuse _ _ _ ih | call _ _ _ _ _ _ _ _ ih => simp [ih]

/-- The first parameter, then the others. -/
theorem cons (h : Postorder chain view shared [spec] calls [binding] shared')
    (rest : Postorder chain view shared' specs calls' bindings shared'') :
    Postorder chain view shared (spec :: specs) (calls ++ calls') (binding :: bindings)
      shared'' := by
  cases h with
  | reuse cached hp done =>
    cases done
    exact .reuse cached hp rest
  | call fresh below parameter factory args gives done =>
    cases done
    rw [List.append_assoc, List.singleton_append]
    exact .call fresh below parameter factory args gives rest

/-- Every call is given the values of what its factory needs, and the request if the factory reads
it. -/
theorem args (h : Postorder chain view shared specs calls bindings shared') :
    ∀ i ∈ calls, i.args.request = (if i.factory.wantsRequest then some view else none) ∧
      ∀ name, (i.args.values.get? name).isSome ↔ name ∈ i.factory.dependencies.map Prod.fst := by
  induction h with
  | done => exact nofun
  | reuse _ _ _ ih => exact ih
  | @call _ _ _ _ _ _ _ _ _ _ i _ fresh below parameter factory args gives rest ihbelow ihrest =>
    intro j hj
    rcases List.mem_append.mp hj with hj | hj
    · exact ihbelow j hj
    rcases List.mem_cons.mp hj with rfl | hj
    · rw [args, factory]
      refine ⟨rfl, fun name => ?_⟩
      rw [← below.names]
      exact Fields.isSome_get?_ofList
    · exact ihrest j hj

/-- What a value shared after a call comes from, it comes from before: the call itself gives it, or
what was shared by then. -/
theorem supplied_before {f g : Factory σ κ ν} {p q : Product ν} {i : Invocation σ κ ν}
    {inner : List (Invocation σ κ ν)} (factory : i.factory = g) (gives : i.Gives q)
    (below : f.usesCache → shared'.lookup f.id = some p → Supplied shared inner f p)
    (h : Supplied (g.keep q shared') calls f p) : Supplied shared (inner ++ i :: calls) f p := by
  rcases h with ⟨cached, hp⟩ | ⟨j, hj, hfound⟩
  · rw [Factory.lookup_keep] at hp
    split at hp
    · next hnew =>
      obtain rfl := Option.some.inj hp
      exact .inr ⟨i, by simp, by rw [factory, hnew.2], gives⟩
    · rcases below cached hp with hbefore | ⟨j, hj, hfound⟩
      · exact .inl hbefore
      · exact .inr ⟨j, List.mem_append_left _ hj, hfound⟩
  · exact .inr ⟨j, List.mem_append_right _ (List.mem_cons_of_mem _ hj), hfound⟩

/-- What is shared in the end was shared before, or a call gives it. -/
theorem supplied (h : Postorder chain view shared specs calls bindings shared') {f : Factory σ κ ν}
    {p : Product ν} (cached : f.usesCache) (hp : shared'.lookup f.id = some p) :
    Supplied shared calls f p := by
  induction h generalizing f p with
  | done => exact .inl ⟨cached, hp⟩
  | reuse _ _ _ ih => exact ih cached hp
  | call _ _ _ factory _ gives _ ihbelow ihrest =>
    exact supplied_before factory gives ihbelow (ihrest cached hp)

/-- Every parameter is bound, in order, to the value of its factory. -/
theorem bound (h : Postorder chain view shared specs calls bindings shared') :
    List.Forall₂ (fun (spec : DependencySpec σ κ ν) binding =>
      binding.1 = spec.1 ∧ Supplied shared calls (chain.effective spec.2) binding.2)
      specs bindings := by
  induction h with
  | done => exact .nil
  | reuse cached hp _ ih => exact .cons ⟨rfl, .inl ⟨cached, hp⟩⟩ ih
  | call _ below _ factory _ gives _ _ ihrest =>
    refine .cons ⟨rfl, .inr ⟨_, by simp, by rw [factory], gives⟩⟩
      (ihrest.imp fun spec binding h => ?_)
    exact ⟨h.1, supplied_before factory gives below.supplied h.2⟩

end Postorder

/-! ## What a call leaves -/

/-- What a call that gives a value leaves: the value is shared, and nothing else is called. -/
structure Invocation.Makes (i : Invocation σ κ ν) (p : Product ν) (ctx : Context σ κ ν) : Prop where
  gives : i.Gives p
  request : ctx.view = i.context.view
  shares : ctx.cache = i.factory.keep p i.context.cache
  counted : ctx.invocations = i.context.invocations + 1
  only : factoryCalls i.produced.journal = [i.event]

private theorem factoryCalls_obtained (i : Invocation σ κ ν) (outcome : Outcome σ κ ν) :
    factoryCalls (i.obtained outcome).journal = [] := by
  refine factoryCalls_eq_nil fun e he => ?_
  have hkind := (outcome.normalize_within i.origin).journal _ e he
  cases e <;> simp_all [Event.isObtaining, Event.isInvoked]

@[simp] theorem Context.view_share (ctx : Context σ κ ν) (f : Factory σ κ ν) (p : Product ν) :
    (ctx.share f p).view = ctx.view := by
  unfold share
  split <;> rfl

/-- Taking up a value shares it and leaves the rest but the cleanup. -/
theorem Resolver.settle_keeps (f : Factory σ κ ν) (origin : Nat)
    (normalized : Outcome.Normalized σ κ ν) (ctx : Context σ κ ν) :
    ∃ ctx', settle f origin normalized ctx = (.ok ⟨origin, normalized.value⟩, ctx') ∧
      ctx'.view = ctx.view ∧ ctx'.cache = f.keep ⟨origin, normalized.value⟩ ctx.cache ∧
      ctx'.invocations = ctx.invocations := by
  unfold settle
  split <;> exact ⟨_, rfl, by simp [Context.pending],
    by simp [Context.cache_share, Context.pending], by simp [Context.pending]⟩

/-- A call with a value makes it. -/
theorem Invocation.produced_makes {i : Invocation σ κ ν} {p : Product ν} {ctx : Context σ κ ν}
    (h : i.produced.result = (.ok p, ctx)) : i.Makes p ctx := by
  rcases Resolver.produce_cases i.parameter i.factory i.values i.context i.session with
    ⟨e, -, heq⟩ | ⟨outcome, t, hcall, rfl, ⟨e, -, heq⟩ | ⟨normalized, hn, heq⟩⟩
  · rw [produced, heq] at h
    cases h
  · rw [produced, heq] at h
    cases h
  · obtain ⟨ctx', hsettle, hview, hcache, hinvocations⟩ :=
      Resolver.settle_keeps i.factory i.context.invocations normalized i.context.invoked
    rw [produced, heq, hsettle] at h
    obtain ⟨hok, rfl⟩ := Prod.mk.inj h
    obtain rfl := Except.ok.inj hok
    refine ⟨⟨outcome, normalized, hcall, hn, rfl⟩, hview, hcache, hinvocations, ?_⟩
    have hobtained := factoryCalls_obtained i outcome
    simp only [obtained, origin, called] at hobtained
    rw [produced, heq]
    simp [hobtained, event, Resolver.callEvent, Resolver.receiptEvent, Event.isInvoked]

/-! ## Resolving depth first -/

/-- What the resolution of parameters has done that succeeds: the calls it made, in this order, and
what it bound. -/
structure Walks (chain : OverrideChain σ κ ν) (specs : List (DependencySpec σ κ ν))
    (ctx : Context σ κ ν) (invokes : Invocation σ κ ν → Prop) (journal : List Event)
    (ctx' : Context σ κ ν) (calls : List (Invocation σ κ ν))
    (bindings : List (String × Product ν)) : Prop where
  order : Postorder chain ctx.view ctx.cache specs calls bindings ctx'.cache
  /-- There are no other calls. -/
  made : ∀ i, invokes i ↔ i ∈ calls
  entered : factoryCalls journal = calls.map Invocation.event
  /-- The calls are numbered in this order. -/
  numbered : calls.map Invocation.origin = List.range' ctx.invocations calls.length
  counted : ctx'.invocations = ctx.invocations + calls.length
  request : ctx'.view = ctx.view

namespace Walks

variable {chain : OverrideChain σ κ ν} {spec : DependencySpec σ κ ν}
  {specs : List (DependencySpec σ κ ν)} {ctx mid ctx' : Context σ κ ν}
  {invokes first rest : Invocation σ κ ν → Prop} {journal journal' : List Event}
  {calls calls' : List (Invocation σ κ ν)} {p : Product ν} {bindings : List (String × Product ν)}

/-- A parameter with a shared value. -/
theorem shared {name : String} {declared : Factory σ κ ν}
    (hp : ctx.cached? (chain.effective declared) = some p) (hnone : ∀ i, ¬ invokes i) (n : Nat) :
    Walks chain [(name, declared)] ctx invokes
      [Resolver.receiptEvent name (chain.effective declared) n] ctx [] [(name, p)] where
  order := by
    obtain ⟨cached, hlookup⟩ := Context.cached?_eq_some.mp hp
    exact .reuse cached hlookup (.done _)
  made i := by simp [hnone]
  entered := rfl
  numbered := rfl
  counted := rfl
  request := rfl

/-- A parameter whose factory is called after what it needs. -/
theorem called {name : String} {declared : Factory σ κ ν} {i : Invocation σ κ ν}
    {below : Invocation σ κ ν → Prop}
    (hnone : ctx.cached? (chain.effective declared) = none)
    (h : Walks chain (chain.effective declared).dependencies ctx below journal mid calls bindings)
    (hi : i = ⟨name, chain.effective declared, Fields.ofList bindings, mid, i.session⟩)
    (makes : i.Makes p ctx') (hinvokes : ∀ j, invokes j ↔ j = i ∨ below j) :
    Walks chain [(name, declared)] ctx invokes
      (.entered (chain.effective declared).id name :: (journal ++
        .left (chain.effective declared).id :: i.produced.journal)) ctx' (calls ++ [i])
      [(name, p)] where
  order := by
    have hcache : ctx'.cache = (chain.effective declared).keep p mid.cache := by
      rw [makes.shares, hi]
    rw [hcache]
    refine .call (fun cached => Context.lookup_eq_none hnone cached) h.order (by rw [hi])
      (by rw [hi]) ?_ makes.gives (.done _)
    rw [hi, Invocation.args, h.request]
  made j := by simp [hinvokes, h.made, or_comm]
  entered := by simp [h.entered, makes.only, Event.isInvoked]
  numbered := by
    have horigin : i.origin = ctx.invocations + calls.length := by
      rw [hi, Invocation.origin, h.counted]
    rw [List.map_append, h.numbered, List.length_append, List.length_singleton, List.range'_concat]
    simp [horigin]
  counted := by
    have hinvocations := makes.counted
    rw [hi] at hinvocations
    rw [hinvocations, h.counted, List.length_append, List.length_singleton, Nat.add_assoc]
  request := by
    have hview := makes.request
    rw [hi] at hview
    rw [hview, h.request]

/-- A first parameter and the others after it. -/
theorem cons (h : Walks chain [spec] ctx first journal mid calls [(spec.1, p)])
    (h' : Walks chain specs mid rest journal' ctx' calls' bindings)
    (hinvokes : ∀ i, invokes i ↔ first i ∨ rest i) :
    Walks chain (spec :: specs) ctx invokes (journal ++ journal') ctx' (calls ++ calls')
      ((spec.1, p) :: bindings) where
  order := h.order.cons (h.request ▸ h'.order)
  made i := by rw [hinvokes, h.made, h'.made, List.mem_append]
  entered := by rw [factoryCalls_append, h.entered, h'.entered, List.map_append]
  numbered := by
    rw [List.map_append, h.numbered, h'.numbered, h.counted, List.length_append,
      List.range'_append_1]
  counted := by rw [h'.counted, h.counted, List.length_append, Nat.add_assoc]
  request := h'.request.trans h.request

end Walks

/-- Whenever parameters have their values, the resolver has gone depth first. -/
theorem Resolver.walks (chain : OverrideChain σ κ ν) (limit : Nat) :
    Cases chain limit
      (fun levels path spec ctx s t => ∀ p ctx', t.result = (.ok p, ctx') →
        ∃ calls, Walks chain [spec] ctx (Invokes chain limit levels path [spec] ctx s) t.journal
          ctx' calls [(spec.1, p)])
      (fun levels path specs values ctx s t => ∀ values' ctx', t.result = (.ok values', ctx') →
        ∃ calls bindings, Walks chain specs ctx (Invokes chain limit levels path specs ctx s)
          t.journal ctx' calls bindings ∧
          values' = bindings.foldl (fun done binding => done.set binding.1 binding.2) values) where
  shared levels path name declared ctx s p hp p' ctx' h := by
    obtain ⟨hok, rfl⟩ := Prod.mk.inj h
    obtain rfl := Except.ok.inj hok
    -- a parameter that receives a shared value makes no call
    have hnone i : ¬ Invokes chain limit levels path [(name, declared)] ctx s i := by
      intro invokes
      rw [invokes.single_cases.1] at hp
      cases hp
    exact ⟨[], .shared hp hnone _⟩
  cyclic _ _ _ _ _ _ _ _ _ _ h := nomatch h
  deep _ _ _ _ _ _ _ _ _ h := nomatch h
  unmet _ _ _ _ _ _ _ _ _ _ _ _ _ _ _ _ h := nomatch h
  called levels path name declared ctx s t values mid u hnone hpath heq h ht hu p ctx' hp := by
    subst hu
    obtain ⟨inner, own, walks, hvalues⟩ := h values mid ht
    let i : Invocation σ κ ν := ⟨name, chain.effective declared, values, mid, t.session⟩
    have hown : Fields.ofList own = values := hvalues.symm
    have hi : i = ⟨name, chain.effective declared, Fields.ofList own, mid, i.session⟩ := by
      rw [hown]
    -- the calls of the dependencies come before the call that uses them
    refine ⟨inner ++ [i], .called hnone walks hi (Invocation.produced_makes hp) fun j => ?_⟩
    constructor
    · intro invokes
      obtain ⟨-, -, below, hlevels, ⟨t', values', mid', heq', ht', rfl⟩ | hbelow⟩ :=
        invokes.single_cases
      · -- it is the call that has just been made
        obtain rfl := Nat.succ.inj hlevels
        obtain rfl := heq.symm.trans heq'
        obtain ⟨hok, rfl⟩ := Prod.mk.inj (ht.symm.trans ht')
        obtain rfl := Except.ok.inj hok
        exact .inl rfl
      · obtain rfl := Nat.succ.inj hlevels
        exact .inr hbelow
    · rintro (rfl | hbelow)
      · exact .here hnone hpath heq ht
      · exact .inside hnone hpath hbelow
  done levels path values ctx s values' ctx' h := by
    obtain ⟨hok, rfl⟩ := Prod.mk.inj h
    obtain rfl := Except.ok.inj hok
    refine ⟨[], [], ⟨.done _, fun i => ?_, rfl, rfl, rfl, rfl⟩, rfl⟩
    exact ⟨nofun, nofun⟩
  failed _ _ _ _ _ _ _ _ _ _ _ _ _ _ _ h := nomatch h
  next levels path spec specs values ctx s t p mid u heq h ht hrest values' ctx' hvalues := by
    obtain ⟨calls, walks⟩ := h p mid ht
    obtain ⟨calls', bindings, walks', hvalues'⟩ := hrest values' ctx' hvalues
    -- the calls for the first parameter come before those for the others
    refine ⟨calls ++ calls', (spec.1, p) :: bindings, walks.cons walks' fun i => ?_, hvalues'⟩
    constructor
    · intro invokes
      rcases invokes.cons_cases heq with single | ⟨p', mid', ht', later⟩
      · exact .inl single
      · obtain ⟨-, rfl⟩ := Prod.mk.inj (ht.symm.trans ht')
        exact .inr later
    · rintro (single | later)
      · exact single.single specs
      · exact .later heq ht later

/-! ## Resolutions -/

/-- What a resolution that succeeds gives to its parameters and to the calls. -/
structure BindsInOrder (chain : OverrideChain σ κ ν) (specs : List (DependencySpec σ κ ν))
    (ctx : Context σ κ ν) (calls : List (Invocation σ κ ν))
    (bindings : List (String × Product ν)) (values : Fields (Product ν)) : Prop where
  /-- Each parameter, in order, has a value of its factory, shared before or given by a call. -/
  bound : List.Forall₂ (fun (spec : DependencySpec σ κ ν) binding =>
    binding.1 = spec.1 ∧ Supplied ctx.cache calls (chain.effective spec.2) binding.2) specs bindings
  /-- The last value of a name counts. -/
  last : ∀ name, values.get? name = bindings.reverse.lookup name
  /-- Every declared name is bound, and no other. -/
  names : ∀ name, (values.get? name).isSome ↔ name ∈ specs.map Prod.fst
  /-- A call gets the request exactly if the factory reads it. -/
  request : ∀ i ∈ calls, i.args.request = if i.factory.wantsRequest then some ctx.view else none
  /-- A call gets values for exactly the names that the factory declares. -/
  nested : ∀ i ∈ calls, ∀ name,
    (i.args.values.get? name).isSome ↔ name ∈ i.factory.dependencies.map Prod.fst

/-- How a resolution goes through the graph of factories. -/
structure ResolvesDepthFirst (chain : OverrideChain σ κ ν) (limit : Nat)
    (specs : List (DependencySpec σ κ ν)) (ctx : Context σ κ ν) (s : Session σ κ) : Prop where
  /-- It succeeds if no chain repeats a factory or is too long and no call fails or panics. -/
  succeeds : Acyclic chain specs → Shallow chain specs limit →
    (∀ i stop, Resolver.Invokes chain limit limit [] specs ctx s i → ¬ i.Fails stop) →
    ∃ values, (resolve chain limit specs ctx s).result.1 = .ok values
  /-- Whenever it succeeds, its calls are those of the post-order, and so are its values. -/
  postorder : ∀ values, (resolve chain limit specs ctx s).result.1 = .ok values →
    ∃ calls bindings,
      Walks chain specs ctx (Resolver.Invokes chain limit limit [] specs ctx s)
        (resolve chain limit specs ctx s).journal (resolve chain limit specs ctx s).result.2 calls
        bindings ∧
      BindsInOrder chain specs ctx calls bindings values
  /-- An error over a cycle that no call raised: a chain leads to one of its own factories. -/
  cycle : ∀ name factory,
    (resolve chain limit specs ctx s).result.1 =
      .error (.failed (.internal (.dependencyCycle name factory))) →
    (∃ i, Resolver.Invokes chain limit limit [] specs ctx s i ∧
      i.Fails (.failed (.internal (.dependencyCycle name factory)))) ∨
    ∃ path spec, Descends chain specs path spec ∧ (chain.effective spec.2).id ∈ path
  /-- An error over the nesting that no call raised: a chain leads from as many factories as there
  may be to a further one. -/
  deep : ∀ bound name,
    (resolve chain limit specs ctx s).result.1 =
      .error (.failed (.internal (.nestingTooDeep bound name))) →
    (∃ i, Resolver.Invokes chain limit limit [] specs ctx s i ∧
      i.Fails (.failed (.internal (.nestingTooDeep bound name)))) ∨
    ∃ path spec, Descends chain specs path spec ∧
      (path ++ [(chain.effective spec.2).id]).length = limit + 1

/-- A resolution that succeeds has gone depth first. -/
theorem resolve_walks {chain : OverrideChain σ κ ν} {limit : Nat}
    {specs : List (DependencySpec σ κ ν)} {ctx : Context σ κ ν} {s : Session σ κ}
    {values : Fields (Product ν)} (h : (resolve chain limit specs ctx s).result.1 = .ok values) :
    ∃ calls bindings,
      Walks chain specs ctx (Resolver.Invokes chain limit limit [] specs ctx s)
        (resolve chain limit specs ctx s).journal (resolve chain limit specs ctx s).result.2 calls
        bindings ∧
      values = Fields.ofList bindings := by
  rcases resolve_cases chain limit specs ctx s with
    ⟨values', hvalues, heq⟩ | ⟨e, he, heq⟩ | ⟨panic, hpanic, heq⟩
  · rw [heq] at h ⊢
    exact (Resolver.walks chain limit).each limit [] specs .empty ctx s values _ (Prod.ext h rfl)
  · rw [heq] at h
    cases h
  · rw [heq, hpanic] at h
    cases h

/-- A resolution calls the factories in post-order and binds what they give; it stops only over a
call that fails or panics, or over a chain that repeats a factory or is too long. -/
theorem resolve_postorder (chain : OverrideChain σ κ ν) (limit : Nat)
    (specs : List (DependencySpec σ κ ν)) (ctx : Context σ κ ν) (s : Session σ κ) :
    ResolvesDepthFirst chain limit specs ctx s where
  succeeds acyclic shallow sound := by
    rcases hresult : (resolve chain limit specs ctx s).result.1 with e | values
    · rcases resolve_obstructed hresult with ⟨_, -, obstructed⟩ | ⟨i, invokes, fails⟩
      · cases obstructed with
        | cycle descends hid => exact absurd hid (acyclic _ _ descends)
        | depth descends hlength => exact absurd hlength (Nat.ne_of_lt (shallow _ _ descends))
      · exact absurd fails (sound i e invokes)
    · exact ⟨values, rfl⟩
  postorder values h := by
    obtain ⟨calls, bindings, walks, rfl⟩ := resolve_walks h
    refine ⟨calls, bindings, walks, walks.order.bound, Fields.get?_ofList_eq_lookup bindings,
      fun name => ?_, fun i hi => (walks.order.args i hi).1, fun i hi => (walks.order.args i hi).2⟩
    rw [← walks.order.names]
    exact Fields.isSome_get?_ofList
  cycle name factory h := by
    rcases resolve_obstructed h with ⟨e, heq, obstructed⟩ | failed
    · obtain rfl := Stop.failed.inj heq
      cases obstructed with
      | cycle descends hid => exact .inr ⟨_, _, descends, hid⟩
    · exact .inl failed
  deep bound name h := by
    rcases resolve_obstructed h with ⟨e, heq, obstructed⟩ | failed
    · obtain rfl := Stop.failed.inj heq
      cases obstructed with
      | depth descends hlength => exact .inr ⟨_, _, descends, by simp [hlength]⟩
    · exact .inl failed

end RequestDispatch
