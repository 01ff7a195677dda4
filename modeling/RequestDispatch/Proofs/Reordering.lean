import Mathlib.Logic.Relation
import RequestDispatch.Proofs.Chains
import RequestDispatch.Proofs.Fields

/-!
# The order of parameters

Where all factories are shared and are functions of their arguments, what a parameter is bound to
does not depend on what was resolved before it: `Evaluates` gives the values without a resolver, and
every resolution that succeeds binds these. Whether one succeeds does depend on the order, since a
shared value is received however long the chain is by then. `resolve_reorders` says how far: a cycle
fails in every order, and only the bound on chains tells orders apart.
-/

namespace RequestDispatch

variable {σ κ ν : Type}

/-! ## Factories that are functions -/

/-- The values of parameters without the invocations they come from. -/
def bare (values : Fields (Product ν)) : Fields ν := values.map Product.value

theorem bare_set (values : Fields (Product ν)) (name : String) (p : Product ν) :
    bare (Fields.set name p values) = Fields.set name p.value (bare values) :=
  Fields.map_set Product.value values name p

/-- What the factories give: a value for the request, if the factory reads it, and the values of its
dependencies. -/
def Giving (σ κ ν : Type) := Factory σ κ ν → Option RequestView → Fields ν → ν

/-- A factory is a function of its arguments: it changes nothing, does not fail and gives its value
at once. -/
def Factory.IsFunction (give : Giving σ κ ν) (f : Factory σ κ ν) : Prop :=
  ∀ args around world,
    f.call args around world =
      (.ok (.immediate (give f args.request (bare args.values))), world, [])

/-- All factories that are called from some parameters on are shared and are functions, and no two
of them are different copies of one. -/
structure Functional (chain : OverrideChain σ κ ν) (specs : List (DependencySpec σ κ ν))
    (give : Giving σ κ ν) : Prop where
  shared : ∀ f, Reached chain specs f → f.usesCache
  function : ∀ f, Reached chain specs f → f.IsFunction give
  copies : ∀ f g, Reached chain specs f → Reached chain specs g → f.id = g.id → f = g

theorem Functional.mono {chain : OverrideChain σ κ ν} {specs specs' : List (DependencySpec σ κ ν)}
    {give : Giving σ κ ν} (h : Functional chain specs give) (hsub : specs' ⊆ specs) :
    Functional chain specs' give where
  shared f hf := h.shared f (hf.mono hsub)
  function f hf := h.function f (hf.mono hsub)
  copies f g hf hg := h.copies f g (hf.mono hsub) (hg.mono hsub)

/-- What a factory gives for a request and the values of its dependencies. -/
def Giving.value (give : Giving σ κ ν) (view : RequestView) (f : Factory σ κ ν)
    (values : Fields ν) :
    ν :=
  give f (if f.wantsRequest then some view else none) values

namespace Factory.IsFunction

variable {give : Giving σ κ ν} {f : Factory σ κ ν}

theorem callStep_result (h : f.IsFunction give) (values : Fields (Product ν)) (ctx : Context σ κ ν)
    (s : Session σ κ) :
    (Resolver.callStep f values ctx s).result =
      .ok (.immediate (give.value ctx.view f (bare values))) := by
  simp [Resolver.callStep, Run.perform, h _ _ _, Giving.value]

/-- A call of a function has an outcome, in whatever mode. -/
theorem callStep_called (h : f.IsFunction give) (mode : Mode) (values : Fields (Product ν))
    (ctx : Context σ κ ν) (s : Session σ κ) :
    (Resolver.callStep f values ctx s).result.called mode =
      .ok (.immediate (give.value ctx.view f (bare values))) := by
  rw [h.callStep_result]
  cases mode <;> rfl

/-- A call of a function gives its value, and the value is shared. -/
theorem produce_result (h : f.IsFunction give) (name : String) (values : Fields (Product ν))
    (ctx : Context σ κ ν) (s : Session σ κ) :
    (Resolver.produce name f values ctx s).result =
      (.ok ⟨ctx.invocations, give.value ctx.view f (bare values)⟩,
        ctx.invoked.share f ⟨ctx.invocations, give.value ctx.view f (bare values)⟩) := by
  have hcall := h.callStep_called f.mode values ctx s
  rcases Resolver.produce_cases name f values ctx s with
    ⟨e, he, -⟩ | ⟨outcome, t, houtcome, ht, hcases⟩
  · rw [hcall] at he
    cases he
  · rw [hcall] at houtcome
    obtain rfl := Except.ok.inj houtcome
    subst ht
    rcases hcases with ⟨e, he, -⟩ | ⟨normalized, hn, heq⟩
    · cases he
    · obtain rfl := Except.ok.inj hn
      rw [heq]
      rfl

/-- A call of a function does not fail. -/
theorem not_fails {i : Invocation σ κ ν} (h : i.factory.IsFunction give)
    {stop : Stop DispatchError} :
    ¬ i.Fails stop := by
  intro fails
  have hproduced := Invocation.produced_eq_error.mpr fails
  rw [Invocation.produced, h.produce_result] at hproduced
  cases hproduced

end Factory.IsFunction

/-! ## Values without a resolver -/

/-- The values of parameters, by what their factories give for the values of their own. -/
inductive Evaluates (chain : OverrideChain σ κ ν) (give : Giving σ κ ν) (view : RequestView) :
    List (DependencySpec σ κ ν) → List (String × ν) → Prop where
  | nil : Evaluates chain give view [] []
  | cons {name : String} {declared : Factory σ κ ν} {specs : List (DependencySpec σ κ ν)}
      {own entries : List (String × ν)}
      (dependencies : Evaluates chain give view (chain.effective declared).dependencies own)
      (rest : Evaluates chain give view specs entries) :
      Evaluates chain give view ((name, declared) :: specs)
        ((name, give.value view (chain.effective declared) (Fields.ofList own)) :: entries)

namespace Evaluates

variable {chain : OverrideChain σ κ ν} {give : Giving σ κ ν} {view : RequestView}
  {specs specs' : List (DependencySpec σ κ ν)} {entries entries' : List (String × ν)}

theorem names (h : Evaluates chain give view specs entries) :
    entries.map Prod.fst = specs.map Prod.fst := by
  induction h with
  | nil => rfl
  | cons _ _ _ ih => simp [ih]

/-- Parameters have no other values. -/
theorem unique (h : Evaluates chain give view specs entries)
    (h' : Evaluates chain give view specs entries') : entries = entries' := by
  induction h generalizing entries' with
  | nil =>
    cases h'
    rfl
  | cons _ _ ihown ihrest =>
    cases h' with
    | cons own' rest' => rw [ihown own', ihrest rest']

/-- In another order parameters have the same values. -/
theorem perm (order : specs.Perm specs') (h : Evaluates chain give view specs entries) :
    ∃ entries', Evaluates chain give view specs' entries' ∧ entries.Perm entries' := by
  induction order generalizing entries with
  | nil => exact ⟨entries, h, .refl _⟩
  | cons spec _ ih =>
    cases h with
    | cons own rest =>
      obtain ⟨entries', h', order'⟩ := ih rest
      exact ⟨_, .cons own h', order'.cons _⟩
  | swap first second specs =>
    cases h with
    | cons own rest =>
      cases rest with
      | cons own' rest => exact ⟨_, .cons own' (.cons own rest), .swap _ _ _⟩
  | trans _ _ ih ih' =>
    obtain ⟨middle, hmiddle, order⟩ := ih h
    obtain ⟨entries', h', order'⟩ := ih' hmiddle
    exact ⟨entries', h', order.trans order'⟩

/-- Below a parameter with a value nothing goes on for ever. -/
theorem acc (h : Evaluates chain give view specs entries) :
    ∀ spec ∈ specs, Acc (fun f other => Needs chain other f) (chain.effective spec.2) := by
  induction h with
  | nil => exact fun _ hspec => absurd hspec List.not_mem_nil
  | cons _ _ ihown ihrest =>
    intro spec hspec
    rcases List.mem_cons.mp hspec with rfl | hspec
    · refine .intro _ fun f ⟨needed, hneeded, hf⟩ => ?_
      exact hf ▸ ihown needed hneeded
    · exact ihrest spec hspec

end Evaluates

/-- What is accessible lies on no cycle. -/
theorem not_transGen_of_acc {chain : OverrideChain σ κ ν} {f : Factory σ κ ν}
    (h : Acc (fun f other => Needs chain other f) f) : ¬ Relation.TransGen (Needs chain) f f := by
  rw [← Relation.transGen_swap]
  rw [← acc_transGen_iff] at h
  induction h with
  | intro f _ ih => exact fun cycle => ih f cycle cycle

/-! ## The values that are bound -/

/-- The value of a factory. -/
def IsValue (chain : OverrideChain σ κ ν) (give : Giving σ κ ν) (view : RequestView)
    (f : Factory σ κ ν) (value : ν) : Prop :=
  ∃ own, Evaluates chain give view f.dependencies own ∧
    value = give.value view f (Fields.ofList own)

/-- What is shared in a context are the values of the factories. -/
structure Shares (chain : OverrideChain σ κ ν) (specs : List (DependencySpec σ κ ν))
    (give : Giving σ κ ν) (view : RequestView) (ctx : Context σ κ ν) : Prop where
  request : ctx.view = view
  cached : ∀ id p, ctx.cache.lookup id = some p →
    ∃ f, Reached chain specs f ∧ f.id = id ∧ IsValue chain give view f p.value

/-- Nothing is shared at first. -/
theorem Shares.new {chain : OverrideChain σ κ ν} {specs : List (DependencySpec σ κ ν)}
    {give : Giving σ κ ν} (view : RequestView) : Shares chain specs give view (.new view) where
  request := rfl
  cached _ _ hp := nomatch hp

/-- The value of a factory is shared. -/
theorem Shares.share {chain : OverrideChain σ κ ν} {specs : List (DependencySpec σ κ ν)}
    {give : Giving σ κ ν} {view : RequestView} {ctx : Context σ κ ν} {f : Factory σ κ ν}
    {p : Product ν} (h : Shares chain specs give view ctx) (reached : Reached chain specs f)
    (hvalue : IsValue chain give view f p.value) :
    Shares chain specs give view (ctx.invoked.share f p) where
  request := by
    rw [← h.request, Context.share]
    split <;> rfl
  cached id p' hp' := by
    rw [Context.lookup_share] at hp'
    split at hp'
    · next hid =>
      obtain rfl := Option.some.inj hp'
      exact ⟨f, reached, hid.2.symm, hvalue⟩
    · exact h.cached id p' hp'

namespace Resolver

/-- On every way of the resolver what is bound is the value, whatever is shared already. -/
theorem binds {chain : OverrideChain σ κ ν} {top : List (DependencySpec σ κ ν)}
    {give : Giving σ κ ν} (functional : Functional chain top give) (limit : Nat)
    (view : RequestView) :
    Cases chain limit
      (fun _ path spec ctx _ t => Descends chain top path spec → Shares chain top give view ctx →
        ∀ p ctx', t.result = (.ok p, ctx') → Shares chain top give view ctx' ∧
          IsValue chain give view (chain.effective spec.2) p.value)
      (fun _ path specs values ctx _ t => (∀ spec ∈ specs, Descends chain top path spec) →
        Shares chain top give view ctx →
          ∀ values' ctx', t.result = (.ok values', ctx') → Shares chain top give view ctx' ∧
            ∃ entries, Evaluates chain give view specs entries ∧
              bare values' =
                entries.foldl (fun done (name, value) => Fields.set name value done)
                  (bare values)) where
  shared _ _ name declared ctx _ p hp descends shares p' ctx' h := by
    obtain ⟨hok, rfl⟩ := Prod.mk.inj h
    obtain rfl := Except.ok.inj hok
    obtain ⟨f, reached, hid, hvalue⟩ := shares.cached _ _ (Context.cached?_eq_some.mp hp).2
    -- the shared value is one of the same factory, since there are no different copies of it
    obtain rfl := functional.copies f _ reached descends.reached hid
    exact ⟨shares, hvalue⟩
  cyclic _ _ _ _ _ _ _ _ _ _ _ _ h := nomatch h
  deep _ _ _ _ _ _ _ _ _ _ _ h := nomatch h
  unmet _ _ _ _ _ _ _ _ _ _ _ _ _ _ _ _ _ _ h := nomatch h
  called _ path name declared ctx _ t values ctx' u _ _ _ h ht hu descends shares p ctx'' hp := by
    obtain ⟨shares', own, evaluates, hown⟩ :=
      h (fun _ hspec => descends.deeper hspec) shares values ctx' ht
    have function := functional.function _ descends.reached
    rw [← hu, function.produce_result, shares'.request] at hp
    obtain ⟨hok, rfl⟩ := Prod.mk.inj hp
    obtain rfl := Except.ok.inj hok
    have hvalue : IsValue chain give view (chain.effective declared)
        (give.value view (chain.effective declared) (bare values)) :=
      ⟨own, evaluates, congrArg _ hown⟩
    exact ⟨shares'.share descends.reached hvalue, hvalue⟩
  done _ _ values ctx _ _ shares values' ctx' h := by
    obtain ⟨hok, rfl⟩ := Prod.mk.inj h
    obtain rfl := Except.ok.inj hok
    exact ⟨shares, [], .nil, rfl⟩
  failed _ _ _ _ _ _ _ _ _ _ _ _ _ _ _ _ _ h := nomatch h
  next _ _ spec specs values _ _ t p ctx' u _ h ht hrest descends shares values' ctx'' hvalues := by
    obtain ⟨name, declared⟩ := spec
    obtain ⟨shares', own, evaluates, hown⟩ :=
      h (descends _ List.mem_cons_self) shares p ctx' ht
    obtain ⟨shares'', entries, hentries, hbare⟩ :=
      hrest (fun _ hspec => descends _ (List.mem_cons_of_mem _ hspec)) shares' values' ctx'' hvalues
    refine ⟨shares'', _, .cons evaluates hentries, ?_⟩
    rw [hbare, bare_set, hown]
    rfl

end Resolver

/-! ## Orders of parameters -/

section Orders

variable {chain : OverrideChain σ κ ν} {specs specs' : List (DependencySpec σ κ ν)}
  {give : Giving σ κ ν} {limit : Nat} {view : RequestView} {s : Session σ κ}

/-- A resolution that succeeds binds the values. -/
theorem Functional.binds (h : Functional chain specs give) {values : Fields (Product ν)}
    (hvalues : (resolve chain limit specs (.new view) s).result.1 = .ok values) :
    ∃ entries, Evaluates chain give view specs entries ∧ bare values = Fields.ofList entries := by
  rw [resolve_result] at hvalues
  have binds := (Resolver.binds h limit view).each limit [] specs .empty (.new view) s
    (fun _ hspec => .top hspec) (.new view)
  exact (binds values _ (Prod.ext hvalues rfl)).2

/-- A resolution that stops is obstructed. -/
theorem Functional.obstructed (h : Functional chain specs give) {stop : Stop DispatchError}
    (hstop : (resolve chain limit specs (.new view) s).result.1 = .error stop) :
    ∃ e, stop = .failed e ∧ Obstructed chain specs limit e := by
  rcases resolve_obstructed hstop with obstructed | ⟨i, invokes, fails⟩
  · exact obstructed
  · have reached := invokes.reached fun _ hspec => .top hspec
    exact absurd fails (h.function _ reached).not_fails

/-- Where the parameters have values no chain repeats a factory. -/
theorem Functional.acyclic (h : Functional chain specs give) {entries : List (String × ν)}
    (evaluates : Evaluates chain give view specs entries) : Acyclic chain specs := by
  intro path spec descends hid
  have hacc : Acc (fun f other => Needs chain other f) (chain.effective spec.2) := by
    clear hid
    induction descends with
    | top hspec => exact evaluates.acc _ hspec
    | deeper _ hspec ih => exact ih.inv ⟨_, hspec, rfl⟩
  -- the factory of the same identity above is this one, so the chain between them is a cycle
  obtain ⟨f, reached, hf, needs⟩ := descends.above _ hid
  obtain rfl := h.copies f _ reached descends.reached hf
  exact not_transGen_of_acc hacc needs

/-- Where no chain repeats a factory or is too long a resolution succeeds. -/
theorem Functional.succeeds (h : Functional chain specs give) (acyclic : Acyclic chain specs)
    (shallow : Shallow chain specs limit) :
    ∃ values, (resolve chain limit specs (.new view) s).result.1 = .ok values := by
  rcases hresult : (resolve chain limit specs (.new view) s).result.1 with e | values
  · obtain ⟨_, -, obstructed⟩ := h.obstructed hresult
    cases obstructed with
    | cycle descends hid => exact absurd hid (acyclic _ _ descends)
    | depth descends hlength =>
      have hlt := shallow _ _ descends
      omega
  · exact ⟨values, rfl⟩

/-- Where a chain repeats a factory a resolution fails. -/
theorem Functional.fails (h : Functional chain specs give) (cyclic : ¬ Acyclic chain specs) :
    ∃ e, (resolve chain limit specs (.new view) s).result.1 = .error (.failed e) := by
  rcases hresult : (resolve chain limit specs (.new view) s).result.1 with stop | values
  · obtain ⟨e, rfl, -⟩ := h.obstructed hresult
    exact ⟨e, rfl⟩
  · obtain ⟨entries, evaluates, -⟩ := h.binds hresult
    exact absurd (h.acyclic evaluates) cyclic

end Orders

/-- How the resolutions of parameters in two orders compare. -/
structure Reorders (chain : OverrideChain σ κ ν) (limit : Nat)
    (specs specs' : List (DependencySpec σ κ ν)) (view : RequestView) (s s' : Session σ κ) :
    Prop where
  /-- If both succeed they bind the same values. -/
  same : ∀ values values', (resolve chain limit specs (.new view) s).result.1 = .ok values →
    (resolve chain limit specs' (.new view) s').result.1 = .ok values' → bare values = bare values'
  /-- Both succeed if no chain repeats a factory or is too long. -/
  succeed : Acyclic chain specs → Shallow chain specs limit →
    (∃ values, (resolve chain limit specs (.new view) s).result.1 = .ok values) ∧
      ∃ values, (resolve chain limit specs' (.new view) s').result.1 = .ok values
  /-- Both fail if a chain repeats a factory. -/
  fail : ¬ Acyclic chain specs →
    (∃ e, (resolve chain limit specs (.new view) s).result.1 = .error (.failed e)) ∧
      ∃ e, (resolve chain limit specs' (.new view) s').result.1 = .error (.failed e)
  /-- If only one succeeds, the other meets a chain that is too long. -/
  deep : ∀ values stop, (resolve chain limit specs (.new view) s).result.1 = .ok values →
    (resolve chain limit specs' (.new view) s').result.1 = .error stop →
      ¬ Shallow chain specs limit ∧ ∃ name, stop = .failed (.internal (.nestingTooDeep limit name))

/-- Resolving parameters in another order binds the same values, and what succeeds in one order
fails in another only for the bound on chains. -/
theorem resolve_reorders {chain : OverrideChain σ κ ν} (limit : Nat)
    {specs specs' : List (DependencySpec σ κ ν)} {give : Giving σ κ ν}
    (names : (specs.map Prod.fst).Nodup) (order : specs.Perm specs')
    (functional : Functional chain specs give) (view : RequestView) (s s' : Session σ κ) :
    Reorders chain limit specs specs' view s s' := by
  have functional' : Functional chain specs' give := functional.mono order.symm.subset
  have back {path : List FactoryId} {spec : DependencySpec σ κ ν}
      (descends : Descends chain specs' path spec) : Descends chain specs path spec :=
    descends.mono order.symm.subset
  have acyclic' : Acyclic chain specs' ↔ Acyclic chain specs :=
    ⟨fun h path spec descends => h path spec (descends.mono order.subset),
      fun h path spec descends => h path spec (back descends)⟩
  constructor
  case same =>
    intro values values' hvalues hvalues'
    obtain ⟨entries, evaluates, hbare⟩ := functional.binds hvalues
    obtain ⟨entries', evaluates', hbare'⟩ := functional'.binds hvalues'
    -- the values do not depend on the order, as `Evaluates` has no resolver in it
    obtain ⟨reordered, evaluates'', hentries⟩ := evaluates.perm order
    obtain rfl := evaluates'.unique evaluates''
    rw [hbare, hbare', Fields.ofList_perm hentries (evaluates.names ▸ names)]
  case succeed =>
    intro acyclic shallow
    exact ⟨functional.succeeds acyclic shallow, functional'.succeeds (acyclic'.mpr acyclic)
      fun path spec descends => shallow path spec (back descends)⟩
  case fail =>
    intro cyclic
    exact ⟨functional.fails cyclic, functional'.fails (mt acyclic'.mp cyclic)⟩
  case deep =>
    intro values stop hvalues hstop
    obtain ⟨entries, evaluates, -⟩ := functional.binds hvalues
    have acyclic := functional.acyclic evaluates
    obtain ⟨e, rfl, obstructed⟩ := functional'.obstructed hstop
    -- a cycle would have kept the first order from succeeding
    cases obstructed with
    | cycle descends hid => exact absurd hid (acyclic _ _ (back descends))
    | @depth path spec descends hlength =>
      refine ⟨fun shallow => ?_, spec.1, rfl⟩
      have hlt := shallow path spec (back descends)
      omega

/-! ## Orders that differ -/

/-- Factories that give the number of their dependencies. -/
def counting : Giving Unit Unit Nat := fun _ _ values => values.names.length

/-- A factory that gives the number of its dependencies. -/
def counter (id : FactoryId) (name : String) : Factory Unit Unit Nat :=
  .new id name .async fun args => Effect.value (.immediate args.values.names.length)

/-- A connection pool. -/
def connectionPool : Factory Unit Unit Nat := counter 1 "pool"

/-- A user, who is looked up through the pool. -/
def pooledUser : Factory Unit Unit Nat := (counter 2 "user").dependsOn "pool" connectionPool

/-- A session. -/
def plainSession : Factory Unit Unit Nat := counter 3 "session"

/-- A copy of the session that declares the pool. -/
def pooledSession : Factory Unit Unit Nat := plainSession.dependsOn "pool" connectionPool

/-- The pool and a user. -/
def poolFirst : List (DependencySpec Unit Unit Nat) :=
  [("pool", connectionPool), ("user", pooledUser)]

/-- The two copies of the session. -/
def plainFirst : List (DependencySpec Unit Unit Nat) :=
  [("plain", plainSession), ("pooled", pooledSession)]

/-- A resolution of these, in a request without anything. -/
def resolveCounters (limit : Nat) (specs : List (DependencySpec Unit Unit Nat)) :
    Except (Stop DispatchError) (Fields Nat) :=
  (resolve .empty limit specs (.new (.bind (.new "GET" "/") [])) ⟨(), (), []⟩).result.1.map bare

theorem counter_isFunction (id : FactoryId) (name : String) :
    (counter id name).IsFunction counting := fun args around world => by
  simp only [counting, bare, Fields.names_map]
  rfl

theorem reached_poolFirst {f : Factory Unit Unit Nat} (h : Reached .empty poolFirst f) :
    f = connectionPool ∨ f = pooledUser := by
  refine h.of_closed (P := fun f => f = connectionPool ∨ f = pooledUser) (fun spec hspec => ?_)
    fun f hf spec hspec => ?_
  · rcases List.mem_cons.mp hspec with rfl | hspec
    · exact .inl rfl
    · obtain rfl := List.mem_singleton.mp hspec
      exact .inr rfl
  · rcases hf with rfl | rfl
    · exact absurd hspec List.not_mem_nil
    · obtain rfl := List.mem_singleton.mp hspec
      exact .inl rfl

theorem reached_plainFirst {f : Factory Unit Unit Nat} (h : Reached .empty plainFirst f) :
    f = connectionPool ∨ f = plainSession ∨ f = pooledSession := by
  refine h.of_closed (P := fun f => f = connectionPool ∨ f = plainSession ∨ f = pooledSession)
    (fun spec hspec => ?_) fun f hf spec hspec => ?_
  · rcases List.mem_cons.mp hspec with rfl | hspec
    · exact .inr (.inl rfl)
    · obtain rfl := List.mem_singleton.mp hspec
      exact .inr (.inr rfl)
  · rcases hf with rfl | rfl | rfl
    · exact absurd hspec List.not_mem_nil
    · exact absurd hspec List.not_mem_nil
    · obtain rfl := List.mem_singleton.mp hspec
      exact .inl rfl

/-- The pool and a user are functions, and there are no different copies of them. -/
theorem poolFirst_functional : Functional .empty poolFirst counting where
  shared f hf := by
    rcases reached_poolFirst hf with rfl | rfl <;> rfl
  function f hf := by
    rcases reached_poolFirst hf with rfl | rfl
    · exact counter_isFunction 1 "pool"
    · exact counter_isFunction 2 "user"
  copies f g hf hg hid := by
    rcases reached_poolFirst hf with rfl | rfl <;> rcases reached_poolFirst hg with rfl | rfl <;>
      first | rfl | cases hid

/-- The pool and a user in two orders. -/
theorem poolFirst_reorders :
    Functional .empty poolFirst counting ∧
      Reorders .empty 1 poolFirst poolFirst.reverse (.bind (.new "GET" "/") []) ⟨(), (), []⟩
        ⟨(), (), []⟩ :=
  ⟨poolFirst_functional,
    resolve_reorders 1 (by decide) (List.reverse_perm _).symm poolFirst_functional _ _ _⟩

/-- Where a chain may have one factory only, the user is there if the pool is there before; and a
session is the copy that is resolved first, whichever was declared. -/
theorem order_decides :
    ((∀ f, Reached .empty poolFirst f → f.usesCache ∧ f.IsFunction counting) ∧
      resolveCounters 1 poolFirst = .ok (.ofList [("pool", 0), ("user", 1)]) ∧
      resolveCounters 1 poolFirst.reverse = .error (.failed (.internal (.nestingTooDeep 1 "pool")))) ∧
    (∀ f, Reached .empty plainFirst f → f.usesCache ∧ f.IsFunction counting) ∧
      resolveCounters 32 plainFirst = .ok (.ofList [("plain", 0), ("pooled", 0)]) ∧
      resolveCounters 32 plainFirst.reverse = .ok (.ofList [("plain", 1), ("pooled", 1)]) := by
  refine ⟨⟨fun f hf => ?_, by decide +kernel, by decide +kernel⟩, fun f hf => ?_,
    by decide +kernel, by decide +kernel⟩
  · exact ⟨poolFirst_functional.shared f hf, poolFirst_functional.function f hf⟩
  · rcases reached_plainFirst hf with rfl | rfl | rfl
    · exact ⟨rfl, counter_isFunction 1 "pool"⟩
    · exact ⟨rfl, counter_isFunction 3 "session"⟩
    · exact ⟨rfl, counter_isFunction 3 "session"⟩

end RequestDispatch
