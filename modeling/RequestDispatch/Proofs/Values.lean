import RequestDispatch.Proofs.Sharing

/-!
# The values of a resolution

`Resolver.Takes` says which parameter takes which value in a resolution, at the top or below it.
Within one resolution a factory is called at most once to give a shared value, and every parameter
that takes a shared value of it takes that one (`resolve_shares`).
-/

namespace RequestDispatch

variable {σ κ ν : Type}

/-! ## The values that parameters take -/

/-- In resolving parameters, a parameter takes a value: it is one of them, or it is a parameter of a
factory that is called for one of them, however far below. -/
inductive Resolver.Takes (chain : OverrideChain σ κ ν) (limit : Nat) :
    Nat → List FactoryId → List (DependencySpec σ κ ν) → Context σ κ ν → Session σ κ →
      DependencySpec σ κ ν → Product ν → Prop where
  /-- The first parameter. -/
  | here {levels : Nat} {path : List FactoryId} {spec : DependencySpec σ κ ν}
      {specs : List (DependencySpec σ κ ν)} {ctx : Context σ κ ν} {s : Session σ κ} {p : Product ν}
      (h : (parameter chain limit levels path spec ctx s).result.1 = .ok p) :
      Takes chain limit levels path (spec :: specs) ctx s spec p
  /-- A parameter that the factory of the first one needs. -/
  | inside {levels : Nat} {path : List FactoryId} {name : String} {declared : Factory σ κ ν}
      {specs : List (DependencySpec σ κ ν)} {ctx : Context σ κ ν} {s : Session σ κ}
      {inner : DependencySpec σ κ ν} {p : Product ν}
      (hnone : ctx.cached? (chain.effective declared) = none)
      (hpath : (chain.effective declared).id ∉ path)
      (h : Takes chain limit levels (path ++ [(chain.effective declared).id])
        (chain.effective declared).dependencies ctx s inner p) :
      Takes chain limit (levels + 1) path ((name, declared) :: specs) ctx s inner p
  /-- A parameter after the first one, which has its value. -/
  | later {levels : Nat} {path : List FactoryId} {spec : DependencySpec σ κ ν}
      {specs : List (DependencySpec σ κ ν)} {ctx ctx' : Context σ κ ν} {s : Session σ κ}
      {t : Step σ κ (Resolved σ κ ν (Product ν))} {q : Product ν} {inner : DependencySpec σ κ ν}
      {p : Product ν} (ht : parameter chain limit levels path spec ctx s = t)
      (hq : t.result = (.ok q, ctx'))
      (h : Takes chain limit levels path specs ctx' t.session inner p) :
      Takes chain limit levels path (spec :: specs) ctx s inner p

namespace Resolver.Takes

variable {chain : OverrideChain σ κ ν} {limit levels : Nat} {path : List FactoryId}
  {spec inner : DependencySpec σ κ ν} {specs : List (DependencySpec σ κ ν)}
  {ctx ctx' : Context σ κ ν} {s : Session σ κ} {p q : Product ν}

/-- A value is taken for the first parameter or for those after it. -/
theorem cons_cases {t : Step σ κ (Resolved σ κ ν (Product ν))}
    (h : Takes chain limit levels path (spec :: specs) ctx s inner p)
    (ht : parameter chain limit levels path spec ctx s = t) :
    Takes chain limit levels path [spec] ctx s inner p ∨
      ∃ q ctx', t.result = (.ok q, ctx') ∧
        Takes chain limit levels path specs ctx' t.session inner p := by
  cases h with
  | here h => exact .inl (.here h)
  | inside hnone hpath h => exact .inl (.inside hnone hpath h)
  | later ht' hq h =>
    obtain rfl := ht.symm.trans ht'
    exact .inr ⟨_, _, hq, h⟩

/-- A value is taken by a parameter itself or below it. -/
theorem single_cases {name : String} {declared : Factory σ κ ν}
    (h : Takes chain limit levels path [(name, declared)] ctx s inner p) :
    (inner = (name, declared) ∧
      (parameter chain limit levels path (name, declared) ctx s).result.1 = .ok p) ∨
    ctx.cached? (chain.effective declared) = none ∧ (chain.effective declared).id ∉ path ∧
      ∃ below, levels = below + 1 ∧
        Takes chain limit below (path ++ [(chain.effective declared).id])
          (chain.effective declared).dependencies ctx s inner p := by
  cases h with
  | here h => exact .inl ⟨rfl, h⟩
  | inside hnone hpath h => exact .inr ⟨hnone, hpath, _, rfl, h⟩
  | later _ _ h => exact nomatch h

end Resolver.Takes

/-- The values that resolving gives are those that its parameters took. -/
theorem Resolver.each_takes (chain : OverrideChain σ κ ν) (limit levels : Nat)
    (path : List FactoryId) (specs : List (DependencySpec σ κ ν)) (values : Fields (Product ν))
    (ctx : Context σ κ ν) (s : Session σ κ) {given : Fields (Product ν)}
    (hgiven : (each (parameter chain limit levels path) specs values ctx s).result.1 = .ok given) :
    ∀ entry ∈ given, entry ∈ values ∨ ∃ spec ∈ specs, spec.1 = entry.1 ∧
      Takes chain limit levels path specs ctx s spec entry.2 := by
  -- on the parameters, with the values of those before
  induction specs generalizing values ctx s with
  | nil =>
    rw [each_nil] at hgiven
    obtain rfl := Except.ok.inj hgiven
    exact fun entry he => .inl he
  | cons spec specs ih =>
    rcases ht : (parameter chain limit levels path spec ctx s).result with ⟨e | p, ctx'⟩
    · rw [each_failed rfl ht] at hgiven
      exact nomatch hgiven
    · rw [each_next rfl ht] at hgiven
      intro entry he
      rcases ih _ _ _ hgiven entry he with he | ⟨spec', hspec, hname, takes⟩
      · rcases Fields.mem_set he with rfl | he
        · exact .inr ⟨spec, List.mem_cons_self, rfl, .here (by rw [ht])⟩
        · exact .inl he
      · exact .inr ⟨spec', List.mem_cons_of_mem _ hspec, hname, .later rfl ht takes⟩

/-! ## One value for one invocation -/

/-- Products that are all there is, as far as a context knows: no invocation gave two of them. -/
structure Known (products : List (Product ν)) (ctx : Context σ κ ν) : Prop where
  one : ∀ p ∈ products, ∀ q ∈ products, p.origin = q.origin → p = q
  bounded : ∀ p ∈ products, p.origin < ctx.invocations
  cached : ∀ id p, ctx.cache.lookup id = some p → p ∈ products

namespace Known

variable {products : List (Product ν)} {ctx : Context σ κ ν}

theorem new (view : RequestView) : Known [] (.new view : Context σ κ ν) :=
  ⟨nofun, nofun, nofun⟩

/-- An invocation that gives nothing makes nothing known. -/
theorem invoked (h : Known products ctx) : Known products ctx.invoked where
  one := h.one
  bounded p hp := by
    have hlt := h.bounded p hp
    rw [Context.invoked_invocations]
    omega
  cached := h.cached

/-- The product of the next invocation becomes known. -/
theorem cons {ctx' : Context σ κ ν} {p : Product ν} (h : Known products ctx)
    (hp : p.origin = ctx.invocations) (hinvocations : ctx'.invocations = ctx.invocations + 1)
    (hlookup : ∀ id q, ctx'.cache.lookup id = some q → q = p ∨ ctx.cache.lookup id = some q) :
    Known (p :: products) ctx' where
  one q hq r hr heq := by
    -- a known product is of an earlier invocation than the new one
    rcases List.mem_cons.mp hq with rfl | hq' <;> rcases List.mem_cons.mp hr with rfl | hr'
    · rfl
    · have hlt := h.bounded r hr'
      omega
    · have hlt := h.bounded q hq'
      omega
    · exact h.one q hq' r hr' heq
  bounded q hq := by
    rw [hinvocations]
    rcases List.mem_cons.mp hq with rfl | hq
    · omega
    · have hlt := h.bounded q hq
      omega
  cached id q hq := by
    rcases hlookup id q hq with rfl | hq
    · exact List.mem_cons_self
    · exact List.mem_cons_of_mem _ (h.cached id q hq)

end Known

namespace Resolver

variable {chain : OverrideChain σ κ ν}

/-- A part of a resolution adds to the known products so that the values taken in it are among them;
the journal has their receipts. -/
def Reveals {α : Type} (chain : OverrideChain σ κ ν)
    (takes : DependencySpec σ κ ν → Product ν → Prop) (ctx : Context σ κ ν)
    (t : Step σ κ (Resolved σ κ ν α)) : Prop :=
  ∀ products, Known products ctx → ∃ products', products ⊆ products' ∧
    Known products' t.result.2 ∧ ∀ spec p, takes spec p →
      p ∈ products' ∧ receiptEvent spec.1 (chain.effective spec.2) p.origin ∈ t.journal

private theorem produce_reveals (name : String) (f : Factory σ κ ν) (values : Fields (Product ν))
    {ctx : Context σ κ ν} (s : Session σ κ) {products : List (Product ν)} (h : Known products ctx) :
    let u := produce name f values ctx s
    ∃ products', products ⊆ products' ∧ Known products' u.result.2 ∧
      ∀ p, u.result.1 = .ok p → p ∈ products' ∧ receiptEvent name f p.origin ∈ u.journal := by
  intro u
  rcases produce_cases name f values ctx s with
    ⟨e, -, heq⟩ | ⟨outcome, t, -, -, ⟨e, -, heq⟩ | ⟨normalized, -, heq⟩⟩
  · simp only [u, heq]
    exact ⟨products, List.Subset.refl _, h.invoked, nofun⟩
  · simp only [u, heq]
    exact ⟨products, List.Subset.refl _, h.invoked, nofun⟩
  · obtain ⟨ctx', hsettle, hinvocations, hlookup⟩ :=
      settle_shares f ctx.invocations normalized ctx.invoked
    have known : Known (⟨ctx.invocations, normalized.value⟩ :: products) ctx' := by
      refine h.cons rfl hinvocations fun id q hq => ?_
      rw [hlookup] at hq
      split at hq
      · exact .inl (Option.some.inj hq).symm
      · exact .inr hq
    simp only [u, heq, hsettle]
    refine ⟨_, List.subset_cons_self _ _, known, fun p hp => ?_⟩
    obtain rfl := Except.ok.inj hp
    exact ⟨List.mem_cons_self, by simp⟩

/-- Every way of the resolver reveals the values that are taken. -/
theorem reveals (chain : OverrideChain σ κ ν) (limit : Nat) :
    Cases chain limit
      (fun levels path spec ctx s t =>
        Reveals chain (Takes chain limit levels path [spec] ctx s) ctx t)
      (fun levels path specs _ ctx s t =>
        Reveals chain (Takes chain limit levels path specs ctx s) ctx t) where
  shared _ path name declared ctx s p hp products known := by
    refine ⟨products, List.Subset.refl _, known, fun spec q takes => ?_⟩
    rcases takes.single_cases with ⟨rfl, hq⟩ | ⟨hnone, -⟩
    · rw [parameter_shared hp] at hq
      obtain rfl := Except.ok.inj hq
      exact ⟨known.cached _ _ (Context.cached?_eq_some.mp hp).2, by simp⟩
    · rw [hp] at hnone
      exact nomatch hnone
  cyclic _ _ name declared ctx s hnone hpath products known := by
    refine ⟨products, List.Subset.refl _, known, fun spec q takes => ?_⟩
    rcases takes.single_cases with ⟨-, hq⟩ | ⟨-, hpath', -⟩
    · rw [parameter_cyclic hnone hpath] at hq
      exact nomatch hq
    · exact absurd hpath hpath'
  deep _ name declared ctx s hnone hpath products known := by
    refine ⟨products, List.Subset.refl _, known, fun spec q takes => ?_⟩
    rcases takes.single_cases with ⟨-, hq⟩ | ⟨-, -, below, hbelow, -⟩
    · rw [parameter_deep hnone hpath] at hq
      exact nomatch hq
    · omega
  unmet _ _ name declared ctx s t e ctx' hnone hpath heq h ht products known := by
    obtain ⟨products', hsub, known', htakes⟩ := h products known
    rw [ht] at known'
    refine ⟨products', hsub, known', fun spec q takes => ?_⟩
    rcases takes.single_cases with ⟨-, hq⟩ | ⟨-, -, below, hbelow, takes'⟩
    · rw [parameter_unmet hnone hpath heq ht] at hq
      exact nomatch hq
    · obtain rfl := Nat.succ.inj hbelow
      obtain ⟨hmem, hreceipt⟩ := htakes spec q takes'
      exact ⟨hmem, List.mem_cons_of_mem _ hreceipt⟩
  called _ _ name declared ctx s t values ctx' u hnone hpath heq h ht hu products known := by
    -- first the dependencies of the factory, then its own value
    obtain ⟨products', hsub, known', htakes⟩ := h products known
    rw [ht] at known'
    obtain ⟨products'', hsub', known'', hown⟩ :=
      produce_reveals name (chain.effective declared) values t.session known'
    rw [hu] at known'' hown
    refine ⟨products'', List.Subset.trans hsub hsub', known'', fun spec q takes => ?_⟩
    rcases takes.single_cases with ⟨rfl, hq⟩ | ⟨-, -, below, hbelow, takes'⟩
    · rw [parameter_called hnone hpath heq ht hu] at hq
      obtain ⟨hmem, hreceipt⟩ := hown q hq
      exact ⟨hmem, by simp [hreceipt]⟩
    · obtain rfl := Nat.succ.inj hbelow
      obtain ⟨hmem, hreceipt⟩ := htakes spec q takes'
      exact ⟨hsub' hmem, by simp [hreceipt]⟩
  done _ _ _ ctx _ products known := ⟨products, List.Subset.refl _, known, nofun⟩
  failed _ _ spec specs _ ctx s t e ctx' heq h ht products known := by
    obtain ⟨products', hsub, known', htakes⟩ := h products known
    rw [ht] at known'
    refine ⟨products', hsub, known', fun inner q takes => ?_⟩
    rcases takes.cons_cases heq with takes | ⟨_, _, hok, -⟩
    · exact htakes inner q takes
    · rw [ht] at hok
      exact nomatch hok
  next _ _ spec specs _ ctx s t p ctx' u heq h ht hrest products known := by
    obtain ⟨products', hsub, known', htakes⟩ := h products known
    rw [ht] at known'
    obtain ⟨products'', hsub', known'', htakes'⟩ := hrest products' known'
    refine ⟨products'', List.Subset.trans hsub hsub', known'', fun inner q takes => ?_⟩
    rcases takes.cons_cases heq with takes | ⟨_, _, hok, takes⟩
    · obtain ⟨hmem, hreceipt⟩ := htakes inner q takes
      exact ⟨hsub' hmem, List.mem_append_left _ hreceipt⟩
    · obtain rfl : ctx' = _ := congrArg Prod.snd (ht.symm.trans hok)
      obtain ⟨hmem, hreceipt⟩ := htakes' inner q takes
      exact ⟨hmem, List.mem_append_right _ hreceipt⟩

end Resolver

/-! ## A resolution as a whole -/

/-- What holds of a resolution of parameters: of its calls and receipts, of the values that
parameters take in it, at the top and below, and of what it gives. -/
structure OneValue (chain : OverrideChain σ κ ν) (specs : List (DependencySpec σ κ ν))
    (takes : DependencySpec σ κ ν → Product ν → Prop)
    (t : Step σ κ (Resolved σ κ ν (Fields (Product ν)))) : Prop extends
    Ledger chain t.journal where
  /-- A value that is taken is received, by the journal. -/
  recorded : ∀ spec p, takes spec p →
    Resolver.receiptEvent spec.1 (chain.effective spec.2) p.origin ∈ t.journal
  /-- An invocation gives one value. -/
  one : ∀ spec p spec' q, takes spec p → takes spec' q → p.origin = q.origin → p = q
  /-- Parameters that take a shared value of a factory take the very same. -/
  same : ∀ spec p spec' q, takes spec p → takes spec' q →
    (chain.effective spec.2).usesCache → (chain.effective spec'.2).usesCache →
    (chain.effective spec.2).id = (chain.effective spec'.2).id → p = q
  /-- A parameter that opted out of sharing takes no value that others share. -/
  apart : ∀ spec p spec' q, takes spec p → takes spec' q →
    (chain.effective spec.2).usesCache → (chain.effective spec'.2).usesCache = false →
    p.origin ≠ q.origin
  /-- If resolving succeeds, it gives what the parameters took. -/
  given : ∀ values, t.result.1 = .ok values →
    Receives chain t.journal specs .empty (Resolver.origins values) ∧
    ∀ entry ∈ values, ∃ spec ∈ specs, spec.1 = entry.1 ∧ takes spec entry.2

/-- The journal decides from which invocations values are taken. -/
private theorem OneValue.of_ledger {chain : OverrideChain σ κ ν}
    {specs : List (DependencySpec σ κ ν)} {takes : DependencySpec σ κ ν → Product ν → Prop}
    {t : Step σ κ (Resolved σ κ ν (Fields (Product ν)))} (ledger : Ledger chain t.journal)
    (recorded : ∀ spec p, takes spec p →
      Resolver.receiptEvent spec.1 (chain.effective spec.2) p.origin ∈ t.journal)
    (one : ∀ spec p spec' q, takes spec p → takes spec' q → p.origin = q.origin → p = q)
    (given : ∀ values, t.result.1 = .ok values →
      Receives chain t.journal specs .empty (Resolver.origins values) ∧
      ∀ entry ∈ values, ∃ spec ∈ specs, spec.1 = entry.1 ∧ takes spec entry.2) :
    OneValue chain specs takes t where
  toLedger := ledger
  recorded := recorded
  one := one
  same spec p spec' q hp hq hcache hcache' hid := by
    have hreceipt := recorded spec p hp
    have hreceipt' := recorded spec' q hq
    simp only [Resolver.receiptEvent, hcache, hcache', ← hid] at hreceipt hreceipt'
    exact one spec p spec' q hp hq (ledger.same hreceipt hreceipt')
  apart spec p spec' q hp hq hcache hcache' := by
    have hreceipt := recorded spec p hp
    have hreceipt' := recorded spec' q hq
    simp only [Resolver.receiptEvent, hcache, hcache'] at hreceipt hreceipt'
    exact ledger.apart hreceipt hreceipt'
  given := given

/-- Resolving with nothing resolved before calls a factory at most once for a shared value, and
gives every parameter that takes a shared value of it that one. -/
theorem resolve_shares (chain : OverrideChain σ κ ν) (limit : Nat)
    (specs : List (DependencySpec σ κ ν)) (view : RequestView) (s : Session σ κ) :
    OneValue chain specs (Resolver.Takes chain limit limit [] specs (.new view) s)
      (resolve chain limit specs (.new view) s) := by
  have upholds :=
    (Resolver.upholds chain limit).each limit [] specs .empty (.new view) s [] (.new view)
  rw [List.nil_append] at upholds
  have reveals := (Resolver.reveals chain limit).each limit [] specs .empty (.new view) s
  obtain ⟨products, -, known, htakes⟩ := reveals [] (.new view)
  have one : ∀ spec p spec' q, Resolver.Takes chain limit limit [] specs (.new view) s spec p →
      Resolver.Takes chain limit limit [] specs (.new view) s spec' q →
      p.origin = q.origin → p = q := fun spec p spec' q hp hq =>
    known.one p (htakes spec p hp).1 q (htakes spec' q hq).1
  rcases resolve_cases chain limit specs (.new view) s with
    ⟨_, _, heq⟩ | ⟨_, _, heq⟩ | ⟨_, hpanic, heq⟩ <;> rw [heq]
  · refine .of_ledger upholds.ledger (fun spec p hp => (htakes spec p hp).2) one
      fun values hvalues => ⟨upholds.given_of_ok hvalues, fun entry he => ?_⟩
    have hentry :=
      Resolver.each_takes chain limit limit [] specs .empty (.new view) s hvalues entry he
    exact hentry.resolve_left List.not_mem_nil
  · -- the release at the end adds no call and no receipt
    refine .of_ledger (upholds.ledger.release _) (fun spec p hp => ?_) one nofun
    exact List.mem_append_left _ (htakes spec p hp).2
  · refine .of_ledger upholds.ledger (fun spec p hp => (htakes spec p hp).2) one
      fun values hvalues => ?_
    rw [hpanic] at hvalues
    exact nomatch hvalues

end RequestDispatch
