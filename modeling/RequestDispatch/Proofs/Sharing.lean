import RequestDispatch.Proofs.Fields
import RequestDispatch.Proofs.Ledger

/-!
# Shared values

`Sharing` adds to a ledger what the shared values of a context have to do with the journal so far;
every way of the resolver upholds it. A call of a factory can only add a shared value because none
is there: the path down to a call keeps its factories from being called below.
-/

namespace RequestDispatch

variable {σ κ ν : Type}

/-! ## The shared values of a context -/

/-- A journal and the shared values of a context that belong together. -/
structure Sharing (chain : OverrideChain σ κ ν) (journal : List Event) (ctx : Context σ κ ν) : Prop
    extends Ledger chain journal where
  /-- Every call has an earlier number than the next one. -/
  bounded : ∀ origin ∈ invocations journal, origin < ctx.invocations
  /-- What a call gave to be shared is there. -/
  kept : ∀ id origin arguments, .invoked id true origin arguments ∈ journal →
    ∃ value, ctx.cache.lookup id = some ⟨origin, value⟩
  /-- What is there was given by a call to be shared. -/
  cached : ∀ id p, ctx.cache.lookup id = some p →
    ∃ arguments, .invoked id true p.origin arguments ∈ journal

namespace Sharing

variable {chain : OverrideChain σ κ ν} {journal : List Event} {ctx : Context σ κ ν}

/-- Nothing is shared at first. -/
theorem new (view : RequestView) : Sharing chain [] (.new view) where
  toLedger := .nil
  bounded _ h := absurd h List.not_mem_nil
  kept _ _ _ h := absurd h List.not_mem_nil
  cached _ _ h := nomatch h

theorem append_other (h : Sharing chain journal ctx) {other : List Event}
    (hother : ∀ e ∈ other, ¬ e.isExchange) : Sharing chain (journal ++ other) ctx where
  toLedger := h.toLedger.append_other hother
  bounded origin ho := by
    rw [invocations_append, invocations_other hother, List.append_nil] at ho
    exact h.bounded origin ho
  kept id origin arguments he := by
    rcases List.mem_append.mp he with he | he
    · exact h.kept id origin arguments he
    · exact absurd rfl (hother _ he)
  cached id p hp := by
    obtain ⟨arguments, he⟩ := h.cached id p hp
    exact ⟨arguments, List.mem_append_left _ he⟩

theorem append_event (h : Sharing chain journal ctx) {e : Event} (he : e.isExchange = false) :
    Sharing chain (journal ++ [e]) ctx :=
  h.append_other fun e' he' => by rw [List.mem_singleton.mp he', he]; exact Bool.false_ne_true

/-- A parameter receives a shared value that is there. -/
theorem receive (h : Sharing chain journal ctx) {name : String} {f : Factory σ κ ν} {p : Product ν}
    (hp : ctx.cached? f = some p) :
    Sharing chain (journal ++ [Resolver.receiptEvent name f p.origin]) ctx := by
  obtain ⟨hcache, hlookup⟩ := Context.cached?_eq_some.mp hp
  rw [Resolver.receiptEvent, hcache]
  refine ⟨h.toLedger.receive (h.cached _ _ hlookup) fun hown => ?_, fun origin ho => ?_,
    fun id origin arguments he => ?_, fun id p hp => ?_⟩
  · cases hown
  · rw [invocations_append] at ho
    exact h.bounded origin (by simpa [invocations, Event.invocation?] using ho)
  · exact h.kept id origin arguments (by simpa using he)
  · obtain ⟨arguments, he⟩ := h.cached id p hp
    exact ⟨arguments, List.mem_append_left _ he⟩

/-- If nothing is shared of a factory, it was not called for a shared value. -/
theorem countP_eq_zero (h : Sharing chain journal ctx) {id : FactoryId}
    (hnone : ctx.cache.lookup id = none) : journal.countP (Event.isSharedCall id) = 0 := by
  refine List.countP_eq_zero.mpr fun e he hcall => ?_
  cases e <;> simp only [Event.isSharedCall, Bool.and_eq_true, beq_iff_eq, reduceCtorEq] at hcall
  obtain ⟨rfl, rfl⟩ := hcall
  obtain ⟨value, hsome⟩ := h.kept _ _ _ he
  rw [hnone] at hsome
  cases hsome

end Sharing

/-! ## The ways of the resolver -/

/-- What a part of a resolution on a path upholds, with a journal as it is by then: the ledger, and
if the part gives something, sharing, and that nothing is shared of the factories on the path unless
it was before. -/
inductive Upholds {α : Type} (chain : OverrideChain σ κ ν) (path : List FactoryId)
    (ctx : Context σ κ ν) (journal : List Event) (given : α → Prop) : Resolved σ κ ν α → Prop where
  | stopped {stop : Stop DispatchError} {ctx' : Context σ κ ν} (ledger : Ledger chain journal) :
      Upholds chain path ctx journal given (.error stop, ctx')
  | gave {a : α} {ctx' : Context σ κ ν} (sharing : Sharing chain journal ctx')
      (keeps : ∀ id ∈ path, ctx.cache.lookup id = none → ctx'.cache.lookup id = none)
      (h : given a) : Upholds chain path ctx journal given (.ok a, ctx')

namespace Upholds

variable {α : Type} {chain : OverrideChain σ κ ν} {path : List FactoryId}
  {ctx ctx' : Context σ κ ν} {journal : List Event} {given given' : α → Prop}
  {r : Resolved σ κ ν α}

/-- What is upheld from a context on is upheld from one before it of which it keeps the path. -/
theorem of_keeps (h : Upholds chain path ctx' journal given r)
    (keeps : ∀ id ∈ path, ctx.cache.lookup id = none → ctx'.cache.lookup id = none) :
    Upholds chain path ctx journal given r := by
  cases h with
  | stopped ledger => exact .stopped ledger
  | gave sharing keeps' h =>
    exact .gave sharing (fun id hid hnone => keeps' id hid (keeps id hid hnone)) h

theorem ledger (h : Upholds chain path ctx journal given r) : Ledger chain journal := by
  cases h with
  | stopped ledger => exact ledger
  | gave sharing _ _ => exact sharing.toLedger

theorem given_of_ok (h : Upholds chain path ctx journal given r) {a : α} (ha : r.1 = .ok a) :
    given a := by
  cases h with
  | stopped ledger => exact nomatch ha
  | gave _ _ h => exact Except.ok.inj ha ▸ h

theorem imp (h : Upholds chain path ctx journal given r) (himp : ∀ a, given a → given' a) :
    Upholds chain path ctx journal given' r := by
  cases h with
  | stopped ledger => exact .stopped ledger
  | gave sharing keeps h => exact .gave sharing keeps (himp _ h)

end Upholds

namespace Resolver

variable {chain : OverrideChain σ κ ν}

/-- The values of parameters by invocation. -/
def origins (values : Fields (Product ν)) : Fields Nat :=
  values.map Product.origin

theorem origins_set (values : Fields (Product ν)) (name : String) (p : Product ν) :
    origins (Fields.set name p values) = Fields.set name p.origin (origins values) :=
  Fields.map_set Product.origin values name p

private theorem not_isExchange_of_isObtaining {e : Event} (h : e.isObtaining) : ¬ e.isExchange := by
  cases e <;> simp [Event.isObtaining, Event.isExchange] at h ⊢

section Produce

variable {declared : Factory σ κ ν} {values : Fields (Product ν)}
  {ctx : Context σ κ ν} {before : List Event}

/-- A call of a factory of which nothing is shared, as the ledger has it. -/
private theorem ledger_call (sharing : Sharing chain before ctx)
    (hnone : (chain.effective declared).usesCache →
      ctx.cache.lookup (chain.effective declared).id = none)
    (hreceives :
      Receives chain before (chain.effective declared).dependencies .empty (origins values)) :
    Ledger chain (before ++ [callEvent (chain.effective declared) values ctx]) := by
  have hnew : ctx.invocations ∉ invocations before := fun h => by
    have hlt := sharing.bounded _ h
    omega
  exact sharing.toLedger.invoke hnew (fun hcache => sharing.countP_eq_zero (hnone hcache)) hreceives

/-- The value of a call is taken up: it belongs to the journal with the call and the receipt. -/
private theorem sharing_settle (name : String) (sharing : Sharing chain before ctx)
    (hnone : (chain.effective declared).usesCache →
      ctx.cache.lookup (chain.effective declared).id = none)
    (hreceives :
      Receives chain before (chain.effective declared).dependencies .empty (origins values))
    {obtaining : List Event} (hobtaining : ∀ e ∈ obtaining, ¬ e.isExchange) {value : ν}
    {ctx' : Context σ κ ν} (hinvocations : ctx'.invocations = ctx.invocations + 1)
    (hlookup : ∀ id, ctx'.cache.lookup id =
      if (chain.effective declared).usesCache ∧ id = (chain.effective declared).id then
        some ⟨ctx.invocations, value⟩
      else ctx.cache.lookup id) :
    Sharing chain (before ++ [callEvent (chain.effective declared) values ctx] ++ obtaining ++
      [receiptEvent name (chain.effective declared) ctx.invocations]) ctx' := by
  have ledger := (ledger_call sharing hnone hreceives).append_other hobtaining
  -- the calls of the longer journal are those before and the new one
  have hcalls : ∀ {id shared origin arguments}, .invoked id shared origin arguments ∈ before ++
      [callEvent (chain.effective declared) values ctx] ++ obtaining ++
        [receiptEvent name (chain.effective declared) ctx.invocations] →
      .invoked id shared origin arguments ∈ before ∨
        .invoked id shared origin arguments = callEvent (chain.effective declared) values ctx := by
    intro id shared origin arguments he
    simp only [List.mem_append, List.mem_singleton, receiptEvent, reduceCtorEq, or_false] at he
    rcases he with (he | he) | he
    · exact .inl he
    · exact .inr he
    · exact absurd rfl (hobtaining _ he)
  refine ⟨ledger.receive ⟨origins values, by simp [callEvent, origins]⟩ fun _ hown => ?_,
    fun origin horigin => ?_, fun id origin arguments he => ?_, fun id p hp => ?_⟩
  · -- an earlier receipt is of an earlier call
    obtain ⟨name', id, he⟩ := mem_ownReceipts.mp hown
    simp only [List.mem_append, List.mem_singleton, callEvent, reduceCtorEq, or_false] at he
    rcases he with he | he
    · obtain ⟨arguments, hcall⟩ := sharing.receipts _ _ _ _ he
      have hlt := sharing.bounded _ (mem_invocations.mpr ⟨_, _, _, hcall⟩)
      omega
    · exact hobtaining _ he rfl
  · obtain ⟨id, shared, arguments, he⟩ := mem_invocations.mp horigin
    rw [hinvocations]
    rcases hcalls he with he | he
    · have hlt := sharing.bounded origin (mem_invocations.mpr ⟨_, _, _, he⟩)
      omega
    · rw [(Event.invoked.inj he).2.2.1]
      omega
  · rw [hlookup]
    rcases hcalls he with he | he
    · obtain ⟨value', hsome⟩ := sharing.kept _ _ _ he
      rw [if_neg]
      · exact ⟨value', hsome⟩
      · rintro ⟨hcache, rfl⟩
        rw [hnone hcache] at hsome
        cases hsome
    · obtain ⟨rfl, hcache, rfl, -⟩ := Event.invoked.inj he
      exact ⟨value, if_pos ⟨hcache.symm, rfl⟩⟩
  · rw [hlookup] at hp
    split at hp
    · next h =>
      obtain rfl := Option.some.inj hp
      exact ⟨origins values, by simp [callEvent, origins, h]⟩
    · obtain ⟨arguments, he⟩ := sharing.cached id p hp
      exact ⟨arguments, by simp [he]⟩

/-- A call of a factory of which nothing is shared upholds sharing. -/
theorem produce_upholds {path : List FactoryId} (name : String) (sharing : Sharing chain before ctx)
    (hpath : (chain.effective declared).id ∉ path)
    (hnone : (chain.effective declared).usesCache →
      ctx.cache.lookup (chain.effective declared).id = none)
    (hreceives :
      Receives chain before (chain.effective declared).dependencies .empty (origins values))
    (s : Session σ κ) :
    let u := produce name (chain.effective declared) values ctx s
    Upholds chain path ctx (before ++ u.journal)
      (fun p => receiptEvent name (chain.effective declared) p.origin ∈ before ++ u.journal)
      u.result := by
  intro u
  have ledger := ledger_call sharing hnone hreceives
  -- a call that stops shares nothing, so only the ledger remains of it
  rcases produce_cases name (chain.effective declared) values ctx s with
    ⟨e, -, heq⟩ | ⟨outcome, t, -, ht, hcases⟩
  · simp only [u, heq]
    exact .stopped ledger
  · have hobtaining : ∀ e ∈ t.journal, ¬ e.isExchange := fun e he =>
      not_isExchange_of_isObtaining ((outcome.normalize_within _).journal _ e (ht ▸ he))
    rcases hcases with ⟨e, -, heq⟩ | ⟨normalized, -, heq⟩
    · simp only [u, heq]
      exact .stopped (by simpa using ledger.append_other hobtaining)
    · obtain ⟨ctx', hsettle, hinvocations, hlookup⟩ :=
        settle_shares (chain.effective declared) ctx.invocations normalized ctx.invoked
      simp only [u, heq, hsettle]
      refine .gave ?_ (fun id hid hid' => ?_) (by simp)
      · simpa using sharing_settle name sharing hnone hreceives hobtaining hinvocations hlookup
      · rw [hlookup, if_neg]
        · exact hid'
        · rintro ⟨-, rfl⟩
          exact hpath hid

end Produce

/-- Every way of the resolver upholds sharing. -/
theorem upholds (chain : OverrideChain σ κ ν) (limit : Nat) :
    Cases chain limit
      (fun _ path spec ctx _ t => ∀ before, Sharing chain before ctx →
        Upholds chain path ctx (before ++ t.journal)
          (fun p => receiptEvent spec.1 (chain.effective spec.2) p.origin ∈ before ++ t.journal)
          t.result)
      (fun _ path specs values ctx _ t => ∀ before, Sharing chain before ctx →
        Upholds chain path ctx (before ++ t.journal)
          (fun values' =>
            Receives chain (before ++ t.journal) specs (origins values) (origins values'))
          t.result) where
  shared _ _ name declared ctx _ p hp before sharing :=
    .gave (sharing.receive hp) (fun _ _ h => h) (by simp)
  cyclic _ _ _ _ _ _ _ _ before sharing := .stopped (by simpa using sharing.toLedger)
  deep _ _ _ _ _ _ _ before sharing := .stopped (by simpa using sharing.toLedger)
  unmet _ path name declared ctx _ t e ctx' _ _ _ h ht before sharing := by
    have hall := h (before ++ [.entered (chain.effective declared).id name])
      (sharing.append_event rfl)
    rw [ht] at hall
    obtain ⟨ledger⟩ := hall
    exact .stopped (by simpa using ledger)
  called _ path name declared ctx _ t values ctx' u hnone hpath _ h ht hu before sharing := by
    have hall := h (before ++ [.entered (chain.effective declared).id name])
      (sharing.append_event rfl)
    rw [ht] at hall
    cases hall with
    | gave sharing' keeps receives =>
      -- the factory is on the path of its dependencies, so nothing was shared of it meanwhile
      have hnone' : (chain.effective declared).usesCache →
          ctx'.cache.lookup (chain.effective declared).id = none :=
        fun hcache => keeps _ (by simp) (Context.lookup_eq_none hnone hcache)
      have hproduce := produce_upholds name
        (sharing'.append_event (e := .left (chain.effective declared).id) rfl) hpath hnone'
        (receives.mono (List.subset_append_left _ _)) t.session
      rw [hu] at hproduce
      simpa using hproduce.of_keeps fun id hid => keeps id (by simp [hid])
  done _ path values ctx _ before sharing := by
    have receives : Receives chain (before ++ []) [] (origins values) (origins values) := .done _
    exact .gave (by simpa using sharing) (fun _ _ h => h) receives
  failed _ path spec specs values ctx _ t e ctx' _ h ht before sharing := by
    have hone := h before sharing
    rw [ht] at hone
    obtain ⟨ledger⟩ := hone
    exact .stopped ledger
  next _ path spec specs values ctx _ t p ctx' u _ h ht hrest before sharing := by
    have hone := h before sharing
    rw [ht] at hone
    cases hone with
    | gave sharing' keeps received =>
      have hall := hrest _ sharing'
      rw [List.append_assoc] at hall
      refine (hall.of_keeps keeps).imp fun values' receives => ?_
      rw [origins_set] at receives
      exact .next (List.append_assoc .. ▸ List.mem_append_left _ received) receives

end Resolver

end RequestDispatch
