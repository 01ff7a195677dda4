import Mathlib.Data.List.Nodup
import Mathlib.Data.List.Pairwise
import RequestDispatch.Proofs.Resolver

/-!
# Calls and receipts

`Ledger` says of the journal of a resolution that a factory is called at most once to give a shared
value, that every value a parameter receives comes from a call, and that every call has as arguments
what the parameters of the factory received. Each kind of event that a resolution enters keeps it.
-/

namespace RequestDispatch

variable {σ κ ν : Type}

/-! ## Calls and receipts in a journal -/

namespace Event

/-- A call of a factory for a shared value. -/
def isSharedCall (id : FactoryId) : Event → Bool
  | .invoked f shared _ _ => f == id && shared
  | _ => false

/-- The invocation that a call is. -/
def invocation? : Event → Option Nat
  | .invoked _ _ origin _ => some origin
  | _ => none

/-- The invocation whose value a parameter receives for itself. -/
def ownReceipt? : Event → Option Nat
  | .received _ _ false origin => some origin
  | _ => none

/-- A call of a factory or the receipt of a value. -/
def isExchange : Event → Bool
  | .invoked _ _ _ _ | .received _ _ _ _ => true
  | _ => false

end Event

/-- The invocations of a journal. -/
def invocations (journal : List Event) : List Nat := journal.filterMap Event.invocation?

/-- The invocations whose values parameters received for themselves. -/
def ownReceipts (journal : List Event) : List Nat := journal.filterMap Event.ownReceipt?

/-- Invocations of two parts. -/
@[simp] theorem invocations_append (first second : List Event) :
    invocations (first ++ second) = invocations first ++ invocations second :=
  List.filterMap_append

@[simp] theorem ownReceipts_append (first second : List Event) :
    ownReceipts (first ++ second) = ownReceipts first ++ ownReceipts second :=
  List.filterMap_append

/-- An invocation is one of a call in the journal. -/
theorem mem_invocations {journal : List Event} {origin : Nat} :
    origin ∈ invocations journal ↔
      ∃ id shared arguments, .invoked id shared origin arguments ∈ journal := by
  simp only [invocations, List.mem_filterMap]
  constructor
  · rintro ⟨e, he, horigin⟩
    cases e <;> simp only [Event.invocation?, reduceCtorEq, Option.some.injEq] at horigin
    exact ⟨_, _, _, horigin ▸ he⟩
  · rintro ⟨id, shared, arguments, he⟩
    exact ⟨_, he, rfl⟩

/-- An own receipt is one of a value that is not shared. -/
theorem mem_ownReceipts {journal : List Event} {origin : Nat} :
    origin ∈ ownReceipts journal ↔ ∃ name id, .received name id false origin ∈ journal := by
  simp only [ownReceipts, List.mem_filterMap]
  constructor
  · rintro ⟨e, he, horigin⟩
    cases e with
    | received name id shared o =>
      cases shared <;> simp only [Event.ownReceipt?, reduceCtorEq, Option.some.injEq] at horigin
      exact ⟨name, id, horigin ▸ he⟩
    | _ => exact nomatch horigin
  · rintro ⟨name, id, he⟩
    exact ⟨_, he, rfl⟩

/-- Other events than calls and receipts are no invocations. -/
theorem invocations_other {other : List Event} (h : ∀ e ∈ other, ¬ e.isExchange) :
    invocations other = [] :=
  List.eq_nil_iff_forall_not_mem.mpr fun origin horigin => by
    obtain ⟨id, shared, arguments, he⟩ := mem_invocations.mp horigin
    exact h _ he rfl

/-- Other events than calls and receipts are no receipts. -/
theorem ownReceipts_other {other : List Event} (h : ∀ e ∈ other, ¬ e.isExchange) :
    ownReceipts other = [] :=
  List.eq_nil_iff_forall_not_mem.mpr fun origin horigin => by
    obtain ⟨name, id, he⟩ := mem_ownReceipts.mp horigin
    exact h _ he rfl

/-- Parameters receive values in order, beside those received before, by invocation. -/
inductive Receives (chain : OverrideChain σ κ ν) (journal : List Event) :
    List (DependencySpec σ κ ν) → Fields Nat → Fields Nat → Prop where
  | done (origins : Fields Nat) : Receives chain journal [] origins origins
  | next {name : String} {declared : Factory σ κ ν} {specs : List (DependencySpec σ κ ν)}
      {origin : Nat} {origins result : Fields Nat}
      (received : Resolver.receiptEvent name (chain.effective declared) origin ∈ journal)
      (rest : Receives chain journal specs (Fields.set name origin origins) result) :
      Receives chain journal ((name, declared) :: specs) origins result

/-- Receipts stay in a longer journal. -/
theorem Receives.mono {chain : OverrideChain σ κ ν} {journal journal' : List Event}
    {specs : List (DependencySpec σ κ ν)} {origins result : Fields Nat}
    (h : Receives chain journal specs origins result) (hsub : journal ⊆ journal') :
    Receives chain journal' specs origins result := by
  induction h with
  | done origins => exact .done origins
  | next received _ ih => exact .next (hsub received) ih

/-- The calls and receipts of a resolution. -/
structure Ledger (chain : OverrideChain σ κ ν) (journal : List Event) : Prop where
  /-- A factory is called at most once for a shared value. -/
  once : ∀ id, journal.countP (Event.isSharedCall id) ≤ 1
  /-- No two calls are the same invocation. -/
  distinct : (invocations journal).Nodup
  /-- A value that is received comes from a call of that factory that was to give such a value. -/
  receipts : ∀ name id shared origin, .received name id shared origin ∈ journal →
    ∃ arguments, .invoked id shared origin arguments ∈ journal
  /-- Values that are not shared are received once. -/
  own : (ownReceipts journal).Nodup
  /-- The arguments of a call are what the parameters of the factory received. -/
  arguments : ∀ id shared origin arguments, .invoked id shared origin arguments ∈ journal →
    ∃ declared, (chain.effective declared).id = id ∧
      (chain.effective declared).usesCache = shared ∧
      Receives chain journal (chain.effective declared).dependencies .empty arguments

namespace Ledger

variable {chain : OverrideChain σ κ ν} {journal : List Event}

theorem nil : Ledger chain [] where
  once _ := Nat.zero_le _
  distinct := .nil
  receipts _ _ _ _ h := absurd h List.not_mem_nil
  own := .nil
  arguments _ _ _ _ h := absurd h List.not_mem_nil

/-- Other events leave a ledger as it is. -/
theorem append_other (h : Ledger chain journal) {other : List Event}
    (hother : ∀ e ∈ other, ¬ e.isExchange) : Ledger chain (journal ++ other) := by
  have hcalls : ∀ id, other.countP (Event.isSharedCall id) = 0 := fun id =>
    List.countP_eq_zero.mpr fun e he => by
      have hkind := hother e he
      cases e <;> simp [Event.isSharedCall, Event.isExchange] at hkind ⊢
  refine ⟨fun id => ?_, ?_, fun name id shared origin he => ?_, ?_,
    fun id shared origin arguments he => ?_⟩
  · rw [List.countP_append, hcalls]
    exact h.once id
  · rw [invocations_append, invocations_other hother, List.append_nil]
    exact h.distinct
  · rcases List.mem_append.mp he with he | he
    · obtain ⟨arguments, hcall⟩ := h.receipts name id shared origin he
      exact ⟨arguments, List.mem_append_left _ hcall⟩
    · exact absurd rfl (hother _ he)
  · rw [ownReceipts_append, ownReceipts_other hother, List.append_nil]
    exact h.own
  · rcases List.mem_append.mp he with he | he
    · obtain ⟨declared, hid, hshared, hreceives⟩ := h.arguments id shared origin arguments he
      exact ⟨declared, hid, hshared, hreceives.mono (List.subset_append_left _ _)⟩
    · exact absurd rfl (hother _ he)

/-- There is one call for an invocation. -/
theorem call_unique (h : Ledger chain journal) {id id' : FactoryId} {shared shared' : Bool}
    {origin : Nat} {arguments arguments' : Fields Nat}
    (he : .invoked id shared origin arguments ∈ journal)
    (he' : .invoked id' shared' origin arguments' ∈ journal) :
    Event.invoked id shared origin arguments = .invoked id' shared' origin arguments' := by
  have hsymm : Std.Symm fun e e' : Event => ∀ o, e.invocation? = some o →
      ∀ o', e'.invocation? = some o' → o ≠ o' := ⟨fun _ _ h o ho o' ho' => (h o' ho' o ho).symm⟩
  have hpairwise := List.pairwise_filterMap.mp h.distinct
  -- two different calls would be one invocation twice
  by_contra hne
  exact hpairwise.forall he he' hne _ rfl _ rfl rfl

/-- All shared values of a factory that are received come from one invocation. -/
theorem same (h : Ledger chain journal) {name name' : String} {id : FactoryId}
    {origin origin' : Nat}
    (hr : .received name id true origin ∈ journal)
    (hr' : .received name' id true origin' ∈ journal) : origin = origin' := by
  obtain ⟨arguments, hcall⟩ := h.receipts _ _ _ _ hr
  obtain ⟨arguments', hcall'⟩ := h.receipts _ _ _ _ hr'
  -- both calls are among at most one
  have hfilter : ∀ e ∈ journal, e.isSharedCall id → e ∈ journal.filter (Event.isSharedCall id) :=
    fun e he hcall => List.mem_filter.mpr ⟨he, hcall⟩
  have hlength : (journal.filter (Event.isSharedCall id)).length ≤ 1 := by
    rw [← List.countP_eq_length_filter]
    exact h.once id
  have hmem := hfilter _ hcall (by simp [Event.isSharedCall])
  have hmem' := hfilter _ hcall' (by simp [Event.isSharedCall])
  match hl : journal.filter (Event.isSharedCall id), hlength with
  | [], _ => exact absurd (hl ▸ hmem) List.not_mem_nil
  | [e], _ =>
    rw [hl, List.mem_singleton] at hmem hmem'
    exact (Event.invoked.inj (hmem.trans hmem'.symm)).2.2.1

private theorem nodup_snoc {numbers : List Nat} {n : Nat} (h : numbers.Nodup) (hn : n ∉ numbers) :
    (numbers ++ [n]).Nodup := by
  rw [← List.concat_eq_append]
  exact h.concat hn

/-- A call of a factory with what its parameters received, under a new number. -/
theorem invoke (h : Ledger chain journal) {declared : Factory σ κ ν} {origin : Nat}
    {arguments : Fields Nat} (hnew : origin ∉ invocations journal)
    (hunshared : (chain.effective declared).usesCache →
      journal.countP (Event.isSharedCall (chain.effective declared).id) = 0)
    (hreceives : Receives chain journal (chain.effective declared).dependencies .empty arguments) :
    Ledger chain (journal ++ [.invoked (chain.effective declared).id
      (chain.effective declared).usesCache origin arguments]) where
  once id := by
    rw [List.countP_append, List.countP_singleton]
    split
    -- the call that is added is the first one of its factory, if it is shared
    · next hcall =>
      simp only [Event.isSharedCall, Bool.and_eq_true, beq_iff_eq] at hcall
      have hzero := hunshared hcall.2
      rw [hcall.1] at hzero
      omega
    · exact h.once id
  distinct := by
    rw [invocations_append]
    exact nodup_snoc h.distinct hnew
  receipts name id shared origin' he := by
    obtain ⟨arguments', hcall⟩ := h.receipts name id shared origin' (by simpa using he)
    exact ⟨arguments', List.mem_append_left _ hcall⟩
  own := by
    rw [ownReceipts_append]
    exact (List.append_nil _).symm ▸ h.own
  arguments id shared origin' arguments' he := by
    rcases List.mem_append.mp he with he | he
    · obtain ⟨declared', hid, hshared, hreceives'⟩ := h.arguments id shared origin' arguments' he
      exact ⟨declared', hid, hshared, hreceives'.mono (List.subset_append_left _ _)⟩
    -- the arguments of the call that is added were received before it
    · simp only [List.mem_singleton, Event.invoked.injEq] at he
      obtain ⟨rfl, rfl, rfl, rfl⟩ := he
      exact ⟨declared, rfl, rfl, hreceives.mono (List.subset_append_left _ _)⟩

/-- The receipt of a shared value, or of a value that was not received yet. -/
theorem receive (h : Ledger chain journal) {name : String} {id : FactoryId} {shared : Bool}
    {origin : Nat} (hcall : ∃ arguments, .invoked id shared origin arguments ∈ journal)
    (hown : shared = false → origin ∉ ownReceipts journal) :
    Ledger chain (journal ++ [.received name id shared origin]) where
  once id := by
    rw [List.countP_append]
    simpa [Event.isSharedCall] using h.once id
  distinct := by
    rw [invocations_append]
    exact (List.append_nil _).symm ▸ h.distinct
  receipts name' id' shared' origin' he := by
    rcases List.mem_append.mp he with he | he
    · obtain ⟨arguments, hcall'⟩ := h.receipts name' id' shared' origin' he
      exact ⟨arguments, List.mem_append_left _ hcall'⟩
    · simp only [List.mem_singleton, Event.received.injEq] at he
      obtain ⟨-, rfl, rfl, rfl⟩ := he
      obtain ⟨arguments, hcall⟩ := hcall
      exact ⟨arguments, List.mem_append_left _ hcall⟩
  own := by
    cases shared with
    | true =>
      rw [ownReceipts_append]
      exact (List.append_nil _).symm ▸ h.own
    | false =>
      rw [ownReceipts_append]
      exact nodup_snoc h.own (hown rfl)
  arguments id' shared' origin' arguments he := by
    obtain ⟨declared, hid, hshared, hreceives⟩ :=
      h.arguments id' shared' origin' arguments (by simpa using he)
    exact ⟨declared, hid, hshared, hreceives.mono (List.subset_append_left _ _)⟩

/-- No parameter receives for itself what another shares. -/
theorem apart (h : Ledger chain journal) {name name' : String} {id id' : FactoryId}
    {origin origin' : Nat} (hr : .received name id true origin ∈ journal)
    (hr' : .received name' id' false origin' ∈ journal) : origin ≠ origin' := by
  obtain ⟨arguments, hcall⟩ := h.receipts _ _ _ _ hr
  obtain ⟨arguments', hcall'⟩ := h.receipts _ _ _ _ hr'
  rintro rfl
  exact nomatch h.call_unique hcall hcall'

/-- A release leaves a ledger as it is. -/
theorem release (h : Ledger chain journal) {ctx : Context σ κ ν} (s : Session σ κ) :
    Ledger chain (journal ++ (ctx.release s).journal) := by
  refine h.append_other fun e he => ?_
  have hkind := ctx.release_within.journal s e he
  cases e <;> simp [Event.isReleasing, Event.isExchange] at hkind ⊢

end Ledger

end RequestDispatch
