import Mathlib.Logic.Relation
import RequestDispatch.Proofs.Fields
import RequestDispatch.Proofs.Unwinding

/-!
# Dependents before what they depend on

A call of a factory is given values of earlier invocations only (`Resolver.dates`), and cleanups run
in descending order of the invocations. Therefore whatever was built from a resource, directly or
through any number of factories, is undone before the resource is
(`Dispatcher.dispatch_releases_dependents_first`), unless a panic that nothing contains ends the
dispatch and nothing is undone at all.
-/

namespace RequestDispatch

variable {σ κ ν : Type}

/-! ## What is built from what -/

/-- An invocation was called with the value of another one. -/
def Uses (journal : List Event) (user used : Nat) : Prop :=
  ∃ id shared arguments name,
    .invoked id shared user arguments ∈ journal ∧ (name, used) ∈ arguments

/-- An invocation was called with the value of another one, or with a value built from it. -/
def BuiltFrom (journal : List Event) : Nat → Nat → Prop := Relation.TransGen (Uses journal)

/-- A use stays a use in a journal with the same calls. -/
theorem Uses.mono {journal journal' : List Event} {user used : Nat} (h : Uses journal user used)
    (hcalls : ∀ e ∈ journal, e.isInvoked → e ∈ journal') : Uses journal' user used := by
  obtain ⟨id, shared, arguments, name, hcall, hargument⟩ := h
  exact ⟨id, shared, arguments, name, hcalls _ hcall rfl, hargument⟩

/-- A use in one of two journals after the other is a use in one of them. -/
theorem Uses.append_cases {first second : List Event} {user used : Nat}
    (h : Uses (first ++ second) user used) : Uses first user used ∨ Uses second user used := by
  obtain ⟨id, shared, arguments, name, hcall, hargument⟩ := h
  rcases List.mem_append.mp hcall with hcall | hcall
  · exact .inl ⟨id, shared, arguments, name, hcall, hargument⟩
  · exact .inr ⟨id, shared, arguments, name, hcall, hargument⟩

/-- Without calls there are no uses. -/
theorem not_uses {journal : List Event} (h : ∀ e ∈ journal, ¬ e.isInvoked) {user used : Nat} :
    ¬ Uses journal user used := by
  rintro ⟨id, shared, arguments, name, hcall, -⟩
  exact h _ hcall rfl

/-- Every call is given values of earlier invocations only. -/
def Dated (journal : List Event) : Prop := ∀ user used, Uses journal user used → used < user

namespace Dated

theorem of_not_invoked {journal : List Event} (h : ∀ e ∈ journal, ¬ e.isInvoked) : Dated journal :=
  fun _ _ huses => absurd huses (not_uses h)

/-- Without calls of factories there is nothing to be dated. -/
theorem of_kind {kind : Event → Bool} {journal : List Event} (h : ∀ e ∈ journal, kind e)
    (apart : ∀ e : Event, kind e → ¬ e.isInvoked) : Dated journal :=
  of_not_invoked fun e he => apart e (h e he)

/-- Two journals with dates are a journal with dates. -/
theorem append {first second : List Event} (h : Dated first) (h' : Dated second) :
    Dated (first ++ second) := by
  intro user used huses
  rcases huses.append_cases with huses | huses
  · exact h user used huses
  · exact h' user used huses

theorem cons {e : Event} {journal : List Event} (he : ¬ e.isInvoked) (h : Dated journal) :
    Dated (e :: journal) := by
  have hone : Dated [e] := of_not_invoked fun e' he' => List.mem_singleton.mp he' ▸ he
  exact hone.append h

/-- What is built from an invocation is of a later one. -/
theorem builtFrom {journal : List Event} (h : Dated journal) {user used : Nat}
    (hbuilt : BuiltFrom journal user used) : used < user := by
  induction hbuilt with
  | single huses => exact h _ _ huses
  | tail _ huses ih => exact Nat.lt_trans (h _ _ huses) ih

end Dated

/-! ## The dates of a resolution -/

/-- The shared values of a context come from invocations before it. -/
def Context.IsDated (ctx : Context σ κ ν) : Prop :=
  ∀ id p, ctx.cache.lookup id = some p → p.origin < ctx.invocations

namespace Resolver

variable {α : Type}

/-- A part of a resolution after which the shared values and the products it gives come from earlier
invocations, as do all values that its calls were given. -/
structure Dates (products : α → List (Product ν)) (ctx : Context σ κ ν)
    (t : Step σ κ (Resolved σ κ ν α)) : Prop where
  invocations : ctx.invocations ≤ t.result.2.invocations
  context : t.result.2.IsDated
  journal : Dated t.journal
  products : ∀ a, t.result.1 = .ok a → ∀ p ∈ products a, p.origin < t.result.2.invocations

private theorem isInvoked_receiptEvent (name : String) (f : Factory σ κ ν) (origin : Nat) :
    ¬ (receiptEvent name f origin).isInvoked := Bool.false_ne_true

private theorem not_isInvoked_of_isObtaining (e : Event) (h : e.isObtaining) : ¬ e.isInvoked := by
  cases e <;> simp_all [Event.isInvoked, Event.isObtaining]

/-- A call with values of earlier invocations. -/
private theorem dated_callEvent (f : Factory σ κ ν) {values : Fields (Product ν)}
    {ctx : Context σ κ ν} (h : ∀ entry ∈ values, entry.2.origin < ctx.invocations) :
    Dated [callEvent f values ctx] := by
  rintro user used ⟨id, shared, arguments, name, hcall, hargument⟩
  simp only [callEvent, List.mem_singleton, Event.invoked.injEq] at hcall
  obtain ⟨-, -, rfl, rfl⟩ := hcall
  obtain ⟨entry, hentry, heq⟩ := List.mem_map.mp hargument
  rw [← (Prod.mk.inj heq).2]
  exact h entry hentry

/-- A call makes one more invocation, and all it gives is of that one. -/
private theorem produce_dates (name : String) (f : Factory σ κ ν) {values : Fields (Product ν)}
    {ctx : Context σ κ ν} (s : Session σ κ) (hctx : ctx.IsDated)
    (hvalues : ∀ entry ∈ values, entry.2.origin < ctx.invocations) :
    Dates (fun p => [p]) ctx (produce name f values ctx s) := by
  have hcall := dated_callEvent f hvalues
  have hinvoked : ctx.invoked.IsDated := fun id p hp => Nat.lt_succ_of_lt (hctx id p hp)
  rcases produce_cases name f values ctx s with ⟨e, -, heq⟩ | ⟨outcome, t, -, ht, hcases⟩
  · rw [heq]
    exact ⟨Nat.le_succ _, hinvoked, hcall, nofun⟩
  · have hobtaining : Dated t.journal := ht ▸
      .of_kind ((outcome.normalize_within _).journal _) not_isInvoked_of_isObtaining
    rcases hcases with ⟨e, -, heq⟩ | ⟨normalized, -, heq⟩
    · rw [heq]
      exact ⟨Nat.le_succ _, hinvoked, hcall.append hobtaining, nofun⟩
    · obtain ⟨ctx', hsettle, hinvocations, hlookup⟩ :=
        settle_shares f ctx.invocations normalized ctx.invoked
      rw [Context.invoked_invocations] at hinvocations
      rw [heq, hsettle]
      refine ⟨by simp [hinvocations], fun id p hp => ?_, ?_, fun p hp q hq => ?_⟩
      · -- a value that was not there before is the one of this call
        rw [hlookup] at hp
        rw [hinvocations]
        split at hp
        · obtain rfl := Option.some.inj hp
          exact Nat.lt_succ_self _
        · exact hinvoked id p hp
      · refine (hcall.append hobtaining).append (.of_not_invoked fun e he => ?_)
        rw [List.mem_singleton.mp he]
        exact isInvoked_receiptEvent name f ctx.invocations
      · obtain rfl := Except.ok.inj hp
        rw [List.mem_singleton.mp hq, hinvocations]
        exact Nat.lt_succ_self _

/-- Every way of the resolver keeps the dates. -/
theorem dates (chain : OverrideChain σ κ ν) (limit : Nat) :
    Cases chain limit
      (fun _ _ _ ctx _ t => ctx.IsDated → Dates (fun p => [p]) ctx t)
      (fun _ _ _ values ctx _ t => ctx.IsDated →
        (∀ entry ∈ values, entry.2.origin < ctx.invocations) →
          Dates (fun values' => values'.entries.map (·.2)) ctx t) where
  shared _ _ name declared ctx _ p hp hctx := by
    refine ⟨Nat.le_refl _, hctx, .of_not_invoked fun e he => ?_, fun q hq r hr => ?_⟩
    · rw [List.mem_singleton.mp he]
      exact isInvoked_receiptEvent name _ p.origin
    · obtain rfl := Except.ok.inj hq
      rw [List.mem_singleton.mp hr]
      exact hctx _ _ (Context.cached?_eq_some.mp hp).2
  cyclic _ _ _ _ ctx _ _ _ hctx := ⟨Nat.le_refl _, hctx, .of_not_invoked nofun, nofun⟩
  deep _ _ _ ctx _ _ _ hctx := ⟨Nat.le_refl _, hctx, .of_not_invoked nofun, nofun⟩
  unmet _ _ name declared ctx _ t e ctx' _ _ _ h ht hctx := by
    have hall := h hctx fun _ hentry => absurd hentry List.not_mem_nil
    have hinvocations := hall.invocations
    have hcontext := hall.context
    rw [ht] at hinvocations hcontext
    exact ⟨hinvocations, hcontext, hall.journal.cons Bool.false_ne_true, nofun⟩
  called _ _ name declared ctx _ t values ctx' u _ _ _ h ht hu hctx := by
    have hall := h hctx fun _ hentry => absurd hentry List.not_mem_nil
    have hinvocations := hall.invocations
    have hcontext := hall.context
    have hproducts := hall.products values (by rw [ht])
    rw [ht] at hinvocations hcontext hproducts
    -- the values of the dependencies are the products of the part before the call
    have hvalues : ∀ entry ∈ values, entry.2.origin < ctx'.invocations := fun entry hentry =>
      hproducts entry.2 (List.mem_map_of_mem hentry)
    have hproduce := produce_dates name (chain.effective declared) t.session hcontext hvalues
    rw [hu] at hproduce
    refine ⟨Nat.le_trans hinvocations hproduce.invocations, hproduce.context, ?_, hproduce.products⟩
    exact .cons Bool.false_ne_true
      (hall.journal.append (.cons Bool.false_ne_true hproduce.journal))
  done _ _ values ctx _ hctx hvalues := by
    refine ⟨Nat.le_refl _, hctx, .of_not_invoked nofun, fun values' hvalues' p hp => ?_⟩
    obtain rfl := Except.ok.inj hvalues'
    obtain ⟨entry, hentry, rfl⟩ := List.mem_map.mp hp
    exact hvalues entry hentry
  failed _ _ spec specs values ctx _ t e ctx' _ h ht hctx _ := by
    have hone := h hctx
    have hinvocations := hone.invocations
    have hcontext := hone.context
    rw [ht] at hinvocations hcontext
    exact ⟨hinvocations, hcontext, hone.journal, nofun⟩
  next _ _ spec specs values ctx _ t p ctx' u _ h ht hrest hctx hvalues := by
    have hone := h hctx
    have hinvocations := hone.invocations
    have hcontext := hone.context
    have hproduct := hone.products p (by rw [ht]) p (List.mem_singleton.mpr rfl)
    rw [ht] at hinvocations hcontext hproduct
    have hall := hrest hcontext fun entry hentry => by
      rcases Fields.mem_set hentry with rfl | hentry
      · exact hproduct
      · exact Nat.lt_of_lt_of_le (hvalues entry hentry) hinvocations
    exact ⟨Nat.le_trans hinvocations hall.invocations, hall.context,
      hone.journal.append hall.journal, hall.products⟩

end Resolver

private theorem not_isInvoked_of_isReleasing (e : Event) (h : e.isReleasing) : ¬ e.isInvoked := by
  cases e <;> simp_all [Event.isInvoked, Event.isReleasing]

/-- A resolution gives every call values of earlier invocations only. -/
theorem resolve_dated (chain : OverrideChain σ κ ν) (limit : Nat)
    (specs : List (DependencySpec σ κ ν)) (view : RequestView) (s : Session σ κ) :
    Dated (resolve chain limit specs (.new view) s).journal := by
  have hctx : (Context.new view : Context σ κ ν).IsDated := nofun
  have heach := (Resolver.dates chain limit).each limit [] specs .empty (.new view) s hctx
    fun _ hentry => absurd hentry List.not_mem_nil
  rcases resolve_cases chain limit specs (.new view) s with
    ⟨_, _, heq⟩ | ⟨_, _, heq⟩ | ⟨_, _, heq⟩ <;> rw [heq]
  · exact heach.journal
  · exact heach.journal.append
      (.of_kind ((Context.release_within _).journal _) not_isInvoked_of_isReleasing)
  · exact heach.journal

/-- A dispatch gives every call of a factory values of earlier invocations only. -/
theorem Dispatcher.dispatch_dated (d : Dispatcher σ κ ν) (request : Request) (s : Session σ κ) :
    Dated (d.dispatch request s).journal := by
  have hhooks : ∀ e : Event, e.isHook → ¬ e.isInvoked := by
    intro e
    cases e <;> simp [Event.isInvoked, Event.isHook]
  have hproducing : ∀ e : Event, e.isProducing → ¬ e.isInvoked := by
    intro e
    cases e <;> simp [Event.isInvoked, Event.isProducing]
  have hasides : ∀ e : Event, e.isAside → ¬ e.isInvoked := by
    intro e
    cases e <;> simp [Event.isInvoked, Event.isAside, Event.isAnswering, Event.isNotice]
  -- calls are made while dependencies are resolved, and nowhere else in a dispatch
  have hpassed : Dated (d.passed request s).journal := by
    rcases (d.pass_course request (d.opened s)).resolution with
      ⟨-, hjournal, -⟩ | ⟨r, produced, resolves, -, hjournal, hproduced⟩
    · exact .of_kind hjournal hhooks
    · obtain ⟨admitted, rfl⟩ := resolves
      rw [passed, hjournal]
      exact ((Dated.of_kind admitted.isHook hhooks).append (resolve_dated _ _ _ _ _)).append
        (.of_kind hproduced hproducing)
  have hresponded : Dated (d.responded request s).journal :=
    .of_kind (d.responded_aside request s) hasides
  rcases houtcome : d.outcome request s with panic | response
  · rw [dispatch_unwound houtcome]
    exact .cons Bool.false_ne_true
      ((hpassed.append hresponded).append (.cons Bool.false_ne_true (.of_not_invoked fun _ he =>
        absurd he List.not_mem_nil)))
  · have hreported : Dated (d.reported request s response).journal :=
      .of_kind (d.reported_aside request s response) hasides
    have hreleased : Dated (d.released request s response).journal :=
      .of_kind ((Context.release_within _).journal _) not_isInvoked_of_isReleasing
    rw [dispatch_journal houtcome]
    exact .cons Bool.false_ne_true
      (((hpassed.append hresponded).append hreported).append hreleased)

/-! ## Cleanup before cleanup -/

/-- Undoing acquisitions from the latest invocation down undoes those of later invocations first. -/
theorem Unwinds.precedes {as : List Acquisition} {journal : List Event} (h : Unwinds as journal)
    (descending : as.Pairwise fun a b => b.origin < a.origin) {a b : Acquisition} (ha : a ∈ as)
    (hb : b ∈ as) (hlt : b.origin < a.origin) :
    Precedes (.cleanupFinished a.origin) (.cleanupStarted b.origin) journal := by
  induction h with
  | nil => exact absurd ha List.not_mem_nil
  | @cons c as undoing journal undone rest ih =>
    obtain ⟨hhead, htail⟩ := List.pairwise_cons.mp descending
    -- the head is of the latest invocation, so `b` is not the head
    have hne : b.origin ≠ c.origin := by
      rcases List.mem_cons.mp ha with rfl | ha'
      · omega
      · have hlast := hhead a ha'
        omega
    have hb' : b ∈ as := by
      rcases List.mem_cons.mp hb with rfl | hb'
      · exact absurd rfl hne
      · exact hb'
    have hfirst : Event.cleanupStarted b.origin ∉
        .cleanupStarted c.origin :: (undoing ++ [.cleanupFinished c.origin]) := by
      have hundoing : Event.cleanupStarted b.origin ∉ undoing := by
        cases c <;> simp only [Acquisition.UndoneBy] at undone
        · rcases undone with rfl | rfl <;> simp
        · subst undone
          simp
      simp [hne, hundoing]
    have heq : Event.cleanupStarted c.origin :: (undoing ++ .cleanupFinished c.origin :: journal) =
        .cleanupStarted c.origin :: (undoing ++ [.cleanupFinished c.origin]) ++ journal := by simp
    rw [heq]
    refine (Precedes.of_not_mem hfirst).append ?_
    rcases List.mem_cons.mp ha with rfl | ha'
    · exact .inl (by simp)
    · exact .inr (ih htail ha' hb')

/-- Whatever was built from a resource, directly or through others, is undone before the undoing of
the resource starts. It does start, unless the dispatch undoes nothing since a panic ends it. -/
theorem Dispatcher.dispatch_releases_dependents_first (d : Dispatcher σ κ ν) (request : Request)
    (s : Session σ κ) {user used : Acquisition}
    (huser : user ∈ acquisitions (d.dispatch request s).journal)
    (hused : used ∈ acquisitions (d.dispatch request s).journal)
    (hbuilt : BuiltFrom (d.dispatch request s).journal user.origin used.origin) :
    (.cleanupStarted used.origin ∈ (d.dispatch request s).journal ∨
      ∃ panic, d.Forsakes request s panic) ∧
      Precedes (.cleanupFinished user.origin) (.cleanupStarted used.origin)
        (d.dispatch request s).journal := by
  have hlt := (d.dispatch_dated request s).builtFrom hbuilt
  rcases d.exists_releases request s with ⟨before, cleanup, after, releases⟩ | ⟨panic, forsakes⟩
  · rw [releases.acquired, ← List.mem_reverse] at huser hused
    have descending : (acquisitions before).reverse.Pairwise fun a b => b.origin < a.origin :=
      List.pairwise_reverse.mpr releases.ascending
    -- the release is the only part in which a cleanup starts
    have hbefore : Event.cleanupStarted used.origin ∉ before := fun he =>
      releases.only _ (List.mem_append_left _ he) rfl
    have hafter : Event.cleanupStarted used.origin ∉ after := fun he =>
      releases.only _ (List.mem_append_right _ he) rfl
    have hcleanup := releases.unwinds.precedes descending huser hused hlt
    rw [releases.dispatch]
    refine ⟨.inl (by simp [(releases.unwinds.mem hused).1]), Precedes.append ?_ (.inr ?_)⟩
    · exact (Precedes.of_not_mem hbefore).append (.inr hcleanup)
    · exact .of_not_mem hafter
  · -- no cleanup starts at all
    refine ⟨.inr ⟨panic, forsakes⟩, .of_not_mem fun he => ?_⟩
    exact (forsakes.nothing _ he).1 rfl

/-! ## A transaction of a session from a pool -/

/-- A pool, which is acquired and released. -/
def poolFactory : Factory Unit Unit Unit :=
  .new 1 "pool" .blocking fun _ =>
    Effect.value (Outcome.blockingScope (Effect.value ()) fun _ => Effect.value ())

/-- A session from the pool, which leaves nothing to be undone itself. -/
def sessionFactory : Factory Unit Unit Unit :=
  (Factory.new 2 "session" .async fun _ => Effect.value (.immediate ())).dependsOn "pool"
    poolFactory

/-- A transaction of the session, which a source yields. -/
def transactionFactory : Factory Unit Unit Unit :=
  (Factory.new 3 "transaction" .async fun _ =>
    Effect.value (.singleStep ⟨.async, Effect.value (some ⟨(), Effect.value none⟩), none⟩)).dependsOn
      "session" sessionFactory

/-- The dispatcher of a route that needs a transaction. -/
def orderDispatcher : Dispatcher Unit Unit Unit :=
  .new { Route.new "POST" "/orders" ⟨.async, fun _ => Effect.value (.response (.ofStatus 204))⟩ with
    dependencies := [("transaction", transactionFactory)] }

/-- What happens when an order is dispatched. -/
def orderJournal : List Event :=
  (orderDispatcher.dispatch (.new "POST" "/orders") ⟨(), (), []⟩).journal

private theorem acquisitions_orderJournal :
    acquisitions orderJournal = [.resource 0, .source 2] := by decide +kernel

private theorem calls_orderJournal : orderJournal.filter Event.isInvoked =
    [.invoked 1 true 0 .empty, .invoked 2 true 1 (Fields.empty.set "pool" 0),
      .invoked 3 true 2 (Fields.empty.set "session" 1)] := by
  decide +kernel

/-- The transaction is built from the pool, by way of the session. -/
private theorem transaction_builtFrom_pool : BuiltFrom orderJournal 2 0 := by
  have hcall : ∀ {e}, e ∈ orderJournal.filter Event.isInvoked → e ∈ orderJournal := fun he =>
    (List.mem_filter.mp he).1
  rw [calls_orderJournal] at hcall
  have htransaction : Uses orderJournal 2 1 :=
    ⟨3, true, _, "session",
      hcall (List.mem_cons_of_mem _ (List.mem_cons_of_mem _ List.mem_cons_self)),
      List.mem_cons_self⟩
  have hsession : Uses orderJournal 1 0 :=
    ⟨2, true, _, "pool", hcall (List.mem_cons_of_mem _ List.mem_cons_self), List.mem_cons_self⟩
  exact .tail (.single htransaction) hsession

/-- The transaction is ended before the pool is released, although it was not given the pool. -/
theorem Dispatcher.order_releases_transaction_first :
    .source 2 ∈ acquisitions orderJournal ∧ .resource 0 ∈ acquisitions orderJournal ∧
      BuiltFrom orderJournal 2 0 ∧ .cleanupStarted 0 ∈ orderJournal ∧
      Precedes (.cleanupFinished 2) (.cleanupStarted 0) orderJournal := by
  have huser : Acquisition.source 2 ∈ acquisitions orderJournal := by
    simp [acquisitions_orderJournal]
  have hused : Acquisition.resource 0 ∈ acquisitions orderJournal := by
    simp [acquisitions_orderJournal]
  have hbuilt := transaction_builtFrom_pool
  have hreplied : (orderDispatcher.dispatch (.new "POST" "/orders") ⟨(), (), []⟩).result.isOk := by
    decide +kernel
  obtain ⟨hstarted, hprecedes⟩ :=
    orderDispatcher.dispatch_releases_dependents_first _ _ huser hused hbuilt
  refine ⟨huser, hused, hbuilt, hstarted.resolve_right ?_, hprecedes⟩
  rintro ⟨panic, forsakes⟩
  rw [forsakes.result] at hreplied
  cases hreplied

end RequestDispatch
