import Mathlib.Data.List.Forall2
import RequestDispatch.Proofs.Resolver

/-!
# Acquisitions and their undoing

Some factories acquire what has to be undone later. `Context.Owes` says which acquisitions the
pending cleanups of a context belong to, and `Unwinds` is the journal of undoing acquisitions one
after another. Every way of the resolver adds its own acquisitions to what is owed and no others, so
`resolve_unwinds` finds all of them owed after a resolution, or all of them undone in reverse order
when it failed. A resolution that a panic ends undoes nothing.
-/

namespace RequestDispatch

variable {σ κ ν : Type}

/-! ## Acquisitions -/

/-- What an invocation acquired: a source that yielded its value or a scoped resource. -/
inductive Acquisition where
  | source (origin : Nat)
  | resource (origin : Nat)
  deriving DecidableEq

/-- The invocation of an acquisition. -/
def Acquisition.origin : Acquisition → Nat
  | .source origin => origin
  | .resource origin => origin

/-- The acquisition that an event is. -/
def Event.acquisition? : Event → Option Acquisition
  | .yielded origin => some (.source origin)
  | .acquired origin => some (.resource origin)
  | _ => none

/-- The acquisitions of a journal in the order they happened. -/
def acquisitions (journal : List Event) : List Acquisition := journal.filterMap Event.acquisition?

@[simp] theorem acquisitions_nil : acquisitions [] = [] := rfl

@[simp] theorem acquisitions_append (first second : List Event) :
    acquisitions (first ++ second) = acquisitions first ++ acquisitions second :=
  List.filterMap_append

@[simp] theorem acquisitions_cons (e : Event) (journal : List Event) :
    acquisitions (e :: journal) = e.acquisition?.toList ++ acquisitions journal := by
  rcases h : e.acquisition? with _ | a <;> simp [acquisitions, h]

/-- A journal of a kind that no acquisition is of has no acquisitions. -/
theorem acquisitions_eq_nil {kind : Event → Bool} {journal : List Event}
    (hkind : ∀ e, kind e → e.acquisition? = none) (h : ∀ e ∈ journal, kind e) :
    acquisitions journal = [] :=
  List.filterMap_eq_nil_iff.mpr fun e he => hkind e (h e he)

/-! ## Undoing acquisitions -/

/-- What undoes an acquisition: a source is advanced once more and may then be closed, a resource is
released. -/
def Acquisition.UndoneBy : Acquisition → List Event → Prop
  | .source origin, journal =>
    journal = [.advanced origin] ∨ journal = [.advanced origin, .closed origin]
  | .resource origin, journal => journal = [.releasing origin]

/-- The journals of undoing acquisitions one after another. -/
inductive Unwinds : List Acquisition → List Event → Prop where
  | nil : Unwinds [] []
  | cons {a : Acquisition} {as : List Acquisition} {undoing journal : List Event}
      (undone : a.UndoneBy undoing) (rest : Unwinds as journal) :
      Unwinds (a :: as) (.cleanupStarted a.origin ::
        (undoing ++ .cleanupFinished a.origin :: journal))

/-- Where nothing was acquired, nothing is unwound. -/
theorem Unwinds.eq_nil {journal : List Event} (h : Unwinds [] journal) : journal = [] := by
  cases h; rfl

/-- Every acquisition is undone. -/
theorem Unwinds.mem {as : List Acquisition} {journal : List Event} (h : Unwinds as journal)
    {a : Acquisition} (ha : a ∈ as) :
    .cleanupStarted a.origin ∈ journal ∧ .cleanupFinished a.origin ∈ journal := by
  induction h with
  | nil => exact absurd ha List.not_mem_nil
  | cons _ _ ih =>
    rcases List.mem_cons.mp ha with rfl | ha
    · simp
    · simp [ih ha]

/-- The acquisition that a cleanup belongs to. -/
inductive Cleanup.Undoes (origin : Nat) : Cleanup σ κ ν → Acquisition → Prop where
  | exhaust (source : Mode) (rest : Effect σ κ (Option ν)) (close : Option (Action σ κ)) :
      Undoes origin (.exhaust source rest close) (.source origin)
  | release (resource : Mode) (code : Effect σ κ Unit) :
      Undoes origin (.release resource code) (.resource origin)

/-- A cleanup undoes what its own invocation acquired. -/
theorem Cleanup.Undoes.origin_eq {origin : Nat} {cleanup : Cleanup σ κ ν} {a : Acquisition}
    (h : cleanup.Undoes origin a) : a.origin = origin := by
  cases h <;> rfl

namespace Cleanup

/-- The closing of a source, if there is one. -/
private abbrev IsClosing (origin : Nat) (journal : List Event) : Prop :=
  journal = [] ∨ journal = [.closed origin]

private theorem closeInside_enters (origin : Nat) (close : Option (Action σ κ)) :
    (closeInside origin close).Enters (IsClosing origin) := by
  cases close with
  | none => exact fun _ => .inl rfl
  | some close => exact fun _ => .inr rfl

private theorem closeApart_enters (origin : Nat) (close : Option (Action σ κ)) :
    (closeApart origin close).Enters (IsClosing origin) := by
  cases close with
  | none => exact fun _ => .inl rfl
  | some close => exact fun _ => .inr rfl

private theorem exhaustTogether_enters (origin : Nat) (rest : Effect σ κ (Option ν))
    (close : Option (Action σ κ)) :
    (exhaustTogether origin rest close).Enters (Acquisition.source origin).UndoneBy := by
  refine .perform_bind fun completion => ?_
  dsimp only
  split
  · exact .pure (.inl rfl)
  · refine .bind (closeInside_enters origin close) fun closing hclosing closed => ?_
    split <;> exact .pure (by simpa [Acquisition.UndoneBy] using hclosing)

private theorem exhaustApart_enters (origin : Nat) (source : Mode) (rest : Effect σ κ (Option ν))
    (close : Option (Action σ κ)) :
    (exhaustApart origin source rest close).Enters (Acquisition.source origin).UndoneBy := by
  refine .perform_bind fun completion => ?_
  dsimp only
  split
  · exact .pure (.inl rfl)
  · refine .bind (closeApart_enters origin close) fun closing hclosing closed => ?_
    exact .pure (by simpa [Acquisition.UndoneBy] using hclosing)

/-- A cleanup undoes its acquisition, whether or not it fails. -/
theorem Undoes.run {origin : Nat} {cleanup : Cleanup σ κ ν} {a : Acquisition}
    (h : cleanup.Undoes origin a) : (cleanup.run origin).Enters a.UndoneBy := by
  cases h with
  | exhaust source rest close =>
    simp only [Cleanup.run]
    split
    · exact .bind (exhaustTogether_enters origin rest close) fun _ h _ => .pure (by simpa using h)
    · exact .bind (exhaustApart_enters origin source rest close) fun _ h _ =>
        .pure (by simpa using h)
  | release resource code => exact fun _ => rfl

end Cleanup

/-- Running the cleanups of acquisitions undoes these, one after another and each to its end. -/
theorem CleanupStack.releaseAll_unwinds {pending : List (Nat × Cleanup σ κ ν)}
    {as : List Acquisition}
    (h : List.Forall₂ (fun entry a => entry.2.Undoes entry.1 a) pending as) :
    (releaseAll pending).Enters (Unwinds as) := by
  -- a failure of one cleanup is only gathered, so the rest is undone on either way
  induction h with
  | nil => exact .pure .nil
  | @cons entry a pending as undoes _ ih =>
    obtain ⟨origin, cleanup⟩ := entry
    obtain rfl : a.origin = origin := undoes.origin_eq
    refine .enter_bind (.bind undoes.run fun undoing undone result => .enter_bind ?_)
    refine .bind ih fun rest unwinds failures => ?_
    split <;> exact .pure (by simpa using Unwinds.cons undone unwinds)

/-- The pending cleanups of a context belong to these acquisitions, the latest first. -/
def Context.Owes (ctx : Context σ κ ν) (as : List Acquisition) : Prop :=
  List.Forall₂ (fun entry a => entry.2.Undoes entry.1 a) ctx.cleanup.pending as

/-- Releasing a context undoes what it owes. -/
theorem Context.Owes.release {ctx : Context σ κ ν} {as : List Acquisition} (h : ctx.Owes as) :
    ctx.release.Enters (Unwinds as) :=
  .bind (CleanupStack.releaseAll_unwinds h) fun _ unwinds _ => .pure (by simpa using unwinds)

/-! ## What the resolver acquires -/

/-- What normalizing an outcome gives, with the acquisitions it makes. -/
inductive Obtains (origin : Nat) :
    Except DispatchError (Outcome.Normalized σ κ ν) → List Acquisition → Prop where
  | failed (e : DispatchError) : Obtains origin (.error e) []
  | plain (value : ν) : Obtains origin (.ok ⟨value, none⟩) []
  | held (value : ν) {cleanup : Cleanup σ κ ν} {a : Acquisition}
      (undoes : cleanup.Undoes origin a) : Obtains origin (.ok ⟨value, some cleanup⟩) [a]

/-- A refused outcome acquires nothing. -/
theorem Obtains.eq_nil {origin : Nat} {e : DispatchError} {as : List Acquisition}
    (h : Obtains (σ := σ) (κ := κ) (ν := ν) origin (.error e) as) : as = [] := by
  cases h; rfl

private theorem acquisitions_closeApart (origin : Nat) (close : Option (Action σ κ))
    (s : Session σ κ) : acquisitions (Cleanup.closeApart origin close s).journal = [] := by
  rcases Cleanup.closeApart_enters origin close s with h | h <;> rw [h] <;> rfl

/-- A value comes with the cleanup of what was acquired for it, and an error with no acquisition. -/
theorem Outcome.normalize_obtains (origin : Nat) (outcome : Outcome σ κ ν) (s : Session σ κ) :
    Obtains origin (outcome.normalize origin s).result
      (acquisitions (outcome.normalize origin s).journal) := by
  -- by the shape of the outcome, and by what its code gives
  obtain value | compute | step | resource := outcome
  · exact .plain value
  · rcases h : (Run.perform (.computed origin) compute s).result.contain .async with e | value
    · simpa [normalize, Event.acquisition?, h, Except.map] using Obtains.failed e
    · simpa [normalize, Event.acquisition?, h, Except.map] using Obtains.plain value
  · rcases h : (Run.perform (.advanced origin) step.first s).result.contain step.mode
      with e | (_ | yielded)
    · simpa [normalize, Event.acquisition?, h, acquisitions_closeApart] using Obtains.failed e
    · simpa [normalize, Event.acquisition?, h, acquisitions_closeApart] using
        Obtains.failed (.internal .noYield)
    · have undoes : Cleanup.Undoes origin (.exhaust step.mode yielded.rest step.close)
        (.source origin) := .exhaust ..
      simpa [normalize, Event.acquisition?, h] using Obtains.held yielded.value undoes
  · rcases h : (Run.perform (.acquiring origin) resource.acquire s).result.contain resource.mode
      with e | (_ | value)
    · simpa [normalize, Event.acquisition?, h] using Obtains.failed e
    · simpa [normalize, Event.acquisition?, h] using Obtains.failed (.internal .nothingAcquired)
    · have undoes : Cleanup.Undoes origin
        (.release resource.mode (resource.release (some value)) : Cleanup σ κ ν)
        (.resource origin) := .release ..
      simpa [normalize, Event.acquisition?, h] using Obtains.held value undoes

/-- A part of a resolution that takes one context to another: the acquisitions in its journal are
owed in addition, and each is of an invocation of its own. -/
structure Acquires (ctx : Context σ κ ν) (journal : List Event) (ctx' : Context σ κ ν) : Prop where
  owes : ∀ as, ctx.Owes as → ctx'.Owes ((acquisitions journal).reverse ++ as)
  ascending : (acquisitions journal).Pairwise fun a b => a.origin < b.origin
  range : ∀ a ∈ acquisitions journal, ctx.invocations ≤ a.origin ∧ a.origin < ctx'.invocations
  invocations : ctx.invocations ≤ ctx'.invocations

namespace Acquires

/-- Nothing is acquired and nothing pushed. -/
theorem nothing {ctx ctx' : Context σ κ ν} {journal : List Event}
    (hjournal : acquisitions journal = []) (hcleanup : ctx'.cleanup = ctx.cleanup)
    (hinvocations : ctx.invocations ≤ ctx'.invocations) : Acquires ctx journal ctx' where
  owes as h := by simpa [hjournal, Context.Owes, hcleanup] using h
  ascending := by simp [hjournal]
  range := by simp [hjournal]
  invocations := hinvocations

/-- One part after another. -/
theorem append {ctx ctx' ctx'' : Context σ κ ν} {first second : List Event}
    (h : Acquires ctx first ctx') (h' : Acquires ctx' second ctx'') :
    Acquires ctx (first ++ second) ctx'' where
  owes as has := by simpa using h'.owes _ (h.owes as has)
  ascending := by
    rw [acquisitions_append, List.pairwise_append]
    refine ⟨h.ascending, h'.ascending, fun a ha b hb => ?_⟩
    -- the numbers of the first part end where those of the second begin
    have hfirst := h.range a ha
    have hsecond := h'.range b hb
    omega
  range a ha := by
    rw [acquisitions_append, List.mem_append] at ha
    have hfirst := h.invocations
    have hsecond := h'.invocations
    rcases ha with ha | ha
    · have hrange := h.range a ha
      omega
    · have hrange := h'.range a ha
      omega
  invocations := Nat.le_trans h.invocations h'.invocations

/-- An event that is no acquisition goes before a part. -/
theorem cons {e : Event} (he : e.acquisition? = none) {ctx ctx' : Context σ κ ν}
    {journal : List Event} (h : Acquires ctx journal ctx') : Acquires ctx (e :: journal) ctx' :=
  have hone : Acquires ctx [e] ctx := nothing (by simp [he]) rfl (Nat.le_refl _)
  hone.append h

end Acquires

namespace Resolver

/-- Taking up a value makes its cleanup pending. -/
private theorem settle_acquires (f : Factory σ κ ν) {ctx : Context σ κ ν}
    {normalized : Outcome.Normalized σ κ ν} {journal : List Event}
    (h : Obtains ctx.invocations (.ok normalized) (acquisitions journal)) :
    Acquires ctx journal (settle f ctx.invocations normalized ctx.invoked).2 := by
  generalize has : acquisitions journal = as at h
  cases h with
  | plain value => exact .nothing has (by simp [settle]) (by simp [settle])
  | held value undoes =>
    refine ⟨fun as howes => ?_, ?_, ?_, by simp [settle, Context.pending]⟩
    · simp only [has, settle, Context.Owes, Context.share_cleanup]
      exact .cons undoes howes
    · simp [has]
    · simp [has, undoes.origin_eq, settle, Context.pending]

/-- A call of a factory acquires what its outcome holds. -/
theorem produce_acquires (name : String) (f : Factory σ κ ν) (values : Fields (Product ν))
    (ctx : Context σ κ ν) (s : Session σ κ) :
    Acquires ctx (produce name f values ctx s).journal (produce name f values ctx s).result.2 := by
  rcases produce_cases name f values ctx s with
    ⟨e, -, heq⟩ | ⟨outcome, t, -, ht, ⟨e, he, heq⟩ | ⟨normalized, hn, heq⟩⟩ <;> rw [heq]
  · exact .nothing rfl rfl (Nat.le_succ _)
  · have obtains := outcome.normalize_obtains ctx.invocations (callStep f values ctx s).session
    rw [ht, he] at obtains
    have hnothing : Acquires ctx t.journal ctx.invoked :=
      .nothing obtains.eq_nil rfl (Nat.le_succ _)
    exact hnothing.cons rfl
  · have obtains := outcome.normalize_obtains ctx.invocations (callStep f values ctx s).session
    rw [ht, hn] at obtains
    refine settle_acquires f ?_
    simpa [callEvent, receiptEvent, Event.acquisition?] using obtains

/-- Every way of the resolver acquires for its own invocations only. -/
theorem acquires (chain : OverrideChain σ κ ν) (limit : Nat) :
    Cases chain limit (fun _ _ _ ctx _ t => Acquires ctx t.journal t.result.2)
      (fun _ _ _ _ ctx _ t => Acquires ctx t.journal t.result.2) where
  shared _ _ _ _ _ _ _ _ :=
    .nothing (by simp [receiptEvent, Event.acquisition?]) rfl (Nat.le_refl _)
  cyclic _ _ _ _ _ _ _ _ := .nothing rfl rfl (Nat.le_refl _)
  deep _ _ _ _ _ _ _ := .nothing rfl rfl (Nat.le_refl _)
  unmet _ _ _ _ _ _ t e ctx' _ _ _ h ht := by
    rw [ht] at h
    exact h.cons rfl
  called _ _ name declared _ _ t values ctx' u _ _ _ h ht hu := by
    rw [ht] at h
    have hproduce := produce_acquires name (chain.effective declared) values ctx' t.session
    rw [hu] at hproduce
    exact (h.append (hproduce.cons rfl)).cons rfl
  done _ _ _ _ _ := .nothing rfl rfl (Nat.le_refl _)
  failed _ _ _ _ _ _ _ t e ctx' _ h ht := by rwa [ht] at h
  next _ _ _ _ _ _ _ t p ctx' u _ h ht hrest := by
    rw [ht] at h
    exact h.append hrest

end Resolver

/-! ## Resolving and the stages -/

/-- What the stages enter as long as nothing is released. -/
def Event.isForward (e : Event) : Bool := e.isHook || e.isResolving || e.isProducing

/-- Nothing was released: a context owes all acquisitions of a journal. -/
structure Intact (ctx : Context σ κ ν) (journal : List Event) : Prop where
  owes : ctx.Owes (acquisitions journal).reverse
  ascending : (acquisitions journal).Pairwise fun a b => a.origin < b.origin
  forward : ∀ e ∈ journal, e.isForward

/-- Everything was released: a journal ends with the undoing of all acquisitions before. -/
structure Unwound (ctx : Context σ κ ν) (before cleanup : List Event) : Prop where
  owes : ctx.Owes []
  unwinds : Unwinds (acquisitions before).reverse cleanup
  ascending : (acquisitions before).Pairwise fun a b => a.origin < b.origin
  forward : ∀ e ∈ before, e.isForward

/-- Hooks acquire nothing. -/
theorem acquisitions_hook {journal : List Event} (h : ∀ e ∈ journal, e.isHook) :
    acquisitions journal = [] := by
  refine acquisitions_eq_nil (fun e he => ?_) h
  cases e <;> simp [Event.isHook, Event.acquisition?] at he ⊢

/-- Producing a response acquires nothing. -/
theorem acquisitions_producing {journal : List Event} (h : ∀ e ∈ journal, e.isProducing) :
    acquisitions journal = [] := by
  refine acquisitions_eq_nil (fun e he => ?_) h
  cases e <;> simp [Event.isProducing, Event.acquisition?] at he ⊢

/-- Nothing was acquired and released as long as only hooks were called. -/
theorem Intact.of_hooks {view : RequestView} {hooks : List Event} (h : ∀ e ∈ hooks, e.isHook) :
    Intact (.new view : Context σ κ ν) hooks where
  owes := by rw [acquisitions_hook h]; exact .nil
  ascending := by rw [acquisitions_hook h]; exact .nil
  forward e he := by simp [Event.isForward, h e he]

/-- Calls of hooks go before. -/
theorem Intact.after_hooks {ctx : Context σ κ ν} {hooks journal : List Event}
    (h : Intact ctx journal) (hhooks : ∀ e ∈ hooks, e.isHook) : Intact ctx (hooks ++ journal) where
  owes := by simpa [acquisitions_hook hhooks] using h.owes
  ascending := by simpa [acquisitions_hook hhooks] using h.ascending
  forward e he := by
    rcases List.mem_append.mp he with he | he
    · simp [Event.isForward, hhooks e he]
    · exact h.forward e he

/-- Hooks that run before a resolution do not change what it unwinds. -/
theorem Unwound.after_hooks {ctx : Context σ κ ν} {hooks before cleanup : List Event}
    (h : Unwound ctx before cleanup) (hhooks : ∀ e ∈ hooks, e.isHook) :
    Unwound ctx (hooks ++ before) cleanup where
  owes := h.owes
  unwinds := by simpa [acquisitions_hook hhooks] using h.unwinds
  ascending := by simpa [acquisitions_hook hhooks] using h.ascending
  forward e he := by
    rcases List.mem_append.mp he with he | he
    · simp [Event.isForward, hhooks e he]
    · exact h.forward e he

/-- What the handler's part enters comes after. -/
theorem Intact.before_producing {ctx : Context σ κ ν} {journal produced : List Event}
    (h : Intact ctx journal) (hproduced : ∀ e ∈ produced, e.isProducing) :
    Intact ctx (journal ++ produced) where
  owes := by simpa [acquisitions_producing hproduced] using h.owes
  ascending := by simpa [acquisitions_producing hproduced] using h.ascending
  forward e he := by
    rcases List.mem_append.mp he with he | he
    · exact h.forward e he
    · simp [Event.isForward, hproduced e he]

/-- Releasing a context of which nothing was released releases everything. -/
theorem Intact.release {ctx : Context σ κ ν} {journal : List Event} (h : Intact ctx journal)
    (s : Session σ κ) :
    Unwound (ctx.release s).result.2 journal (ctx.release s).journal where
  owes := .nil
  unwinds := h.owes.release s
  ascending := h.ascending
  forward := h.forward

/-- Resolving parameters with nothing resolved before releases nothing by itself. -/
theorem Resolver.each_intact (chain : OverrideChain σ κ ν) (limit : Nat)
    (specs : List (DependencySpec σ κ ν)) (view : RequestView) (s : Session σ κ) :
    let t := each (parameter chain limit limit []) specs .empty (.new view) s
    Intact t.result.2 t.journal := by
  intro t
  have acquires := (Resolver.acquires chain limit).each limit [] specs .empty (.new view) s
  have within := each_within (parameter_within chain limit limit []) specs .empty (.new view)
  refine ⟨?_, acquires.ascending, fun e he => ?_⟩
  · simpa using acquires.owes [] .nil
  · simp [Event.isForward, within.journal s e he]

/-- Resolving with nothing resolved before either releases nothing or fails and releases all. -/
theorem resolve_unwinds (chain : OverrideChain σ κ ν) (limit : Nat)
    (specs : List (DependencySpec σ κ ν)) (view : RequestView) (s : Session σ κ) :
    let t := resolve chain limit specs (.new view) s
    (∀ e, t.result.1 ≠ .error (.failed e)) ∧ Intact t.result.2 t.journal ∨
    ∃ e before cleanup, t.result.1 = .error (.failed e) ∧ t.journal = before ++ cleanup ∧
      Unwound t.result.2 before cleanup := by
  intro t
  have intact := Resolver.each_intact chain limit specs view s
  rcases resolve_cases chain limit specs (.new view) s with ⟨values, hvalues, heq⟩ | ⟨e, he, heq⟩ |
    ⟨panic, hpanic, heq⟩ <;> simp only [t, heq]
  · exact .inl ⟨by simp [hvalues], intact⟩
  · exact .inr ⟨e, _, _, rfl, rfl, intact.release _⟩
  · exact .inl ⟨by simp [hpanic], intact⟩

end RequestDispatch
