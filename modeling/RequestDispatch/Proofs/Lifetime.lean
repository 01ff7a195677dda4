import RequestDispatch.Proofs.Invocation
import RequestDispatch.Proofs.Unwinding

/-!
# The life of an outcome

What a dispatch does to the outcome of one invocation: it turns it into a value, and if the value
comes with a cleanup, it runs that cleanup once. `lifeOf` takes this out of the journal. The ways of
the resolver touch the outcomes of their own calls only (`Resolver.lives`), a release runs the
cleanup of a call in one session (`CleanupStack.startOf`), and `Dispatcher.life` puts both together
for every call that a dispatch makes. If a panic that nothing contains ends the dispatch, the second
part is left out.
-/

namespace RequestDispatch

variable {σ κ ν : Type}

/-! ## The life of an outcome in a journal -/

/-- What a journal has of the outcome of an invocation. -/
def lifeOf (origin : Nat) (journal : List Event) : List Event := journal.filter (Event.isOf origin)

@[simp] theorem lifeOf_nil (origin : Nat) : lifeOf origin [] = [] := rfl

@[simp] theorem lifeOf_append (origin : Nat) (first second : List Event) :
    lifeOf origin (first ++ second) = lifeOf origin first ++ lifeOf origin second :=
  List.filter_append ..

/-- What happens to other invocations is no part of a life. -/
theorem lifeOf_cons_of_not_isOf {origin : Nat} {e : Event} (h : ¬ e.isOf origin)
    (journal : List Event) : lifeOf origin (e :: journal) = lifeOf origin journal :=
  List.filter_cons_of_neg h

/-- An invocation nothing happens to has no life. -/
theorem lifeOf_eq_nil {origin : Nat} {journal : List Event} (h : ∀ e ∈ journal, ¬ e.isOf origin) :
    lifeOf origin journal = [] :=
  List.filter_eq_nil_iff.mpr h

/-- A journal of one invocation is its life. -/
theorem lifeOf_eq_self {origin : Nat} {journal : List Event} (h : ∀ e ∈ journal, e.isOf origin) :
    lifeOf origin journal = journal :=
  List.filter_eq_self.mpr h

/-- The cleanups of an invocation. -/
def cleanupsOf (origin : Nat) (pending : List (Nat × Cleanup σ κ ν)) :
    List (Nat × Cleanup σ κ ν) :=
  pending.filter fun entry => entry.1 == origin

theorem cleanupsOf_cons_self (origin : Nat) (cleanup : Cleanup σ κ ν)
    (rest : List (Nat × Cleanup σ κ ν)) :
    cleanupsOf origin ((origin, cleanup) :: rest) = (origin, cleanup) :: cleanupsOf origin rest :=
  List.filter_cons_of_pos (beq_self_eq_true origin)

theorem cleanupsOf_cons_of_ne {origin other : Nat} (h : other ≠ origin) (cleanup : Cleanup σ κ ν)
    (rest : List (Nat × Cleanup σ κ ν)) :
    cleanupsOf origin ((other, cleanup) :: rest) = cleanupsOf origin rest :=
  List.filter_cons_of_neg (by simpa using h)

theorem cleanupsOf_append (origin : Nat) (first second : List (Nat × Cleanup σ κ ν)) :
    cleanupsOf origin (first ++ second) = cleanupsOf origin first ++ cleanupsOf origin second :=
  List.filter_append ..

/-- Where an invocation has nothing pending, none of the cleanups is its own. -/
theorem cleanupsOf_eq_nil {origin : Nat} {pending : List (Nat × Cleanup σ κ ν)}
    (h : ∀ entry ∈ pending, entry.1 ≠ origin) : cleanupsOf origin pending = [] :=
  List.filter_eq_nil_iff.mpr fun entry hentry => by simpa using h entry hentry

/-! ## The life up to the value -/

namespace Invocation

/-- What turning the outcome into a value does to it. -/
def obtaining (i : Invocation σ κ ν) : List Event :=
  match i.outcome with
  | .error _ => []
  | .ok outcome => (i.obtained outcome).journal

/-- The cleanup that is pending when the call is over. -/
def held (i : Invocation σ κ ν) : List (Nat × Cleanup σ κ ν) :=
  match i.outcome with
  | .error _ => []
  | .ok outcome =>
    match (i.obtained outcome).result with
    | .error _ => []
    | .ok normalized => (normalized.cleanup.map fun cleanup => (i.origin, cleanup)).toList

variable {i : Invocation σ κ ν}

/-- A failed call obtains nothing. -/
theorem obtaining_of_error {e : Stop DispatchError} (h : i.outcome = .error e) :
    i.obtaining = [] := by
  rw [obtaining, h]

theorem obtaining_of_ok {outcome : Outcome σ κ ν} (h : i.outcome = .ok outcome) :
    i.obtaining = (i.obtained outcome).journal := by
  rw [obtaining, h]

/-- A failed call holds nothing. -/
theorem held_of_error {e : Stop DispatchError} (h : i.outcome = .error e) : i.held = [] := by
  rw [held, h]

/-- A refused outcome leaves nothing held. -/
theorem held_of_refused {outcome : Outcome σ κ ν} {e : DispatchError} (h : i.outcome = .ok outcome)
    (he : (i.obtained outcome).result = .error e) : i.held = [] := by
  simp only [held, h, he]

/-- What is held is the cleanup of the value, if it has one. -/
theorem held_of_ok {outcome : Outcome σ κ ν} {normalized : Outcome.Normalized σ κ ν}
    (h : i.outcome = .ok outcome) (hn : (i.obtained outcome).result = .ok normalized) :
    i.held = (normalized.cleanup.map fun cleanup => (i.origin, cleanup)).toList := by
  simp only [held, h, hn]

/-- Turning an outcome into a value touches this outcome only. -/
theorem isOf_obtaining : ∀ e ∈ i.obtaining, e.isOf i.origin := by
  intro e he
  rcases h : i.outcome with e' | outcome
  · rw [obtaining_of_error h] at he
    exact absurd he List.not_mem_nil
  · rw [obtaining_of_ok h] at he
    exact (Outcome.normalize_within_of (fun _ _ h => h) outcome).journal _ e he

/-- A call leaves one cleanup of its own or none. -/
theorem held_cases (i : Invocation σ κ ν) :
    i.held = [] ∨ ∃ cleanup, i.held = [(i.origin, cleanup)] := by
  rcases h : i.outcome with e | outcome
  · exact .inl (held_of_error h)
  · rcases hn : (i.obtained outcome).result with e | ⟨value, _ | cleanup⟩
    · exact .inl (held_of_refused h hn)
    · exact .inl (held_of_ok h hn)
    · exact .inr ⟨cleanup, held_of_ok h hn⟩

/-- What an invocation holds is its own. -/
theorem fst_of_mem_held : ∀ entry ∈ i.held, entry.1 = i.origin := by
  intro entry hentry
  rcases i.held_cases with h | ⟨cleanup, h⟩ <;> rw [h] at hentry
  · exact absurd hentry List.not_mem_nil
  · rw [List.mem_singleton.mp hentry]

end Invocation

namespace Resolver

/-- A part of a resolution, in which these calls are made, that takes one context to another and
adds cleanups: it touches the outcomes of its own calls only, each as far as its value. -/
structure Lives (ctx : Context σ κ ν) (invokes : Invocation σ κ ν → Prop) (journal : List Event)
    (added : List (Nat × Cleanup σ κ ν)) (ctx' : Context σ κ ν) : Prop where
  invocations : ctx.invocations ≤ ctx'.invocations
  events : ∀ e ∈ journal, ∀ origin, e.isOf origin →
    ctx.invocations ≤ origin ∧ origin < ctx'.invocations
  pending : ctx'.cleanup.pending = added ++ ctx.cleanup.pending
  bounded : ∀ entry ∈ added, ctx.invocations ≤ entry.1 ∧ entry.1 < ctx'.invocations
  range : ∀ i, invokes i → ctx.invocations ≤ i.origin ∧ i.origin < ctx'.invocations
  life : ∀ i, invokes i → lifeOf i.origin journal = i.obtaining
  held : ∀ i, invokes i → cleanupsOf i.origin added = i.held

namespace Lives

variable {ctx ctx' ctx'' : Context σ κ ν} {invokes invokes' : Invocation σ κ ν → Prop}
  {journal journal' : List Event} {added added' : List (Nat × Cleanup σ κ ν)}

/-- Nothing is called, and no outcome is touched. -/
theorem nothing (hjournal : ∀ e ∈ journal, ∀ origin, ¬ e.isOf origin)
    (hinvokes : ∀ i, ¬ invokes i) : Lives ctx invokes journal [] ctx where
  invocations := Nat.le_refl _
  events e he origin h := absurd h (hjournal e he origin)
  pending := rfl
  bounded _ h := absurd h List.not_mem_nil
  range i h := absurd h (hinvokes i)
  life i h := absurd h (hinvokes i)
  held i h := absurd h (hinvokes i)

theorem imp (h : Lives ctx invokes journal added ctx') (himp : ∀ i, invokes' i → invokes i) :
    Lives ctx invokes' journal added ctx' where
  invocations := h.invocations
  events := h.events
  pending := h.pending
  bounded := h.bounded
  range i hi := h.range i (himp i hi)
  life i hi := h.life i (himp i hi)
  held i hi := h.held i (himp i hi)

/-- One part after another: the calls of the one do not touch the outcomes of the other. -/
theorem append (h : Lives ctx invokes journal added ctx')
    (h' : Lives ctx' invokes' journal' added' ctx'') :
    Lives ctx (fun i => invokes i ∨ invokes' i) (journal ++ journal') (added' ++ added) ctx'' where
  invocations := Nat.le_trans h.invocations h'.invocations
  events e he origin horigin := by
    have hfirst := h.invocations
    have hsecond := h'.invocations
    rcases List.mem_append.mp he with he | he
    · have hrange := h.events e he origin horigin
      omega
    · have hrange := h'.events e he origin horigin
      omega
  pending := by rw [h'.pending, h.pending, List.append_assoc]
  bounded entry hentry := by
    have hfirst := h.invocations
    have hsecond := h'.invocations
    rcases List.mem_append.mp hentry with hentry | hentry
    · have hrange := h'.bounded entry hentry
      omega
    · have hrange := h.bounded entry hentry
      omega
  range i hi := by
    have hfirst := h.invocations
    have hsecond := h'.invocations
    rcases hi with hi | hi
    · have hrange := h.range i hi
      omega
    · have hrange := h'.range i hi
      omega
  life i hi := by
    rw [lifeOf_append]
    rcases hi with hi | hi
    · have hrange := h.range i hi
      -- the second part is about later invocations
      have hnone : lifeOf i.origin journal' = [] := lifeOf_eq_nil fun e he hof => by
        have hother := h'.events e he i.origin hof
        omega
      rw [hnone, List.append_nil, h.life i hi]
    · have hrange := h'.range i hi
      -- the first part is about earlier ones
      have hnone : lifeOf i.origin journal = [] := lifeOf_eq_nil fun e he hof => by
        have hother := h.events e he i.origin hof
        omega
      rw [hnone, List.nil_append, h'.life i hi]
  held i hi := by
    rw [cleanupsOf_append]
    rcases hi with hi | hi
    · have hrange := h.range i hi
      -- nothing is pending for an invocation before it is made
      have hnone : cleanupsOf i.origin added' = [] := cleanupsOf_eq_nil fun entry hentry heq => by
        have hother := h'.bounded entry hentry
        omega
      rw [hnone, List.nil_append, h.held i hi]
    · have hrange := h'.range i hi
      -- what was pending before belongs to earlier invocations
      have hnone : cleanupsOf i.origin added = [] := cleanupsOf_eq_nil fun entry hentry heq => by
        have hother := h.bounded entry hentry
        omega
      rw [hnone, List.append_nil, h'.held i hi]

/-- An event that is of no invocation goes before a part. -/
theorem cons {e : Event} (he : ∀ origin, ¬ e.isOf origin)
    (h : Lives ctx invokes journal added ctx') : Lives ctx invokes (e :: journal) added ctx' := by
  have hone : Lives ctx (fun _ => False) [e] [] ctx :=
    nothing (fun e' he' => List.mem_singleton.mp he' ▸ he) fun _ => id
  have hall : Lives ctx invokes ([e] ++ journal) (added ++ []) ctx' :=
    (hone.append h).imp fun i hi => .inr hi
  rwa [List.append_nil] at hall

end Lives

/-- What a call does to its outcome, and what it leaves pending. -/
theorem Lives.of_call {i : Invocation σ κ ν} {ctx' : Context σ κ ν}
    (hinvocations : ctx'.invocations = i.context.invocations + 1)
    (hpending : ctx'.cleanup.pending = i.held ++ i.context.cleanup.pending) :
    Lives i.context (· = i) i.obtaining i.held ctx' := by
  have hrange : i.context.invocations ≤ i.origin ∧ i.origin < ctx'.invocations := by
    rw [hinvocations]
    exact ⟨Nat.le_refl _, Nat.lt_succ_self _⟩
  refine ⟨by omega, fun e he origin horigin => ?_, hpending, fun entry hentry => ?_, ?_, ?_, ?_⟩
  · rw [← Event.origin_eq_of_isOf (i.isOf_obtaining e he) horigin]
    exact hrange
  · rw [i.fst_of_mem_held entry hentry]
    exact hrange
  · rintro j rfl
    exact hrange
  · rintro j rfl
    exact lifeOf_eq_self j.isOf_obtaining
  · rintro j rfl
    exact List.filter_eq_self.mpr fun entry hentry => by
      rw [j.fst_of_mem_held entry hentry, beq_self_eq_true]

/-- A call touches its own outcome only. -/
theorem produce_lives (i : Invocation σ κ ν) :
    Lives i.context (· = i) i.produced.journal i.held i.produced.result.2 := by
  have hcall : ∀ origin, ¬ (callEvent i.factory i.values i.context).isOf origin := fun _ h => by
    simp [callEvent, Event.isOf] at h
  rcases produce_cases i.parameter i.factory i.values i.context i.session with
    ⟨e, he, heq⟩ | ⟨outcome, t, houtcome, ht, ⟨e, he, heq⟩ | ⟨normalized, hn, heq⟩⟩
  -- a call that fails has obtained nothing and holds nothing
  · have hout : i.outcome = .error e := he
    have h : Lives i.context (· = i) i.obtaining i.held i.context.invoked :=
      .of_call rfl (by rw [i.held_of_error hout]; rfl)
    rw [i.obtaining_of_error hout] at h
    rw [Invocation.produced, heq]
    exact h.cons hcall
  · have hout : i.outcome = .ok outcome := houtcome
    have hobtained : i.obtained outcome = t := ht
    have h : Lives i.context (· = i) i.obtaining i.held i.context.invoked :=
      .of_call rfl (by rw [i.held_of_refused hout (hobtained ▸ he)]; rfl)
    rw [i.obtaining_of_ok hout, hobtained] at h
    rw [Invocation.produced, heq]
    exact h.cons hcall
  · have hout : i.outcome = .ok outcome := houtcome
    have hobtained : i.obtained outcome = t := ht
    obtain ⟨hinvocations, hpending⟩ :=
      settle_pending i.factory i.origin normalized i.context.invoked
    have h := Lives.of_call hinvocations
      (by rw [hpending, i.held_of_ok hout (hobtained ▸ hn)]; rfl)
    rw [i.obtaining_of_ok hout, hobtained] at h
    have hreceipt : Lives (settle i.factory i.origin normalized i.context.invoked).2
        (fun _ => False) [receiptEvent i.parameter i.factory i.origin] [] _ :=
      .nothing (fun e he origin hof => by
        rw [List.mem_singleton.mp he] at hof
        simp [receiptEvent, Event.isOf] at hof) fun _ => id
    rw [Invocation.produced, heq]
    exact ((h.append hreceipt).imp fun j hj => .inl hj).cons hcall

/-- On every way the resolver touches the outcomes of its own calls only. -/
theorem lives (chain : OverrideChain σ κ ν) (limit : Nat) :
    Cases chain limit
      (fun levels path spec ctx s t => ∃ added,
        Lives ctx (Invokes chain limit levels path [spec] ctx s) t.journal added t.result.2)
      (fun levels path specs _ ctx s t => ∃ added,
        Lives ctx (Invokes chain limit levels path specs ctx s) t.journal added t.result.2) where
  shared _ _ name declared ctx _ p hp := by
    refine ⟨[], .nothing (fun e he origin hof => ?_) fun i invokes => ?_⟩
    · rw [List.mem_singleton.mp he] at hof
      simp [receiptEvent, Event.isOf] at hof
    · obtain ⟨hnone, -⟩ := invokes.single_cases
      rw [hp] at hnone
      cases hnone
  cyclic _ _ _ _ _ _ _ hpath := by
    refine ⟨[], .nothing (fun e he => absurd he List.not_mem_nil) fun i invokes => ?_⟩
    obtain ⟨-, hpath', -⟩ := invokes.single_cases
    exact hpath' hpath
  deep _ _ _ _ _ _ _ := by
    refine ⟨[], .nothing (fun e he => absurd he List.not_mem_nil) fun i invokes => ?_⟩
    obtain ⟨-, -, below, hbelow, -⟩ := invokes.single_cases
    omega
  unmet _ _ name declared ctx s t e ctx' _ _ heq h ht := by
    obtain ⟨added, h⟩ := h
    rw [ht] at h
    have hall := h.cons (e := .entered (chain.effective declared).id name) fun _ =>
      Bool.false_ne_true
    refine ⟨added, hall.imp fun i invokes => ?_⟩
    obtain ⟨-, -, below, hbelow, ⟨t', values, ctx'', heq', hvalues, -⟩ | invokes⟩ :=
      invokes.single_cases
    · -- no call is made for the parameter itself, since a dependency failed
      obtain rfl := Nat.succ.inj hbelow
      obtain rfl := heq.symm.trans heq'
      cases ht.symm.trans hvalues
    · obtain rfl := Nat.succ.inj hbelow
      exact invokes
  called _ _ name declared ctx s t values ctx' u _ _ heq h ht hu := by
    obtain ⟨added, h⟩ := h
    rw [ht] at h
    -- the calls for the dependencies, and then the call for the parameter itself
    have hproduce := produce_lives ⟨name, chain.effective declared, values, ctx', t.session⟩
    rw [Invocation.produced, hu] at hproduce
    have hall := (h.append (hproduce.cons (e := .left (chain.effective declared).id)
      fun _ => Bool.false_ne_true)).cons (e := .entered (chain.effective declared).id name)
      fun _ => Bool.false_ne_true
    refine ⟨_, hall.imp fun i invokes => ?_⟩
    obtain ⟨-, -, below, hbelow, ⟨t', values', ctx'', heq', hvalues', rfl⟩ | invokes⟩ :=
      invokes.single_cases
    · obtain rfl := Nat.succ.inj hbelow
      obtain rfl := heq.symm.trans heq'
      cases ht.symm.trans hvalues'
      exact .inr rfl
    · obtain rfl := Nat.succ.inj hbelow
      exact .inl invokes
  done _ _ _ _ _ :=
    ⟨[], .nothing (fun e he => absurd he List.not_mem_nil) fun i invokes => by cases invokes⟩
  failed _ _ spec specs _ ctx s t e ctx' heq h ht := by
    obtain ⟨added, h⟩ := h
    rw [ht] at h
    refine ⟨added, h.imp fun i invokes => ?_⟩
    rcases invokes.cons_cases heq with invokes | ⟨_, _, hok, -⟩
    · exact invokes
    · cases ht.symm.trans hok
  next _ _ spec specs _ ctx s t p ctx' u heq h ht hrest := by
    obtain ⟨added, h⟩ := h
    obtain ⟨added', hrest⟩ := hrest
    rw [ht] at h
    refine ⟨_, (h.append hrest).imp fun i invokes => ?_⟩
    rcases invokes.cons_cases heq with invokes | ⟨_, _, hok, invokes⟩
    · exact .inl invokes
    · cases ht.symm.trans hok
      exact .inr invokes

end Resolver

/-! ## The life from the value on -/

namespace CleanupStack

/-- The session in which the cleanup of an invocation starts, as cleanups run from a session. -/
def startOf (origin : Nat) : List (Nat × Cleanup σ κ ν) → Session σ κ → Session σ κ
  | [], s => s
  | (other, cleanup) :: rest, s =>
    if other = origin then s else startOf origin rest (cleanup.run other s).session

/-- What a cleanup enters when it is released. -/
def undoing (origin : Nat) (cleanup : Cleanup σ κ ν) (s : Session σ κ) : List Event :=
  .cleanupStarted origin :: ((cleanup.run origin s).journal ++ [.cleanupFinished origin])

/-- A release runs the first cleanup, and then the others. -/
theorem journal_releaseAll_cons (origin : Nat) (cleanup : Cleanup σ κ ν)
    (rest : List (Nat × Cleanup σ κ ν)) (s : Session σ κ) :
    (releaseAll ((origin, cleanup) :: rest) s).journal =
      undoing origin cleanup s ++ (releaseAll rest (cleanup.run origin s).session).journal := by
  -- by the result of the cleanup, of which only the failures depend
  rcases h : (cleanup.run origin s).result with e | u <;>
    simp [releaseAll, undoing, Run.bind_apply, h]

/-- Releasing a cleanup touches the outcome of its own invocation only. -/
theorem isOf_undoing {origin : Nat} {cleanup : Cleanup σ κ ν} {s : Session σ κ} :
    ∀ e ∈ undoing origin cleanup s, e.isOf origin := by
  have self : (origin == origin) = true := beq_self_eq_true origin
  intro e he
  rcases List.mem_cons.mp he with rfl | he
  · exact self
  · rcases List.mem_append.mp he with he | he
    · exact Event.isOf_of_isTeardown ((cleanup.run_within origin).journal s e he)
    · rw [List.mem_singleton.mp he]
      exact self

/-- The cleanup of another invocation is no part of a life. -/
theorem lifeOf_undoing_of_ne {origin other : Nat} (h : other ≠ origin) {cleanup : Cleanup σ κ ν}
    {s : Session σ κ} : lifeOf origin (undoing other cleanup s) = [] :=
  lifeOf_eq_nil fun e he hof => h (Event.origin_eq_of_isOf (isOf_undoing e he) hof)

/-- Without a cleanup of an invocation, a release does not touch its outcome. -/
theorem lifeOf_releaseAll_of_nil {origin : Nat} {pending : List (Nat × Cleanup σ κ ν)}
    (h : cleanupsOf origin pending = []) (s : Session σ κ) :
    lifeOf origin (releaseAll pending s).journal = [] := by
  induction pending generalizing s with
  | nil => rfl
  | cons entry rest ih =>
    obtain ⟨other, cleanup⟩ := entry
    have hother : other ≠ origin := by
      rintro rfl
      rw [cleanupsOf_cons_self] at h
      cases h
    rw [cleanupsOf_cons_of_ne hother] at h
    rw [journal_releaseAll_cons, lifeOf_append, lifeOf_undoing_of_ne hother, ih h, List.nil_append]

/-- The only cleanup of an invocation is run once in a release, in the session where it starts. -/
theorem lifeOf_releaseAll {origin : Nat} {cleanup : Cleanup σ κ ν}
    {pending : List (Nat × Cleanup σ κ ν)} (h : cleanupsOf origin pending = [(origin, cleanup)])
    (s : Session σ κ) :
    lifeOf origin (releaseAll pending s).journal =
      undoing origin cleanup (startOf origin pending s) := by
  induction pending generalizing s with
  | nil => cases h
  | cons entry rest ih =>
    obtain ⟨other, cleanup'⟩ := entry
    rw [journal_releaseAll_cons, lifeOf_append]
    by_cases hother : other = origin
    · subst hother
      rw [cleanupsOf_cons_self, List.cons.injEq] at h
      obtain ⟨heq, hrest⟩ := h
      obtain rfl := (Prod.mk.inj heq).2
      rw [lifeOf_eq_self isOf_undoing, lifeOf_releaseAll_of_nil hrest, List.append_nil, startOf,
        if_pos rfl]
    · rw [cleanupsOf_cons_of_ne hother] at h
      rw [lifeOf_undoing_of_ne hother, List.nil_append, startOf, if_neg hother]
      exact ih h _

end CleanupStack

/-- What undoes the outcome of a call when cleanups run from a session: its own cleanup, if it left
one. -/
def Invocation.undoing (i : Invocation σ κ ν) (pending : List (Nat × Cleanup σ κ ν))
    (s : Session σ κ) : List Event :=
  i.held.flatMap fun entry =>
    CleanupStack.undoing i.origin entry.2 (CleanupStack.startOf i.origin pending s)

/-- A release undoes the outcome of a call once. -/
theorem Invocation.lifeOf_releaseAll {i : Invocation σ κ ν} {pending : List (Nat × Cleanup σ κ ν)}
    (h : cleanupsOf i.origin pending = i.held) (s : Session σ κ) :
    lifeOf i.origin (CleanupStack.releaseAll pending s).journal = i.undoing pending s := by
  rcases i.held_cases with hheld | ⟨cleanup, hheld⟩
  · rw [undoing, hheld, List.flatMap_nil]
    exact CleanupStack.lifeOf_releaseAll_of_nil (h.trans hheld) s
  · rw [undoing, hheld, List.flatMap_singleton]
    exact CleanupStack.lifeOf_releaseAll (h.trans hheld) s

/-- A resolution that fails has run the cleanup of a call; any other leaves it pending. -/
theorem resolve_life {chain : OverrideChain σ κ ν} {limit : Nat}
    {specs : List (DependencySpec σ κ ν)} {view : RequestView} {s : Session σ κ}
    {i : Invocation σ κ ν} (invokes : Resolver.Invokes chain limit limit [] specs (.new view) s i) :
    let t := Resolver.each (Resolver.parameter chain limit limit []) specs .empty (.new view) s
    let u := resolve chain limit specs (.new view) s
    (lifeOf i.origin u.journal = i.obtaining ∧
      cleanupsOf i.origin u.result.2.cleanup.pending = i.held) ∨
    ∃ e ctx, t.result = (.error (.failed e), ctx) ∧
      cleanupsOf i.origin ctx.cleanup.pending = i.held ∧
      lifeOf i.origin u.journal = i.obtaining ++ i.undoing ctx.cleanup.pending t.session ∧
      u.result.2.cleanup.pending = [] := by
  intro t u
  obtain ⟨added, lives⟩ := (Resolver.lives chain limit).each limit [] specs .empty (.new view) s
  have hlife : lifeOf i.origin t.journal = i.obtaining := lives.life i invokes
  have hheld : cleanupsOf i.origin t.result.2.cleanup.pending = i.held := by
    have hpending : t.result.2.cleanup.pending = added ++ [] := lives.pending
    rw [hpending, List.append_nil, lives.held i invokes]
  rcases resolve_cases chain limit specs (.new view) s with
    ⟨values, -, heq⟩ | ⟨e, he, heq⟩ | ⟨panic, -, heq⟩
  · have hu : u = t := heq
    rw [hu]
    exact .inl ⟨hlife, hheld⟩
  · refine .inr ⟨e, t.result.2, Prod.ext he rfl, hheld, ?_, ?_⟩
    · simp only [u, heq]
      rw [lifeOf_append, Context.journal_release, i.lifeOf_releaseAll hheld]
      rw [hlife]
    · simp only [u, heq]
      rfl
  · have hu : u = t := heq
    rw [hu]
    exact .inl ⟨hlife, hheld⟩

/-! ## The life in a dispatch -/

namespace Dispatcher

/-- A dispatch calls a factory, since its hooks let the request through. -/
inductive Invokes (d : Dispatcher σ κ ν) (request : Request) (s : Session σ κ)
    (i : Invocation σ κ ν) : Prop where
  | intro {t : Step σ κ Request} (admitted : Admitted d request (d.opened s) t)
      (invokes : Resolver.Invokes d.overrides d.settings.maxDependencyDepth
        d.settings.maxDependencyDepth [] d.route.dependencies (.new (d.view t.result)) t.session i)

/-- The cleanups that a dispatch runs, and the session it runs them from. -/
inductive Cleans (d : Dispatcher σ κ ν) (request : Request) (s : Session σ κ) :
    List (Nat × Cleanup σ κ ν) → Session σ κ → Prop where
  /-- Those of a failed resolution are run at once. -/
  | atOnce {t : Step σ κ Request} {u : Step σ κ (Resolved σ κ ν (Fields (Product ν)))}
      {e : DispatchError} {ctx : Context σ κ ν} (admitted : Admitted d request (d.opened s) t)
      (hu : Resolver.each (Resolver.parameter d.overrides d.settings.maxDependencyDepth
        d.settings.maxDependencyDepth []) d.route.dependencies .empty (.new (d.view t.result))
        t.session = u)
      (failed : u.result = (.error (.failed e), ctx)) :
      Cleans d request s ctx.cleanup.pending u.session
  /-- All others are run at the end, when there is a response. -/
  | atEnd {response : Response} (responds : d.outcome request s = .ok response) :
      Cleans d request s (d.passed request s).result.context.cleanup.pending
        (d.reported request s response).session

section

variable {d : Dispatcher σ κ ν} {request : Request} {s : Session σ κ}

private theorem lifeOf_hooks {origin : Nat} {journal : List Event} (h : ∀ e ∈ journal, e.isHook) :
    lifeOf origin journal = [] :=
  lifeOf_eq_nil fun e he hof => by
    have hkind := h e he
    cases e <;> simp [Event.isHook, Event.isOf] at hkind hof

private theorem lifeOf_producing {origin : Nat} {journal : List Event}
    (h : ∀ e ∈ journal, e.isProducing) : lifeOf origin journal = [] :=
  lifeOf_eq_nil fun e he hof => by
    have hkind := h e he
    cases e <;> simp [Event.isProducing, Event.isOf] at hkind hof

private theorem lifeOf_aside {origin : Nat} {journal : List Event} (h : ∀ e ∈ journal, e.isAside) :
    lifeOf origin journal = [] :=
  lifeOf_eq_nil fun e he hof => by
    have hkind := h e he
    cases e <;> simp [Event.isAside, Event.isAnswering, Event.isNotice, Event.isOf] at hkind hof

/-- Outcomes are touched in the stages and at the end only. -/
private theorem lifeOf_dispatch {response : Response} (h : d.outcome request s = .ok response)
    (origin : Nat) :
    lifeOf origin (d.dispatch request s).journal = lifeOf origin (d.passed request s).journal ++
      lifeOf origin (d.released request s response).journal := by
  have hopened : ¬ (Event.notice (.spanOpened d.spanName)).isOf origin := Bool.false_ne_true
  rw [dispatch_journal h, lifeOf_cons_of_not_isOf hopened, lifeOf_append, lifeOf_append,
    lifeOf_append, lifeOf_aside (d.responded_aside request s),
    lifeOf_aside (d.reported_aside request s response), List.append_nil, List.append_nil]

/-- A dispatch that a panic ends touches outcomes in the stages only. -/
private theorem lifeOf_dispatch_unwound {panic : Panic} (h : d.outcome request s = .error panic)
    (origin : Nat) :
    lifeOf origin (d.dispatch request s).journal = lifeOf origin (d.passed request s).journal := by
  have hspan (notice : Notice) : ¬ (Event.notice notice).isOf origin := Bool.false_ne_true
  rw [dispatch_unwound h, lifeOf_cons_of_not_isOf (hspan _), lifeOf_append, lifeOf_append,
    lifeOf_aside (d.responded_aside request s), lifeOf_cons_of_not_isOf (hspan _), lifeOf_nil,
    List.append_nil, List.append_nil]

/-- Of the stages, the resolution alone touches outcomes and leaves cleanups pending. -/
private theorem passed_resolution {t : Step σ κ Request}
    (admitted : Admitted d request (d.opened s) t) :
    let u := resolve d.overrides d.settings.maxDependencyDepth d.route.dependencies
      (.new (d.view t.result)) t.session
    (d.passed request s).result.context = u.result.2 ∧
      ∀ origin, lifeOf origin (d.passed request s).journal = lifeOf origin u.journal := by
  intro u
  rcases (d.pass_course request (d.opened s)).resolution with
    ⟨hnone, -⟩ | ⟨r, produced, ⟨admitted', rfl⟩, hctx, hjournal, hproduced⟩
  · exact absurd admitted (hnone _)
  · obtain rfl := admitted.unique admitted'
    refine ⟨hctx, fun origin => ?_⟩
    rw [passed, hjournal, lifeOf_append, lifeOf_append, lifeOf_hooks admitted.isHook,
      lifeOf_producing hproduced, List.nil_append, List.append_nil]

/-- The outcome of every call that a dispatch makes is turned into a value, if it has one, and the
cleanup that it leaves pending is run once, among those that the dispatch runs. If a panic ends the
dispatch while the cleanup is pending, it is never run. -/
theorem life {i : Invocation σ κ ν} (h : d.Invokes request s i) :
    (∃ pending u, d.Cleans request s pending u ∧ cleanupsOf i.origin pending = i.held ∧
      lifeOf i.origin (d.dispatch request s).journal = i.obtaining ++ i.undoing pending u) ∨
    ∃ panic, (d.dispatch request s).result = .error panic ∧
      lifeOf i.origin (d.dispatch request s).journal = i.obtaining := by
  obtain ⟨admitted, invokes⟩ := h
  obtain ⟨hcontext, hpassed⟩ := passed_resolution admitted
  rcases resolve_life invokes with ⟨hlife, hheld⟩ | ⟨e, ctx, failed, hheld, hlife, hempty⟩
  · rcases houtcome : d.outcome request s with panic | response
    · refine .inr ⟨panic, dispatch_eq_error.mpr houtcome, ?_⟩
      rw [lifeOf_dispatch_unwound houtcome, hpassed, hlife]
    · -- what the resolution left pending is run at the end
      rw [← hcontext] at hheld
      refine .inl ⟨_, _, .atEnd houtcome, hheld, ?_⟩
      rw [lifeOf_dispatch houtcome, hpassed, released, Context.journal_release, hlife,
        i.lifeOf_releaseAll hheld]
  · -- what the failed resolution had acquired has been run, and nothing is left
    refine .inl ⟨_, _, .atOnce admitted rfl failed, hheld, ?_⟩
    rcases houtcome : d.outcome request s with panic | response
    · rw [lifeOf_dispatch_unwound houtcome, hpassed, hlife]
    · rw [lifeOf_dispatch houtcome, hpassed, released, Context.journal_release, hlife, hcontext,
        hempty]
      exact List.append_nil _

end

end Dispatcher

end RequestDispatch
