import Mathlib.Data.List.Nodup
import RequestDispatch.Proofs.Resolver

/-!
# The end of every resolution

`Resolver.parameter` counts down the levels that are left, and hands every call a path of its own.
`Resolver.parameterInPlace` has no such count: all calls share one path, which grows before the
dependencies of a factory are resolved and shrinks when they have their values. Overrides may tie
the factories into cycles, so nothing but the look at this path can end the recursion. Its results
are watched through a bound on how deep calls are nested, and there is none where they would have to
be nested deeper. `resolve_terminates` says that every call has its result from some bound on, that
a resolution is the one of `resolve`, and what the shared path holds at every call.
-/

namespace RequestDispatch

/-! ## Resolving on one path -/

/-- How far a resolution has come. -/
structure Trail (σ κ ν : Type) where
  /-- The factories whose dependencies are being resolved, from the top down. -/
  path : List FactoryId
  context : Context σ κ ν
  session : Session σ κ
  journal : List Event

namespace Trail

variable {σ κ ν α : Type}

/-- Nothing is resolved yet. -/
def start (ctx : Context σ κ ν) (s : Session σ κ) : Trail σ κ ν := ⟨[], ctx, s, []⟩

/-- A factory is added to the path. -/
def push (trail : Trail σ κ ν) (id : FactoryId) : Trail σ κ ν :=
  { trail with path := trail.path ++ [id] }

/-- The last factory is taken from the path. -/
def pop (trail : Trail σ κ ν) : Trail σ κ ν := { trail with path := trail.path.dropLast }

/-- An event happens. -/
def enter (trail : Trail σ κ ν) (event : Event) : Trail σ κ ν :=
  { trail with journal := trail.journal ++ [event] }

/-- A step is made that leaves the path alone. -/
def advance (trail : Trail σ κ ν) (t : Step σ κ (Resolved σ κ ν α)) :
    Except (Stop DispatchError) α × Trail σ κ ν :=
  (t.result.1, ⟨trail.path, t.result.2, t.session, trail.journal ++ t.journal⟩)

end Trail

namespace Resolver

variable {σ κ ν : Type}

/-- The dependencies of a factory are about to be resolved, for a parameter. -/
def descended (name : String) (f : Factory σ κ ν) (trail : Trail σ κ ν) : Trail σ κ ν :=
  (trail.enter (.entered f.id name)).push f.id

/-- The dependencies of a factory have their values, and it is called with them. -/
def ascended (name : String) (f : Factory σ κ ν) (values : Fields (Product ν))
    (trail : Trail σ κ ν) : Except (Stop DispatchError) (Product ν) × Trail σ κ ν :=
  let trail := trail.pop.enter (.left f.id)
  trail.advance (produce name f values trail.context trail.session)

/-- Resolves parameters in order, given how one is resolved. The first failure ends it. -/
def eachInPlace
    (one : DependencySpec σ κ ν → Trail σ κ ν →
      Option (Except (Stop DispatchError) (Product ν) × Trail σ κ ν)) :
    List (DependencySpec σ κ ν) → Fields (Product ν) → Trail σ κ ν →
      Option (Except (Stop DispatchError) (Fields (Product ν)) × Trail σ κ ν)
  | [], values, trail => some (.ok values, trail)
  | spec :: specs, values, trail => do
    match ← one spec trail with
    | (.error e, trail) => return (.error e, trail)
    | (.ok product, trail) => eachInPlace one specs (values.set spec.1 product) trail

/-- Resolves one parameter on a path that is changed in place, with at most this many calls inside
one another. After a failure the path stays as it is. -/
def parameterInPlace (chain : OverrideChain σ κ ν) (limit : Nat) :
    Nat → DependencySpec σ κ ν → Trail σ κ ν →
      Option (Except (Stop DispatchError) (Product ν) × Trail σ κ ν)
  | 0, _, _ => none
  | depth + 1, (name, declared), trail =>
    let f := chain.effective declared
    match trail.context.cached? f with
    | some product => some (.ok product, trail.enter (receiptEvent name f product.origin))
    | none =>
      if f.id ∈ trail.path then
        some (.error (.failed (.internal (.dependencyCycle name f.name))), trail)
      else if limit ≤ trail.path.length then
        some (.error (.failed (.internal (.nestingTooDeep limit name))), trail)
      else do
        match ← eachInPlace (parameterInPlace chain limit depth) f.dependencies .empty
          (descended name f trail) with
        | (.error e, trail) => return (.error e, trail)
        | (.ok values, trail) => return ascended name f values trail

end Resolver

/-- Resolves parameters on one path. When one fails, what was acquired is released. -/
def resolveInPlace {σ κ ν : Type} (chain : OverrideChain σ κ ν) (limit depth : Nat)
    (specs : List (DependencySpec σ κ ν)) (ctx : Context σ κ ν) (s : Session σ κ) :
    Option (Step σ κ (Resolved σ κ ν (Fields (Product ν)))) := do
  match ← Resolver.eachInPlace (Resolver.parameterInPlace chain limit depth) specs .empty
    (.start ctx s) with
  | (.ok values, trail) => return ⟨(.ok values, trail.context), trail.session, trail.journal⟩
  | (.error (.failed e), trail) =>
    let released := trail.context.release trail.session
    return ⟨(.error (.failed e), released.result.2), released.session,
      trail.journal ++ released.journal⟩
  | (.error (.unwound panic), trail) =>
    return ⟨(.error (.unwound panic), trail.context), trail.session, trail.journal⟩

namespace Resolver

variable {σ κ ν α : Type} {chain : OverrideChain σ κ ν} {limit depth : Nat}

/-- A call comes to its end with this result, if calls may be nested deep enough. -/
def Ends (chain : OverrideChain σ κ ν) (limit : Nat) (spec : DependencySpec σ κ ν)
    (trail : Trail σ κ ν) (ending : Except (Stop DispatchError) (Product ν) × Trail σ κ ν) : Prop :=
  ∃ depth, parameterInPlace chain limit depth spec trail = some ending

/-! ## Calls -/

/-- A call for a parameter, and what it finds. -/
structure Visit (σ κ ν : Type) where
  spec : DependencySpec σ κ ν
  trail : Trail σ κ ν

/-- The factory that a call is to get the value of. -/
def Visit.factory (chain : OverrideChain σ κ ν) (call : Visit σ κ ν) : Factory σ κ ν :=
  chain.effective call.spec.2

/-- In resolving parameters from a trail on, a call is made for one of them: those before it have
their values by then. -/
inductive Visits (chain : OverrideChain σ κ ν) (limit : Nat) :
    List (DependencySpec σ κ ν) → Trail σ κ ν → Visit σ κ ν → Prop where
  | first (spec : DependencySpec σ κ ν) (specs : List (DependencySpec σ κ ν))
      (trail : Trail σ κ ν) : Visits chain limit (spec :: specs) trail ⟨spec, trail⟩
  | later {spec : DependencySpec σ κ ν} {specs : List (DependencySpec σ κ ν)}
      {trail trail' : Trail σ κ ν} {product : Product ν} {call : Visit σ κ ν}
      (h : Ends chain limit spec trail (.ok product, trail'))
      (rest : Visits chain limit specs trail' call) : Visits chain limit (spec :: specs) trail call

/-- A call calls again, for a parameter that its factory declares. -/
structure Recurs (chain : OverrideChain σ κ ν) (limit : Nat) (call call' : Visit σ κ ν) : Prop where
  fresh : call.trail.context.cached? (call.factory chain) = none
  acyclic : (call.factory chain).id ∉ call.trail.path
  shallow : call.trail.path.length < limit
  visits : Visits chain limit (call.factory chain).dependencies
    (descended call.spec.1 (call.factory chain) call.trail) call'

/-- The calls of a resolution, at the top and below. -/
inductive Made (chain : OverrideChain σ κ ν) (limit : Nat) (specs : List (DependencySpec σ κ ν))
    (trail : Trail σ κ ν) : Visit σ κ ν → Prop where
  | top {call : Visit σ κ ν} (h : Visits chain limit specs trail call) :
      Made chain limit specs trail call
  | again {call call' : Visit σ κ ν} (h : Made chain limit specs trail call)
      (h' : Recurs chain limit call call') : Made chain limit specs trail call'

/-! ## The equation on each way -/

section Ways

variable {name : String} {declared : Factory σ κ ν} {trail : Trail σ κ ν}

theorem parameterInPlace_shared {p : Product ν}
    (hp : trail.context.cached? (chain.effective declared) = some p) :
    parameterInPlace chain limit (depth + 1) (name, declared) trail =
      some (.ok p, trail.enter (receiptEvent name (chain.effective declared) p.origin)) := by
  rw [parameterInPlace]
  simp only [hp]

theorem parameterInPlace_cyclic
    (hnone : trail.context.cached? (chain.effective declared) = none)
    (hpath : (chain.effective declared).id ∈ trail.path) :
    parameterInPlace chain limit (depth + 1) (name, declared) trail =
      some (.error (.failed (.internal (.dependencyCycle name (chain.effective declared).name))),
        trail) := by
  rw [parameterInPlace]
  simp only [hnone, if_pos hpath]

theorem parameterInPlace_deep
    (hnone : trail.context.cached? (chain.effective declared) = none)
    (hpath : (chain.effective declared).id ∉ trail.path) (hlimit : limit ≤ trail.path.length) :
    parameterInPlace chain limit (depth + 1) (name, declared) trail =
      some (.error (.failed (.internal (.nestingTooDeep limit name))), trail) := by
  rw [parameterInPlace]
  simp only [hnone, if_neg hpath, if_pos hlimit]

theorem parameterInPlace_descends
    (hnone : trail.context.cached? (chain.effective declared) = none)
    (hpath : (chain.effective declared).id ∉ trail.path) (hlimit : trail.path.length < limit) :
    parameterInPlace chain limit (depth + 1) (name, declared) trail = (do
      match ← eachInPlace (parameterInPlace chain limit depth)
        (chain.effective declared).dependencies .empty
        (descended name (chain.effective declared) trail) with
      | (.error e, trail) => return (.error e, trail)
      | (.ok values, trail) => return ascended name (chain.effective declared) values trail) := by
  rw [parameterInPlace]
  simp only [hnone, if_neg hpath, if_neg (Nat.not_le_of_lt hlimit)]

end Ways

/-! ## The path instead of the count -/

/-- A computation ends, as a step of the resolver from a trail on does. Only a failure leaves
another path than that of the trail. -/
def Does (trail : Trail σ κ ν) (t : Step σ κ (Resolved σ κ ν α))
    (m : Option (Except (Stop DispatchError) α × Trail σ κ ν)) : Prop :=
  ∃ path, m = some (t.result.1, ⟨path, t.result.2, t.session, trail.journal ++ t.journal⟩) ∧
    ∀ a, t.result.1 = .ok a → path = trail.path

namespace Does

variable {trail : Trail σ κ ν} {t : Step σ κ (Resolved σ κ ν α)} {ctx : Context σ κ ν}
  {m : Option (Except (Stop DispatchError) α × Trail σ κ ν)}

theorem error {e : Stop DispatchError} (h : Does trail t m) (ht : t.result = (.error e, ctx)) :
    ∃ path, m = some (.error e, ⟨path, ctx, t.session, trail.journal ++ t.journal⟩) := by
  obtain ⟨path, hm, -⟩ := h
  rw [ht] at hm
  exact ⟨path, hm⟩

theorem ok {a : α} (h : Does trail t m) (ht : t.result = (.ok a, ctx)) :
    m = some (.ok a, ⟨trail.path, ctx, t.session, trail.journal ++ t.journal⟩) := by
  obtain ⟨path, hm, hpath⟩ := h
  rw [hm, hpath a (congrArg Prod.fst ht), ht]

end Does

/-- Below a factory there is one level less, and the path is longer by one. -/
private theorem levels_below {levels : Nat} {path : List FactoryId} {id : FactoryId}
    (h : levels + 1 = limit - path.length) : levels = limit - (path ++ [id]).length := by
  rw [List.length_append, List.length_singleton]
  omega

/-- With as many levels left as the path may still grow, the resolver does on one path what it does
with a count, and calls are nested no deeper than these levels. -/
theorem Cases.inPlace (chain : OverrideChain σ κ ν) (limit : Nat) :
    Cases chain limit
      (fun levels path spec ctx s t => levels = limit - path.length → ∀ spare journal,
        Does ⟨path, ctx, s, journal⟩ t
          (parameterInPlace chain limit (levels + spare + 1) spec ⟨path, ctx, s, journal⟩))
      (fun levels path specs values ctx s t => levels = limit - path.length → ∀ spare journal,
        Does ⟨path, ctx, s, journal⟩ t
          (eachInPlace (parameterInPlace chain limit (levels + spare + 1)) specs values
            ⟨path, ctx, s, journal⟩)) where
  shared levels path name declared ctx s p hp _ spare journal :=
    ⟨path, parameterInPlace_shared hp, fun _ _ => rfl⟩
  cyclic levels path name declared ctx s hnone hpath _ spare journal := by
    refine ⟨path, ?_, nofun⟩
    rw [parameterInPlace_cyclic hnone hpath, List.append_nil]
  deep path name declared ctx s hnone hpath hlevels spare journal := by
    refine ⟨path, ?_, nofun⟩
    have hlimit : limit ≤ path.length := Nat.sub_eq_zero_iff_le.mp hlevels.symm
    rw [parameterInPlace_deep hnone hpath hlimit, List.append_nil]
  unmet levels path name declared ctx s t e ctx' hnone hpath _ h ht hlevels spare journal := by
    have hlimit : path.length < limit := by omega
    obtain ⟨left, heach⟩ := (h (levels_below hlevels) spare
      (journal ++ [.entered (chain.effective declared).id name])).error ht
    refine ⟨left, ?_, nofun⟩
    rw [parameterInPlace_descends hnone hpath hlimit, Nat.add_right_comm levels 1 spare, descended,
      Trail.push, Trail.enter, heach]
    simp
  called levels path name declared ctx s t values ctx' u hnone hpath _ h ht hu hlevels spare
      journal := by
    subst hu
    have hlimit : path.length < limit := by omega
    have heach := (h (levels_below hlevels) spare
      (journal ++ [.entered (chain.effective declared).id name])).ok ht
    refine ⟨path, ?_, fun _ _ => rfl⟩
    rw [parameterInPlace_descends hnone hpath hlimit, Nat.add_right_comm levels 1 spare, descended,
      Trail.push, Trail.enter, heach]
    -- what was added to the path below is taken from it again
    simp [ascended, Trail.pop, Trail.enter, Trail.advance]
  done levels path values ctx s _ spare journal := by
    refine ⟨path, ?_, fun _ _ => rfl⟩
    rw [eachInPlace, List.append_nil]
  failed levels path spec specs values ctx s t e ctx' _ h ht hlevels spare journal := by
    obtain ⟨left, hone⟩ := (h hlevels spare journal).error ht
    refine ⟨left, ?_, nofun⟩
    rw [eachInPlace, hone]
    rfl
  next levels path spec specs values ctx s t p ctx' u _ h ht hrest hlevels spare journal := by
    obtain ⟨left, heach, hleft⟩ := hrest hlevels spare (journal ++ t.journal)
    refine ⟨left, ?_, hleft⟩
    rw [eachInPlace, (h hlevels spare journal).ok ht, ← List.append_assoc]
    exact heach

/-- A call comes to its end whatever path it finds, with calls nested as deep as this path may still
grow. -/
theorem parameterInPlace_does (chain : OverrideChain σ κ ν) (limit : Nat)
    (spec : DependencySpec σ κ ν) (trail : Trail σ κ ν) {depth : Nat}
    (h : limit - trail.path.length < depth) :
    Does trail
      (parameter chain limit (limit - trail.path.length) trail.path spec trail.context
        trail.session)
      (parameterInPlace chain limit depth spec trail) := by
  obtain ⟨spare, rfl⟩ := Nat.exists_eq_add_of_lt h
  exact (Cases.inPlace chain limit).parameter (limit - trail.path.length) trail.path spec
    trail.context
    trail.session rfl spare trail.journal

/-! ## Nesting deeper -/

/-- Parameters keep their result if each of them keeps its own. -/
theorem eachInPlace_mono
    {one one' : DependencySpec σ κ ν → Trail σ κ ν →
      Option (Except (Stop DispatchError) (Product ν) × Trail σ κ ν)}
    (h : ∀ spec trail ending, one spec trail = some ending → one' spec trail = some ending)
    {specs : List (DependencySpec σ κ ν)} {values : Fields (Product ν)} {trail : Trail σ κ ν}
    {ending : Except (Stop DispatchError) (Fields (Product ν)) × Trail σ κ ν}
    (hending : eachInPlace one specs values trail = some ending) :
    eachInPlace one' specs values trail = some ending := by
  induction specs generalizing values trail with
  | nil => exact hending
  | cons spec specs ih =>
    obtain ⟨⟨result, trail'⟩, hone, hrest⟩ := Option.bind_eq_some_iff.mp hending
    rw [eachInPlace, h spec trail _ hone]
    cases result with
    | error e => exact hrest
    | ok product => exact ih hrest

/-- A result stays when calls may be nested deeper. -/
theorem parameterInPlace_succ {spec : DependencySpec σ κ ν} {trail : Trail σ κ ν}
    {ending : Except (Stop DispatchError) (Product ν) × Trail σ κ ν}
    (h : parameterInPlace chain limit depth spec trail = some ending) :
    parameterInPlace chain limit (depth + 1) spec trail = some ending := by
  induction depth generalizing spec trail ending with
  | zero => cases h
  | succ depth ih =>
    obtain ⟨name, declared⟩ := spec
    rcases hnone : trail.context.cached? (chain.effective declared) with _ | p
    · by_cases hpath : (chain.effective declared).id ∈ trail.path
      · rw [parameterInPlace_cyclic hnone hpath] at h ⊢
        exact h
      · by_cases hlimit : limit ≤ trail.path.length
        · rw [parameterInPlace_deep hnone hpath hlimit] at h ⊢
          exact h
        · rw [parameterInPlace_descends hnone hpath (Nat.lt_of_not_le hlimit)] at h ⊢
          obtain ⟨⟨result, trail'⟩, heach, hrest⟩ := Option.bind_eq_some_iff.mp h
          rw [eachInPlace_mono (fun _ _ _ => ih) heach]
          exact hrest
    · rw [parameterInPlace_shared hnone] at h ⊢
      exact h

theorem parameterInPlace_mono {depth' : Nat} {spec : DependencySpec σ κ ν} {trail : Trail σ κ ν}
    {ending : Except (Stop DispatchError) (Product ν) × Trail σ κ ν} (hle : depth ≤ depth')
    (h : parameterInPlace chain limit depth spec trail = some ending) :
    parameterInPlace chain limit depth' spec trail = some ending := by
  induction hle with
  | refl => exact h
  | step _ ih => exact parameterInPlace_succ ih

/-- A call that comes to its end does so as soon as calls may be nested as deep as its path may
still grow. -/
theorem Ends.eq_some {spec : DependencySpec σ κ ν} {trail : Trail σ κ ν}
    {ending : Except (Stop DispatchError) (Product ν) × Trail σ κ ν}
    (h : Ends chain limit spec trail ending) (hdepth : limit - trail.path.length < depth) :
    parameterInPlace chain limit depth spec trail = some ending := by
  obtain ⟨enough, h⟩ := h
  obtain ⟨path, hdoes, -⟩ := parameterInPlace_does chain limit spec trail hdepth
  -- both results stay at the greater of the two depths
  have hsame := (parameterInPlace_mono (Nat.le_max_left enough depth) h).symm.trans
    (parameterInPlace_mono (Nat.le_max_right enough depth) hdoes)
  rw [hdoes, hsame]

/-- A call that gives a value leaves the path as it was. -/
theorem Ends.restores {spec : DependencySpec σ κ ν} {trail trail' : Trail σ κ ν}
    {product : Product ν} (h : Ends chain limit spec trail (.ok product, trail')) :
    trail'.path = trail.path := by
  obtain ⟨path, heq, hpath⟩ := parameterInPlace_does chain limit spec trail (Nat.lt_succ_self _)
  obtain ⟨hresult, rfl⟩ :=
    Prod.mk.inj (Option.some.inj ((h.eq_some (Nat.lt_succ_self _)).symm.trans heq))
  exact hpath product hresult.symm

/-! ## The path at a call -/

/-- All calls for a list of parameters find the same path. -/
theorem Visits.path {specs : List (DependencySpec σ κ ν)} {trail : Trail σ κ ν} {call : Visit σ κ ν}
    (h : Visits chain limit specs trail call) : call.trail.path = trail.path := by
  induction h with
  | first => rfl
  | later h _ ih => rw [ih, h.restores]

namespace Recurs

variable {call call' : Visit σ κ ν}

/-- A recursive call finds the path of the call that makes it, with its factory added. -/
theorem path (h : Recurs chain limit call call') :
    call'.trail.path = call.trail.path ++ [(call.factory chain).id] := h.visits.path

theorem length (h : Recurs chain limit call call') :
    call'.trail.path.length = call.trail.path.length + 1 := by
  rw [h.path, List.length_append, List.length_singleton]

/-- What the path may still grow shrinks from call to call. -/
theorem wellFounded (chain : OverrideChain σ κ ν) (limit : Nat) :
    WellFounded fun call' call => Recurs chain limit call call' := by
  refine Subrelation.wf (fun {call' call} h => ?_)
    (measure fun call : Visit σ κ ν => limit - call.trail.path.length).wf
  have hshallow := h.shallow
  have hlength := h.length
  show limit - call'.trail.path.length < limit - call.trail.path.length
  omega

end Recurs

/-- The path that a call of a resolution finds repeats nothing and is not too long. -/
theorem Made.path {specs : List (DependencySpec σ κ ν)} {ctx : Context σ κ ν} {s : Session σ κ}
    {call : Visit σ κ ν} (h : Made chain limit specs (.start ctx s) call) :
    call.trail.path.Nodup ∧ call.trail.path.length ≤ limit := by
  induction h with
  | top h =>
    have hnil : _ = [] := h.path
    simp [hnil]
  | again _ h' ih =>
    constructor
    · rw [h'.path, ← List.concat_eq_append]
      exact ih.1.concat h'.acyclic
    · rw [h'.length]
      exact h'.shallow

end Resolver

/-- A resolution on one path is the resolution. -/
theorem resolveInPlace_eq {σ κ ν : Type} (chain : OverrideChain σ κ ν) {limit depth : Nat}
    (h : limit < depth) (specs : List (DependencySpec σ κ ν)) (ctx : Context σ κ ν)
    (s : Session σ κ) :
    resolveInPlace chain limit depth specs ctx s = some (resolve chain limit specs ctx s) := by
  obtain ⟨spare, rfl⟩ := Nat.exists_eq_add_of_lt h
  have does := (Resolver.Cases.inPlace chain limit).each limit [] specs .empty ctx s rfl spare []
  rcases ht :
    (Resolver.each (Resolver.parameter chain limit limit []) specs .empty ctx s).result with
    ⟨(e | panic) | values, ctx'⟩
  · obtain ⟨path, heach⟩ := does.error ht
    rw [resolveInPlace, Trail.start, heach]
    simp [resolve, Run.bind_apply, ht]
  · obtain ⟨path, heach⟩ := does.error ht
    rw [resolveInPlace, Trail.start, heach]
    simp [resolve, Run.bind_apply, ht]
  · rw [resolveInPlace, Trail.start, does.ok ht]
    simp [resolve, Run.bind_apply, ht]

/-! ## The recursion as a whole -/

/-- The recursion of the resolver ends, by its look at the path. -/
structure Resolver.Terminates {σ κ ν : Type} (chain : OverrideChain σ κ ν) (limit : Nat) :
    Prop where
  /-- A call comes to its end, whatever the path that it finds: calls below it are nested no deeper
  than this path may still grow. -/
  ends : ∀ spec trail, ∃ ending, ∀ depth, limit - trail.path.length < depth →
    Resolver.parameterInPlace chain limit depth spec trail = some ending
  /-- A result that it has stays when calls may be nested deeper. -/
  stays : ∀ depth depth' spec trail ending, depth ≤ depth' →
    Resolver.parameterInPlace chain limit depth spec trail = some ending →
      Resolver.parameterInPlace chain limit depth' spec trail = some ending
  /-- It does what the resolver does with this path and as many levels as it may still grow. -/
  does : ∀ spec trail depth, limit - trail.path.length < depth → Resolver.Does trail
    (Resolver.parameter chain limit (limit - trail.path.length) trail.path spec trail.context
      trail.session)
    (Resolver.parameterInPlace chain limit depth spec trail)
  /-- There is no endless descent from call to call. -/
  wellFounded : WellFounded fun call' call => Resolver.Recurs chain limit call call'
  /-- A recursive call finds the path of the call that makes it, with the factory of that call added
  and nothing else. -/
  extends_path : ∀ call call', Resolver.Recurs chain limit call call' →
    call'.trail.path = call.trail.path ++ [(call.factory chain).id]
  /-- A call that gives a value leaves the path as it was. -/
  restores : ∀ spec trail product trail',
    Resolver.Ends chain limit spec trail (.ok product, trail') → trail'.path = trail.path
  /-- At every call of a resolution the path repeats no factory and is no longer than it may be. -/
  path : ∀ specs ctx s call, Resolver.Made chain limit specs (.start ctx s) call →
    call.trail.path.Nodup ∧ call.trail.path.length ≤ limit
  /-- A resolution on one path is the resolution. -/
  same : ∀ depth, limit < depth → ∀ specs ctx s,
    resolveInPlace chain limit depth specs ctx s = some (resolve chain limit specs ctx s)

/-- The recursion of the resolver ends, however overrides tie the factories together and however
long a chain of them may be. -/
theorem resolve_terminates {σ κ ν : Type} (chain : OverrideChain σ κ ν) (limit : Nat) :
    Resolver.Terminates chain limit where
  ends spec trail := by
    -- a depth that is one more than the levels left is enough
    obtain ⟨path, heq, -⟩ := Resolver.parameterInPlace_does chain limit spec trail
      (Nat.lt_succ_self _)
    have h : Resolver.Ends chain limit spec trail _ := ⟨_, heq⟩
    exact ⟨_, fun depth => h.eq_some⟩
  stays _ _ _ _ _ := Resolver.parameterInPlace_mono
  does spec trail _ := Resolver.parameterInPlace_does chain limit spec trail
  wellFounded := Resolver.Recurs.wellFounded chain limit
  extends_path _ _ h := h.path
  restores _ _ _ _ h := h.restores
  path _ _ _ _ h := h.path
  same _ := resolveInPlace_eq chain

/-- A user that needs a pool, where overrides put the user in its place. -/
example :
    let pool : Factory Unit Unit Nat := .ofValue 1 "pool" 5
    let user := (Factory.ofValue 2 "user" 7).dependsOn "pool" pool
    let chain := OverrideChain.empty.push (.insert .empty pool user)
    (resolveInPlace chain 32 33 [("user", user)] (.new (.bind (.new "GET" "/") []))
        ⟨(), (), []⟩).map (fun t => (t.result.1, t.journal)) =
      some (.error (.failed (.internal (.dependencyCycle "pool" "user"))),
        [.entered 2 "user"]) := by
  cbv

end RequestDispatch
