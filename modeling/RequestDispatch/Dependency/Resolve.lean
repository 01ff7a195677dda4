import RequestDispatch.Dependency.Override

/-!
# Resolving dependencies

Parameters are resolved in order and depth first: the declared factory is replaced through the
override chain, a shared value is reused, and otherwise the factory is called with the values of its
own dependencies. Factories on the way down may not repeat and their number is bounded; the bound
also makes the recursion end. When a parameter fails, everything acquired so far is released before
the error is returned. A panic that is not contained ends the resolution at once: nothing is
released.
-/

namespace RequestDispatch

/-- What a request has resolved so far. -/
structure Context (σ κ ν : Type) where
  view : RequestView
  /-- The shared values by factory. -/
  cache : List (FactoryId × Product ν)
  cleanup : CleanupStack σ κ ν
  /-- The number of factory invocations so far. -/
  invocations : Nat

namespace Context

variable {σ κ ν : Type}

/-- The context of a request of which nothing is resolved. -/
def new (view : RequestView) : Context σ κ ν := ⟨view, [], .empty, 0⟩

/-- The shared value of a factory, if the factory takes part in sharing and has one. -/
def cached? (ctx : Context σ κ ν) (f : Factory σ κ ν) : Option (Product ν) :=
  if f.usesCache then ctx.cache.lookup f.id else none

/-- The context with one more invocation. -/
def invoked (ctx : Context σ κ ν) : Context σ κ ν := { ctx with invocations := ctx.invocations + 1 }

/-- The context with a pending cleanup. -/
def pending (ctx : Context σ κ ν) (origin : Nat) (cleanup : Cleanup σ κ ν) : Context σ κ ν :=
  { ctx with cleanup := ctx.cleanup.push origin cleanup }

/-- The context with the value of a factory shared, if the factory takes part in sharing. -/
def share (ctx : Context σ κ ν) (f : Factory σ κ ν) (p : Product ν) : Context σ κ ν :=
  if f.usesCache then { ctx with cache := (f.id, p) :: ctx.cache } else ctx

/-- Runs the pending cleanups; also the context without them. -/
def release (ctx : Context σ κ ν) : Run σ κ (List DispatchError × Context σ κ ν) := do
  return (← ctx.cleanup.release, { ctx with cleanup := .empty })

end Context

/-- What resolving gives: a result and the context after it. -/
abbrev Resolved (σ κ ν α : Type) := Except (Stop DispatchError) α × Context σ κ ν

namespace Resolver

variable {σ κ ν : Type}

/-- Takes up the value of an invocation: its cleanup is pending, and it is shared. -/
def settle (f : Factory σ κ ν) (origin : Nat) (normalized : Outcome.Normalized σ κ ν)
    (ctx : Context σ κ ν) : Resolved σ κ ν (Product ν) :=
  let product : Product ν := ⟨origin, normalized.value⟩
  match normalized.cleanup with
  | some cleanup => (.ok product, (ctx.pending origin cleanup).share f product)
  | none => (.ok product, ctx.share f product)

/-- Calls a factory for a parameter. An error of the call that names no dependency gets the name of
the parameter. -/
def produce (parameter : String) (f : Factory σ κ ν) (values : Fields (Product ν))
    (ctx : Context σ κ ν) : Run σ κ (Resolved σ κ ν (Product ν)) := do
  let origin := ctx.invocations
  let args : FactoryArgs ν := ⟨if f.wantsRequest then some ctx.view else none, values⟩
  let event := Event.invoked f.id f.usesCache origin (values.map Product.origin)
  match (← Run.perform event (f.call args)).called f.mode with
  | .error stop =>
    return (.error (stop.map fun e => e.withDependencyName parameter), ctx.invoked)
  | .ok outcome =>
    match ← outcome.normalize origin with
    | .error e => return (.error (.failed e), ctx.invoked)
    | .ok normalized =>
      Run.enter (.received parameter f.id f.usesCache origin)
      return settle f origin normalized ctx.invoked

/-- Resolves parameters in order, given how one is resolved. The first one that stops ends it. -/
def each (one : DependencySpec σ κ ν → Context σ κ ν → Run σ κ (Resolved σ κ ν (Product ν))) :
    List (DependencySpec σ κ ν) → Fields (Product ν) → Context σ κ ν →
      Run σ κ (Resolved σ κ ν (Fields (Product ν)))
  | [], values, ctx => pure (.ok values, ctx)
  | spec :: specs, values, ctx => do
    match ← one spec ctx with
    | (.error stop, ctx) => return (.error stop, ctx)
    | (.ok product, ctx) => each one specs (values.set spec.1 product) ctx

/-- Resolves one parameter with at most `levels` factories below those on the path. -/
def parameter (chain : OverrideChain σ κ ν) (limit : Nat) :
    Nat → List FactoryId → DependencySpec σ κ ν → Context σ κ ν →
      Run σ κ (Resolved σ κ ν (Product ν))
  | levels, path, (name, declared), ctx =>
    let f := chain.effective declared
    match ctx.cached? f with
    | some product => do
      Run.enter (.received name f.id f.usesCache product.origin)
      return (.ok product, ctx)
    | none =>
      if path.contains f.id then
        pure (.error (.failed (.internal (.dependencyCycle name f.name))), ctx)
      else
        match levels with
        | 0 => pure (.error (.failed (.internal (.nestingTooDeep limit name))), ctx)
        | levels + 1 => do
          Run.enter (.entered f.id name)
          match ← each (parameter chain limit levels (path ++ [f.id])) f.dependencies .empty ctx with
          | (.error stop, ctx) => return (.error stop, ctx)
          | (.ok values, ctx) =>
            Run.enter (.left f.id)
            produce name f values ctx

end Resolver

/-- Resolves parameters in order. When one fails, what was acquired is released. -/
def resolve {σ κ ν : Type} (chain : OverrideChain σ κ ν) (limit : Nat)
    (specs : List (DependencySpec σ κ ν)) (ctx : Context σ κ ν) :
    Run σ κ (Resolved σ κ ν (Fields (Product ν))) := do
  match ← Resolver.each (Resolver.parameter chain limit limit []) specs .empty ctx with
  | (.ok values, ctx) => return (.ok values, ctx)
  | (.error (.failed e), ctx) =>
    let (_, ctx) ← ctx.release
    return (.error (.failed e), ctx)
  | (.error (.unwound panic), ctx) => return (.error (.unwound panic), ctx)

end RequestDispatch
