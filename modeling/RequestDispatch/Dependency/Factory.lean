import RequestDispatch.Dependency.Outcome
import RequestDispatch.Http.Request

/-!
# Dependency factories

A factory makes a value that handlers and other factories depend on. It names the factories that it
depends on itself, says whether it reads the request and whether its value may be shared within a
request. Copies of a factory keep its identity and its code; what they declare may differ.
-/

namespace RequestDispatch

/-- A value with the number of the invocation that gave it. -/
structure Product (ν : Type) where
  origin : Nat
  value : ν
  deriving DecidableEq, Repr

/-- What a factory is called with. -/
structure FactoryArgs (ν : Type) where
  /-- The request, if the factory declared that it reads it. -/
  request : Option RequestView
  /-- The values of its own dependencies by parameter. -/
  values : Fields (Product ν)

/-- A dependency factory. -/
structure Factory (σ κ ν : Type) where
  id : FactoryId
  name : String
  mode : Mode
  call : FactoryArgs ν → Effect σ κ (Outcome σ κ ν)
  /-- The factories it depends on, by parameter. -/
  dependencies : List (String × Factory σ κ ν)
  wantsRequest : Bool
  usesCache : Bool

/-- A parameter bound to a factory. -/
abbrev DependencySpec (σ κ ν : Type) := String × Factory σ κ ν

namespace Factory

variable {σ κ ν : Type}

/-- A factory that depends on nothing, does not read the request and shares its value. -/
def new (id : FactoryId) (name : String) (mode : Mode)
    (call : FactoryArgs ν → Effect σ κ (Outcome σ κ ν)) : Factory σ κ ν :=
  { id, name, mode, call, dependencies := [], wantsRequest := false, usesCache := true }

/-- A factory that always gives this value. -/
def ofValue (id : FactoryId) (name : String) (value : ν) : Factory σ κ ν :=
  new id name .async fun _ => Effect.value (.immediate value)

/-- Declares a dependency. -/
def dependsOn (f : Factory σ κ ν) (parameter : String) (on : Factory σ κ ν) : Factory σ κ ν :=
  { f with dependencies := f.dependencies ++ [(parameter, on)] }

/-- Declares that the factory reads the request. -/
def withRequest (f : Factory σ κ ν) : Factory σ κ ν := { f with wantsRequest := true }

/-- Declares that every parameter gets a value of its own. -/
def noCache (f : Factory σ κ ν) : Factory σ κ ν := { f with usesCache := false }

end Factory

end RequestDispatch
