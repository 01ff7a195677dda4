import RequestDispatch.Dependency.Factory
import RequestDispatch.Http.Response

/-!
# Handlers of routes

What the handler of a route is called with and what it may answer. Parameters come by name as
validated JSON and are read at the type the handler expects; dependencies come by name as what the
factories gave, or as access to the background queue.
-/

namespace RequestDispatch

/-- What a handler finds under the name of a dependency. -/
inductive Given (ν : Type) where
  | product (product : Product ν)
  /-- Access to the background queue of the request. -/
  | background

/-- What a handler is called with. -/
structure Arguments (ν : Type) where
  /-- The validated parameters. -/
  values : Fields Json
  dependencies : Fields (Given ν)
  request : RequestView

namespace Arguments

variable {ν : Type}

/-- The value of a parameter. -/
def value? (args : Arguments ν) (name : String) : Option Json := args.values.get? name

/-- The value of a parameter at the expected type. -/
def get (args : Arguments ν) (α : Type) [Json.Decode α] (name : String) : Except DispatchError α :=
  match args.value? name with
  | none => .error (.internal (.unknownParameter name))
  | some value =>
    (Json.Decode.decode value).mapError fun mismatch =>
      .internal (.parameterMismatch name mismatch)

/-- The dependency of a name. -/
def dependency (args : Arguments ν) (name : String) : Except DispatchError (Given ν) :=
  match args.dependencies.get? name with
  | none => .error (.internal (.unknownDependency name))
  | some given => .ok given

end Arguments

/-- The value of a factory's own dependency. -/
def FactoryArgs.dependency {ν : Type} (args : FactoryArgs ν) (name : String) :
    Except DispatchError (Product ν) :=
  match args.values.get? name with
  | none => .error (.internal (.unknownDependency name))
  | some product => .ok product

/-- What a handler answers. -/
inductive Output (σ κ : Type) where
  /-- A response as it is. -/
  | response (response : Response)
  /-- Chunks of a body that are pulled one after another. -/
  | stream (status : Status) (mediaType : String) (chunks : List (Effect σ κ Bytes))
  /-- A value that is written in the media type the caller prefers. -/
  | value (value : Json)
  | withStatus (status : Status) (value : Json)
  | empty

/-- The code behind a route. -/
structure Handler (σ κ ν : Type) where
  mode : Mode
  call : Arguments ν → Effect σ κ (Output σ κ)

end RequestDispatch
