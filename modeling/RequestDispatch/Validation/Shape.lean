import RequestDispatch.Json.Basic

/-!
# Shapes of parameters

What a route declares about its input: where a parameter is read from, its name, the shape of its
value, and what stands in for it when it may be missing.
-/

namespace RequestDispatch

/-- Whether a field has to be there, and else what stands in for it. -/
inductive Presence where
  | required
  | optional (fallback : Json)

mutual

/-- The shape a value is brought into. -/
inductive Shape where
  | int
  | float
  | bool
  | str
  /-- Any JSON value as it is. -/
  | any
  | list (inner : Shape)
  /-- An object with the declared fields; other keys are dropped. -/
  | object (fields : List Field)

/-- A named field of an object. -/
inductive Field where
  | mk (name : String) (shape : Shape) (presence : Presence)

end

namespace Field

/-- The name of a field. -/
def name : Field → String
  | .mk name _ _ => name

/-- The shape of a field. -/
def shape : Field → Shape
  | .mk _ shape _ => shape

/-- Whether a field has to be there. -/
def presence : Field → Presence
  | .mk _ _ presence => presence

/-- A field that has to be there. -/
def required (name : String) (shape : Shape) : Field := .mk name shape .required

/-- Whether the field has to be there. -/
def isRequired (f : Field) : Bool :=
  match f.presence with
  | .required => true
  | .optional _ => false

/-- The field made optional; a default it has stays, without one it is null. -/
def optional (f : Field) : Field :=
  match f.presence with
  | .required => .mk f.name f.shape (.optional .null)
  | .optional _ => f

/-- The field made optional with a default. -/
def withDefault (f : Field) (value : Json) : Field := .mk f.name f.shape (.optional value)

end Field

/-- Where a parameter is read from. -/
inductive ParamSource where
  | path
  | query
  | header
  | body
  deriving DecidableEq, Repr

/-- The name of a source, which begins the location of its errors. -/
def ParamSource.name : ParamSource → String
  | .path => "path"
  | .query => "query"
  | .header => "header"
  | .body => "body"

/-- A declared parameter of a route. -/
structure Param where
  source : ParamSource
  field : Field

end RequestDispatch
