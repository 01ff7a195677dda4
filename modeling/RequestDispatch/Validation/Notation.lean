import RequestDispatch.Json.Access
import RequestDispatch.Validation.Shape

/-!
# Parameters as JSON

Declarations of parameters in JSON form. A shape is the name of a simple shape, or an array of
`list` and the shape of the items, or an array of `object` and its fields. A field is an object with
a name, a shape, and perhaps a default or the mark that it is optional.
-/

namespace RequestDispatch

/-- The field of a name and a shape, with the default or the mark that the entries hold. -/
def Field.ofEntries (entries : List (String × Json)) (shape : Shape) : Field :=
  let spec := Json.obj entries
  let base := Field.required (spec.field "name").text shape
  let base :=
    match spec.get? "default" with
    | some value => base.withDefault value
    | none => base
  if (spec.field "optional").flag then base.optional else base

mutual

/-- The shape that a JSON value denotes. -/
def Shape.ofJson : Json → Shape
  | .str "int" => .int
  | .str "float" => .float
  | .str "bool" => .bool
  | .str "str" => .str
  | .arr [.str "list", inner] => .list (Shape.ofJson inner)
  | .arr [.str "object", .arr fields] => .object (Shape.fields fields)
  | _ => .any

/-- The fields that JSON objects denote. -/
def Shape.fields : List Json → List Field
  | [] => []
  | .obj entries :: rest => Field.ofEntries entries (Shape.ofEntries entries) :: Shape.fields rest
  | _ :: rest => Shape.fields rest

/-- The shape among the entries of a field. -/
def Shape.ofEntries : List (String × Json) → Shape
  | [] => .any
  | (key, value) :: rest => if key = "shape" then Shape.ofJson value else Shape.ofEntries rest

end

/-- The parameter that a JSON object denotes; one without a known source is read from the body. -/
def Param.ofJson (value : Json) : Param :=
  let source := [ParamSource.path, .query, .header].find? fun source =>
    source.name == (value.field "in").text
  ⟨source.getD .body, Field.ofEntries value.entries (Shape.ofEntries value.entries)⟩

end RequestDispatch
