import RequestDispatch.Http.Request
import RequestDispatch.Json.Parser
import RequestDispatch.Validation.Coerce

/-!
# Validating requests

`validate` reads every declared parameter of a request and gives either all values by name or every
error found, in the order of the declarations. A body that is no JSON object is one error of its
own, told last, and no parameter of the body is judged then.
-/

namespace RequestDispatch

/-- Brings texts from the path, the query or the headers into the shape of a field: a list takes all
of them, any other shape the last. -/
def coerceTexts (field : Field) (location : List LocItem) (texts : List String) : Checked Json :=
  match texts.getLast? with
  | none => absent field.presence location .null
  | some last =>
    match field.shape with
    | .list inner =>
      (collect (texts.mapIdx fun i text => coerceText inner (location ++ [.index i]) text)).map .arr
    | shape => coerceText shape location last

/-- Whether the octets are ASCII white space alone. -/
def isBlankBody (body : Bytes) : Bool :=
  body.all fun b => b == 32 || b == 9 || b == 10 || b == 12 || b == 13

/-- The JSON value of a body; a blank body is an empty object. -/
def readBody (body : Bytes) : Except FieldError Json :=
  if isBlankBody body then .ok (.obj [])
  else
    (Json.parse body).mapError fun e =>
      Defect.error .jsonText [.key "body", .index e.column] (.str (Utf8.decodeLossy body))

/-- The one error of a body that is no JSON object. -/
def bodyError? : Except FieldError Json → Option FieldError
  | .error e => some e
  | .ok value =>
    if value.isObject then none else some (Defect.error .objectKind [.key "body"] value)

namespace Param

/-- The name of a parameter. -/
def name (p : Param) : String := p.field.name

/-- Where the errors of a parameter are located. -/
def location (p : Param) : List LocItem := [.key p.source.name, .key p.name]

/-- The header name of a parameter: dashes stand where its own name has underscores. -/
def headerName (p : Param) : String := Text.replace '_' '-' p.name

/-- The texts a request has for a parameter that is not read from the body. -/
def texts (p : Param) (view : RequestView) : List String :=
  match p.source with
  | .path => (view.pathParam? p.name).toList
  | .query => view.queryValues p.name
  | .header => (view.request.headers.getAll p.headerName).filterMap visibleText?
  | .body => []

/-- The value of a parameter, or its errors. Nothing at all when the body it is read from is no
object. -/
def read (p : Param) (view : RequestView) (body : Except FieldError Json) : Option (Checked Json) :=
  match p.source with
  | .body =>
    match body with
    | .ok (.obj fields) => some ((coerceField p.field [.key "body"] (.obj fields)).map (·.2))
    | _ => none
  | _ => some (coerceTexts p.field p.location (p.texts view))

end Param

/-- The errors of a result. -/
def Checked.errors {α : Type} : Checked α → List FieldError
  | .ok _ => []
  | .error errors => errors

/-- The values of all parameters by name, or every error. -/
def validate (params : List Param) (view : RequestView) : Checked (Fields Json) :=
  let body := readBody view.request.body
  let results := params.filterMap fun p => (p.read view body).map fun result => (p.name, result)
  let judged := params.any fun p => p.source == .body
  let errors :=
    results.flatMap (fun (_, result) => result.errors) ++
      (if judged then (bodyError? body).toList else [])
  if errors.isEmpty then
    .ok (Fields.ofList
      (results.filterMap fun (name, result) => result.toOption.map fun value => (name, value)))
  else .error errors

end RequestDispatch
