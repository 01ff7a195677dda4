import RequestDispatch.Http.Response

/-!
# Default answers to errors

The response to an error that no handler claims. Only rejected input, explicit statuses and
dependencies refusing while they are resolved say anything to the client; every other error is the
same bare 500. There is no answer to an explicit status whose headers overflow the map of the
response: adding them panics.
-/

namespace RequestDispatch

/-- Where in a dispatch an error arose. -/
inductive Stage where
  | preHook
  | resolution
  | validation
  | handler
  | shaping
  | postHook
  deriving DecidableEq, Repr

namespace Stage

/-- The name of a stage. -/
def name : Stage → String
  | .preHook => "pre_hook"
  | .resolution => "resolution"
  | .validation => "validation"
  | .handler => "handler"
  | .shaping => "shaping"
  | .postHook => "post_hook"

/-- The stages in the order of a dispatch. -/
def all : List Stage := [.preHook, .resolution, .validation, .handler, .shaping, .postHook]

end Stage

/-- The report of a dependency that refused. -/
def dependencyReport (name message : String) : Json :=
  FieldError.report
    [{ location := [.key "dependency", .key name], kind := "dependency_error", message
       input := .null }]

/-- The response to an error that arose at a stage. -/
def defaultResponse (error : DispatchError) (stage : Stage) : Except Panic Response :=
  let generic := Response.json 500 (.object [("detail", .str "Internal Server Error")])
  match error with
  | .validation errors => .ok (Response.json 422 (FieldError.report errors))
  | .http e =>
    let response :=
      if e.status.hasNoBody then Response.ofStatus e.status
      else Response.json e.status (.object [("detail", e.detail)])
    (response.headers.extend e.headers).map fun headers => { response with headers }
  | .dependency name message =>
    .ok (if stage = .resolution then Response.json 422 (dependencyReport name message) else generic)
  | _ => .ok generic

end RequestDispatch
