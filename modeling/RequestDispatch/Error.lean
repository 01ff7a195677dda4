import RequestDispatch.ErrorClass
import RequestDispatch.FileSystem
import RequestDispatch.Http.Headers
import RequestDispatch.Http.Status
import RequestDispatch.Json.Decode
import RequestDispatch.Mode

/-!
# Errors of a dispatch

Everything that can go wrong while a request is served is a `DispatchError`: rejected input, an
explicit status, a refusing dependency, an error of the application's own classes, a broken rule
inside, or anything else that application code raises. `message` words an error and `errorClass`
gives the class by which a handler for it is found.
-/

namespace RequestDispatch

/-- One step of the way to a field: a name or a list index. -/
inductive LocItem where
  | key (name : String)
  | index (position : Nat)
  deriving DecidableEq, Repr

/-- A step as JSON. -/
def LocItem.toJson : LocItem → Json
  | .key name => .str name
  | .index position => .int position

/-- What is wrong with one field of the input. -/
structure FieldError where
  /-- The source of the input and the way to the field. -/
  location : List LocItem
  /-- The machine-readable name of the defect. -/
  kind : String
  message : String
  /-- The rejected input. -/
  input : Json
  deriving DecidableEq

/-- A field error as JSON. -/
def FieldError.toJson (e : FieldError) : Json :=
  .object
    [("loc", .arr (e.location.map LocItem.toJson)), ("msg", .str e.message), ("type", .str e.kind),
      ("input", e.input)]

/-- The body that reports field errors. -/
def FieldError.report (errors : List FieldError) : Json :=
  .object [("detail", .arr (errors.map FieldError.toJson))]

/-- An error with a status, a detail and headers of its own. -/
structure HttpError where
  status : Status
  detail : Json
  headers : Headers
  deriving DecidableEq

/-- The error whose detail is the registered phrase of its status. -/
def HttpError.ofStatus (status : Status) : HttpError :=
  ⟨status, .str (status.reason?.getD "Unknown Status"), .empty⟩

/-- The causes of internal errors. -/
inductive InternalCause where
  /-- A text that application code gave. -/
  | stated (text : String)
  | panicked (mode : Mode) (panic : Panic)
  /-- A one-value source ended before its value. -/
  | noYield
  /-- A one-value source went on after its value. -/
  | extraYield
  /-- A scoped resource was acquired without a value. -/
  | nothingAcquired
  | dependencyCycle (parameter factory : String)
  | nestingTooDeep (limit : Nat) (parameter : String)
  | unknownParameter (name : String)
  | parameterMismatch (name : String) (mismatch : Json.Mismatch)
  | unknownDependency (name : String)
  | invalidLocation (text : String)
  | invalidMediaType (text : String)
  | invalidCookie (name : String)
  | unreadableFile (path : String) (fault : FileFault)
  deriving DecidableEq

/-- What is wrong with a text that is no header value. -/
def headerValueFault : String := "failed to parse header value"

/-- The wording of a cause. -/
def InternalCause.text : InternalCause → String
  | .stated text => text
  | .panicked mode panic => mode.name ++ " task panicked: " ++ panic.text
  | .noYield => "single-step dependency yielded no value"
  | .extraYield => "single-step dependency yielded more than one value"
  | .nothingAcquired => "scoped dependency yielded no value"
  | .dependencyCycle parameter factory =>
    "dependency cycle detected at '" ++ parameter ++ "' (" ++ factory ++ ")"
  | .nestingTooDeep limit parameter =>
    "dependency nesting exceeds " ++ toString limit ++ " levels at '" ++ parameter ++ "'"
  | .unknownParameter name => "no parameter named '" ++ name ++ "'"
  | .parameterMismatch name mismatch =>
    "parameter '" ++ name ++ "' has an unexpected shape: " ++ mismatch.message
  | .unknownDependency name => "no dependency named '" ++ name ++ "'"
  | .invalidLocation text => "invalid redirect location '" ++ text ++ "': " ++ headerValueFault
  | .invalidMediaType text => "invalid media type '" ++ text ++ "': " ++ headerValueFault
  | .invalidCookie name => "invalid cookie '" ++ name ++ "': " ++ headerValueFault
  | .unreadableFile path fault => "reading " ++ path ++ ": " ++ fault.text

/-- What can go wrong while a request is served. -/
inductive DispatchError where
  | validation (errors : List FieldError)
  | http (error : HttpError)
  /-- A dependency refused; the name is that of the parameter, empty while unknown. -/
  | dependency (name message : String)
  | application (errorClass : ErrorClass) (message : String)
  | internal (cause : InternalCause)
  | unhandled (message : String)
  deriving DecidableEq

namespace DispatchError

/-- The wording of an error. -/
def message : DispatchError → String
  | .validation errors => toString errors.length ++ " validation error(s)"
  | .http e => "HTTP " ++ e.status.display ++ ": " ++ e.detail.render
  | .dependency name message => "dependency '" ++ name ++ "' failed: " ++ message
  | .application errorClass message => errorClass.name ++ ": " ++ message
  | .internal cause => "internal error: " ++ cause.text
  | .unhandled message => message

/-- The name of the kind of an error. -/
def kind : DispatchError → String
  | .validation _ => "Validation"
  | .http _ => "Http"
  | .dependency _ _ => "Dependency"
  | .application _ _ => "Application"
  | .internal _ => "Internal"
  | .unhandled _ => "Unhandled"

/-- The class by which a handler for the error is found. -/
def errorClass : DispatchError → ErrorClass
  | .validation _ => .requestValidationError
  | .http _ => .httpError
  | .dependency _ _ => .dependencyError
  | .application errorClass _ => errorClass
  | .internal _ => .internalError
  | .unhandled _ => .exception

/-- A dependency error without a name gets this one; any other error stays. -/
def withDependencyName (e : DispatchError) (name : String) : DispatchError :=
  match e with
  | .dependency known message => if known.isEmpty then .dependency name message else e
  | _ => e

end DispatchError

end RequestDispatch
