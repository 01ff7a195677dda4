import RequestDispatch.Config.Basic
import RequestDispatch.FileSystem
import RequestDispatch.Json.Basic
import RequestDispatch.Text.Quoted

/-!
# What a configuration must keep to

`Config.check` finds the first rule that a configuration breaks: of the log filters, the log file,
the depth of dependencies, the media types and the span names, in this order. `ConfigFault` has the
causes for which a configuration is refused, those of its sources included.
-/

namespace RequestDispatch

/-- What is wrong with a media type that routes are to produce. -/
inductive MediaTypeFault where
  /-- It is not made of a type and a subtype. -/
  | malformed
  /-- Its type or its subtype is a wildcard. -/
  | wildcard
  deriving DecidableEq, Repr

/-- Why there is no usable configuration. -/
inductive ConfigFault where
  | fileNotFound (path : String)
  | unknownFormat (extension : String)
  /-- A source cannot be read, or says something that has no meaning. -/
  | unreadable
  | badFilterTarget (target : String)
  | noFileName (path : String)
  | depthZero
  | missing (key : String)
  | badMediaType (mediaType : String) (fault : MediaTypeFault)
  deriving DecidableEq, Repr

namespace ConfigFault

/-- The name of the kind of a fault. -/
def kind : ConfigFault → String
  | fileNotFound _ => "FileNotFound"
  | unknownFormat _ | unreadable => "ParseError"
  | badFilterTarget _ | noFileName _ | depthZero => "ValidationError"
  | missing _ => "MissingField"
  | badMediaType _ _ => "InvalidMediaType"

/-- The wording of a fault; what is wrong inside a source has no fixed wording. -/
def message? : ConfigFault → Option String
  | fileNotFound path => some ("Configuration file not found: " ++ path)
  | unknownFormat ext =>
    some
      ("Failed to parse configuration: Unsupported or disabled configuration file format: ." ++ ext)
  | unreadable => none
  | badFilterTarget target =>
    some ("Invalid configuration: Invalid logging filter target: " ++ Text.quoted target)
  | noFileName path => some ("Invalid configuration: Log file path has no file name: " ++ path)
  | depthZero => some "Invalid configuration: Maximum dependency depth must be greater than 0"
  | missing key => some ("Missing required configuration field: " ++ key)
  | badMediaType mediaType .malformed =>
    some ("Invalid media type: " ++ mediaType ++ " - expected type/subtype")
  | badMediaType mediaType .wildcard =>
    some ("Invalid media type: " ++ mediaType ++ " - wildcards cannot be produced")

/-- A fault as JSON. -/
def toJson (fault : ConfigFault) : Json :=
  .object
    (("error", .str fault.kind) ::
      (fault.message?.map fun message => ("message", .str message)).toList)

end ConfigFault

namespace Config

/-- Whether a text names a module: it is not empty and has no white space. -/
def isTarget (target : String) : Bool := target != "" && !target.toList.any Text.isBlank

/-- What is wrong with a media type, if anything is. -/
def mediaTypeFault? (mediaType : String) : Option MediaTypeFault :=
  match Text.cut '/' mediaType with
  | none => some .malformed
  | some (kind, subtype) =>
    if Text.trim kind = "" ∨ Text.trim subtype = "" ∨ '/' ∈ subtype.toList then some .malformed
    else if kind = "*" ∨ subtype = "*" then some .wildcard
    else none

/-- The first fault of the logging section. -/
def Logging.fault? (l : Logging) : Option ConfigFault :=
  match l.filters.entries.find? fun (target, _) => !isTarget target with
  | some (target, _) => some (.badFilterTarget target)
  | none =>
    match l.output, l.filePath with
    | .file, some path =>
      if (FilePath.fileName? path).isNone then some (.noFileName path) else none
    | _, _ => none

/-- The first fault of the dispatch section. -/
def Dispatch.fault? (d : Dispatch) : Option ConfigFault :=
  if d.maxDependencyDepth = 0 then some .depthZero
  else if d.mediaTypes.isEmpty then some (.missing "dispatch.media_types")
  else
    d.mediaTypes.findSome? fun mediaType =>
      (mediaTypeFault? mediaType).map fun fault => .badMediaType mediaType fault

/-- The fault of the observability section. -/
def Observability.fault? (o : Observability) : Option ConfigFault :=
  if Text.trim o.spanPrefix = "" then some (.missing "observability.span_prefix") else none

/-- The first fault of a configuration. -/
def fault? (c : Config) : Option ConfigFault :=
  c.logging.fault?.or (c.dispatch.fault?.or c.observability.fault?)

/-- Accepts a configuration without fault. -/
def check (c : Config) : Except ConfigFault Unit :=
  match c.fault? with
  | some fault => .error fault
  | none => .ok ()

end Config

end RequestDispatch
