import RequestDispatch.Config.Setting
import RequestDispatch.Dispatch.Basic

/-!
# Configurations

A `Config` says how an application logs, which limits its dispatchers keep and whether it collects
telemetry. `{}` is the configuration in force where no source says anything. `Config.setting` writes
a configuration out as the layer that sets every key.
-/

namespace RequestDispatch

/-- How important a log line is, the least important first. -/
inductive LogLevel where
  | trace
  | debug
  | info
  | warn
  | error
  deriving DecidableEq, Repr

/-- How a log line is laid out. -/
inductive LogFormat where
  | compact
  | full
  | pretty
  | json
  deriving DecidableEq, Repr

/-- Where log lines go. -/
inductive LogOutput where
  | stdout
  | stderr
  | file
  deriving DecidableEq, Repr

/-- When a new log file is begun. -/
inductive LogRotation where
  | never
  | hourly
  | daily
  deriving DecidableEq, Repr

namespace LogLevel

/-- The levels, the least important first. -/
def all : List LogLevel := [.trace, .debug, .info, .warn, .error]

/-- The name of a level. -/
def name : LogLevel → String
  | trace => "trace"
  | debug => "debug"
  | info => "info"
  | warn => "warn"
  | error => "error"

/-- The name of a level as log lines show it. -/
def label (level : LogLevel) : String := String.ofList (level.name.toList.map Char.toUpper)

/-- The rank of a level: the lower, the more important. -/
def rank : LogLevel → Nat
  | error => 1
  | warn => 2
  | info => 3
  | debug => 4
  | trace => 5

end LogLevel

/-- The name of a format. -/
def LogFormat.name : LogFormat → String
  | compact => "compact"
  | full => "full"
  | pretty => "pretty"
  | json => "json"

/-- The formats. -/
def LogFormat.all : List LogFormat := [.compact, .full, .pretty, .json]

/-- The name of an output. -/
def LogOutput.name : LogOutput → String
  | stdout => "stdout"
  | stderr => "stderr"
  | file => "file"

/-- The outputs. -/
def LogOutput.all : List LogOutput := [.stdout, .stderr, .file]

/-- The name of a rotation. -/
def LogRotation.name : LogRotation → String
  | never => "never"
  | hourly => "hourly"
  | daily => "daily"

/-- The rotations. -/
def LogRotation.all : List LogRotation := [.never, .hourly, .daily]

/-- Which turns in the life of a span are logged. -/
structure SpanEvents where
  opened : Bool := false
  entered : Bool := false
  left : Bool := false
  closed : Bool := false
  deriving DecidableEq, Repr

/-- The turns that are logged, by name. -/
def SpanEvents.turns (e : SpanEvents) : List String :=
  ([("new", e.opened), ("enter", e.entered), ("exit", e.left), ("close", e.closed)].filter
    (·.2)).map (·.1)

/-- The usual choices of span events by name. -/
def SpanEvents.presets : List (String × SpanEvents) :=
  [("NONE", {}), ("LIFECYCLE", { opened := true, closed := true }),
    ("ACTIVE", { entered := true, left := true }), ("FULL", ⟨true, true, true, true⟩)]

namespace Config

/-- How an application logs. -/
structure Logging where
  level : LogLevel := .info
  format : LogFormat := .compact
  output : LogOutput := .stdout
  /-- The log file, for output to a file. -/
  filePath : Option String := none
  rotation : LogRotation := .never
  /-- Whether lines show the number of their thread. -/
  threadIds : Bool := false
  /-- Whether lines show the place in the program they come from. -/
  fileLocation : Bool := false
  spanEvents : SpanEvents := {}
  /-- Levels of single modules. -/
  filters : Fields LogLevel := .empty
  deriving DecidableEq, Repr

/-- What all dispatchers keep to. -/
structure Dispatch where
  /-- The greatest number of factories on a chain of dependencies. -/
  maxDependencyDepth : Nat := DispatchSettings.standard.maxDependencyDepth
  /-- The media types of routes that declare none, the preferred ones first. -/
  mediaTypes : List String := DispatchSettings.standard.mediaTypes
  deriving DecidableEq, Repr

/-- What is collected about requests. -/
structure Observability where
  /-- Whether the application collects counters and records when it is given no place for them. -/
  enabled : Bool := true
  /-- What the names of spans begin with. -/
  spanPrefix : String := DispatchSettings.standard.spanPrefix
  deriving DecidableEq, Repr

end Config

/-- The configuration of an application. -/
structure Config where
  logging : Config.Logging := {}
  dispatch : Config.Dispatch := {}
  observability : Config.Observability := {}
  deriving DecidableEq, Repr

namespace Config

/-- What a configuration says to the dispatchers. -/
def settings (c : Config) : DispatchSettings :=
  ⟨c.dispatch.maxDependencyDepth, c.dispatch.mediaTypes, c.observability.spanPrefix⟩

/-- Span events with every key set. -/
def spanEventsSetting (e : SpanEvents) : Setting :=
  .table
    [("close", .flag e.closed), ("enter", .flag e.entered), ("exit", .flag e.left),
      ("new", .flag e.opened)]

/-- The logging section with every key set. -/
def Logging.setting (l : Logging) : Setting :=
  .table
    [("file_location", .flag l.fileLocation),
      ("file_path", (l.filePath.map Setting.text).getD .absent),
      ("filters", .table (l.filters.map fun level => .text level.name).entries),
      ("format", .text l.format.name), ("level", .text l.level.name),
      ("output", .text l.output.name), ("rotation", .text l.rotation.name),
      ("span_events", spanEventsSetting l.spanEvents), ("thread_ids", .flag l.threadIds)]

/-- The dispatch section with every key set. -/
def Dispatch.setting (d : Dispatch) : Setting :=
  .table
    [("max_dependency_depth", .whole d.maxDependencyDepth),
      ("media_types", .list (d.mediaTypes.map Setting.text))]

/-- The observability section with every key set. -/
def Observability.setting (o : Observability) : Setting :=
  .table [("enabled", .flag o.enabled), ("span_prefix", .text o.spanPrefix)]

/-- The layer that sets every key of a configuration. -/
def setting (c : Config) : Setting :=
  .table
    [("dispatch", c.dispatch.setting), ("logging", c.logging.setting),
      ("observability", c.observability.setting)]

end Config

end RequestDispatch
