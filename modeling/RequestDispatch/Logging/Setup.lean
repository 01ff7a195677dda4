import RequestDispatch.Config.Reading
import RequestDispatch.FileSystem
import RequestDispatch.Logging.Filter

/-!
# Logging setups

A setup says what is logged, how lines look and where they go. It comes from a configuration or is
put together step by step. The variable `RUST_LOG` takes the place of the level, and directives are
added on top of either.
-/

namespace RequestDispatch

/-- How logging is set up. -/
structure LogSetup where
  level : LogLevel := .info
  /-- Directives on top of the level, in order. -/
  directives : List String := []
  spanEvents : SpanEvents := {}
  format : LogFormat := .compact
  output : LogOutput := .stdout
  /-- Whether lines show their module. -/
  target : Bool := true
  /-- Whether lines show the number of their thread. -/
  threadIds : Bool := false
  /-- Whether lines show the file they come from. -/
  file : Bool := false
  /-- Whether lines show the number of the line they come from. -/
  lineNumber : Bool := false
  filePath : Option String := none
  rotation : LogRotation := .never
  deriving DecidableEq, Repr

/-- Where log lines end up. -/
inductive LogSink where
  | stdout
  | stderr
  /-- A file; the path is without what rotation adds to it. -/
  | file (path : String) (rotation : LogRotation)
  deriving DecidableEq, Repr

/-- The path of the file that lines go to on a day and in an hour, if they go to a file. -/
def LogSink.path? (sink : LogSink) (day hour : String) : Option String :=
  match sink with
  | .file path .never => some path
  | .file path .hourly => some (path ++ "." ++ hour)
  | .file path .daily => some (path ++ "." ++ day)
  | _ => none

/-- What a setup could not have as it asked. -/
inductive LogFallback where
  /-- The full format took the place of JSON. -/
  | format
  /-- Standard output took the place of a file that was not named. -/
  | output
  deriving DecidableEq, Repr

namespace LogSetup

/-- The setup that a configuration describes. -/
def ofConfig (l : Config.Logging) : LogSetup :=
  { level := l.level
    directives := l.filters.entries.map fun (target, level) => target ++ "=" ++ level.name
    spanEvents := l.spanEvents
    format := l.format
    output := l.output
    threadIds := l.threadIds
    file := l.fileLocation
    lineNumber := l.fileLocation
    filePath := l.filePath
    rotation := l.rotation }

/-- A setup with one of its properties changed. The property and its value are given by name; an
unknown value changes nothing. -/
def change (s : LogSetup) (key : String) (value : Setting) : LogSetup :=
  let flag := (Setting.readFlag value).getD false
  let text := (Setting.readText value).getD ""
  match key with
  | "level" => { s with level := (Verbosity.ofWord? text).join.getD s.level }
  | "directive" => { s with directives := s.directives ++ [text] }
  | "span_events" =>
    { s with spanEvents := (SpanEvents.presets.lookup text).getD s.spanEvents }
  | "format" =>
    { s with format := (Setting.readChoice LogFormat.all LogFormat.name value).getD s.format }
  | "output" =>
    { s with output := (Setting.readChoice LogOutput.all LogOutput.name value).getD s.output }
  | "rotation" =>
    { s with
      rotation := (Setting.readChoice LogRotation.all LogRotation.name value).getD s.rotation }
  | "target" => { s with target := flag }
  | "thread_ids" => { s with threadIds := flag }
  | "file" => { s with file := flag }
  | "line_number" => { s with lineNumber := flag }
  | "file_path" => { s with filePath := some text }
  | _ => s

/-- The filter that the text of `RUST_LOG` describes, unless a part of it is no directive. -/
def filterOfVariable? (text : String) : Option LogFilter :=
  (((Text.split ',' text).filter (· != "")).mapM Directive.parse).map LogFilter.mk

/-- The filter of a setup without the directives on top. -/
def baseFilter (s : LogSetup) (rustLog : Option String) : LogFilter :=
  (rustLog.bind filterOfVariable?).getD ⟨[⟨none, none, [], some s.level⟩]⟩

/-- The filter of a setup. -/
def filter (s : LogSetup) (rustLog : Option String) : LogFilter :=
  (s.directives.filterMap Directive.parse).foldl LogFilter.add (s.baseFilter rustLog)

/-- The directives on top that are none. They are passed over and reported on standard error. -/
def ignored (s : LogSetup) : List String := s.directives.filter fun d => (Directive.parse d).isNone

/-- The path of the log file: a path that names no file leads to one with a standard name. -/
def logFile (path : String) : String :=
  let parts := FilePath.components path
  let parts :=
    if (FilePath.fileName? path).isSome then parts else parts.dropLast ++ ["conduit.log"]
  "/".intercalate
    (parts.foldl (fun done part => if part == ".." then done.dropLast else done ++ [part]) [])

/-- Where lines end up. -/
def sink (s : LogSetup) : LogSink :=
  match s.output, s.filePath with
  | .stdout, _ => .stdout
  | .stderr, _ => .stderr
  | .file, some path => .file (logFile path) s.rotation
  | .file, none => .stdout

/-- What the setup cannot have; a warning tells of each. -/
def fallbacks (s : LogSetup) : List LogFallback :=
  (if s.format = .json then [.format] else []) ++
    (if s.output = .file ∧ s.filePath.isNone then [.output] else [])

/-- Whether the module stands by itself on a line. In compact and pretty lines the number of the
line is joined to it when there is no file between them. -/
def showsTarget (s : LogSetup) : Bool :=
  s.target && !((s.format = .compact || s.format = .pretty) && s.lineNumber && !s.file)

/-- What lines show beside their message, by name. -/
def shows (s : LogSetup) : List String :=
  ([("target", s.showsTarget), ("thread", s.threadIds), ("file", s.file)].filter (·.2)).map (·.1)

end LogSetup

end RequestDispatch
