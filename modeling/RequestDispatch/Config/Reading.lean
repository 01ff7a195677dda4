import RequestDispatch.Config.Basic
import RequestDispatch.Json.Basic

/-!
# Reading configurations

A setting is read as a configuration. Every key has a standard value and unknown keys are passed
over; a value of the wrong kind is refused. Records may also be written as lists of their values.
Settings come from layered sources or from JSON, and the two differ in one point: whether such a
list may be longer than its record.
-/

namespace RequestDispatch

namespace Setting

mutual

/-- A JSON value as a setting. -/
def ofJson : Json → Setting
  | .null => .absent
  | .bool b => .flag b
  | .int n => .whole n
  | .float x => .real (.finite x)
  | .str s => .text s
  | .arr items => .list (ofItems items)
  | .obj fields => .table (ofFields fields)

/-- JSON values as settings. -/
def ofItems : List Json → List Setting
  | [] => []
  | item :: items => ofJson item :: ofItems items

/-- Fields of a JSON object as entries of a table. -/
def ofFields : List (String × Json) → List (String × Setting)
  | [] => []
  | (key, value) :: fields => (key, ofJson value) :: ofFields fields

end

mutual

/-- A setting as a JSON value; numbers that JSON has no words for are null. -/
def toJson : Setting → Json
  | .absent => .null
  | .flag b => .bool b
  | .whole n => .int n
  | .real (.finite x) => .float x
  | .real _ => .null
  | .text s => .str s
  | .list items => .arr (toItems items)
  | .table entries => .obj (toFields entries)

/-- Settings as JSON values. -/
def toItems : List Setting → List Json
  | [] => []
  | item :: items => toJson item :: toItems items

/-- Entries of a table as fields of a JSON object. -/
def toFields : List (String × Setting) → List (String × Json)
  | [] => []
  | (key, value) :: entries => (key, toJson value) :: toFields entries

end

/-- Reads a truth value. -/
def readFlag : Setting → Option Bool
  | .flag b => some b
  | _ => none

/-- Reads a text. -/
def readText : Setting → Option String
  | .text s => some s
  | _ => none

/-- Reads a text that may be absent. -/
def readTextOrAbsent : Setting → Option (Option String)
  | .absent => some none
  | .text s => some (some s)
  | _ => none

/-- Reads a count, which has 64 bits. -/
def readCount : Setting → Option Nat
  | .whole n => if 0 ≤ n ∧ n ≤ Json.maxUnsigned then some n.toNat else none
  | _ => none

/-- Reads a list of texts. -/
def readTexts : Setting → Option (List String)
  | .list items => items.mapM readText
  | _ => none

/-- Reads one of several values by its name; a table may hold the name as its only key, with nothing
at it. -/
def readChoice {α : Type} (all : List α) (name : α → String) : Setting → Option α
  | .text s => all.find? fun a => name a == s
  | .table [(s, .absent)] => all.find? fun a => name a == s
  | _ => none

/-- Reads a table of levels. -/
def readLevels : Setting → Option (Fields LogLevel)
  | .table entries =>
    let levels := entries.mapM fun (key, value) =>
      (readChoice LogLevel.all LogLevel.name value).map fun level => (key, level)
    levels.map Fields.ofList
  | _ => none

/-- The values of a record by key. A list holds them in the order of the keys, and `surplus` says
whether it may go on after the last one. -/
def record? (surplus : Bool) (keys : List String) : Setting → Option (List (String × Setting))
  | .table entries => some entries
  | .list items =>
    if surplus ∨ items.length ≤ keys.length then some (keys.zip items) else none
  | _ => none

/-- Reads the value at a key, which has a standard value. -/
def readAt {α : Type} (values : List (String × Setting)) (key : String) (standard : α)
    (read : Setting → Option α) : Option α :=
  match values.lookup key with
  | some value => read value
  | none => some standard

end Setting

namespace Config

open Setting

/-- Reads span events. -/
def readSpanEvents (surplus : Bool) (s : Setting) : Option SpanEvents := do
  let values ← s.record? surplus ["new", "enter", "exit", "close"]
  return {
    opened := ← readAt values "new" false readFlag
    entered := ← readAt values "enter" false readFlag
    left := ← readAt values "exit" false readFlag
    closed := ← readAt values "close" false readFlag }

/-- Reads the logging section. -/
def Logging.read (surplus : Bool) (s : Setting) : Option Logging := do
  let values ← s.record? surplus
    ["level", "format", "output", "file_path", "rotation", "thread_ids", "file_location",
      "span_events", "filters"]
  return {
    level := ← readAt values "level" .info (readChoice LogLevel.all LogLevel.name)
    format := ← readAt values "format" .compact (readChoice LogFormat.all LogFormat.name)
    output := ← readAt values "output" .stdout (readChoice LogOutput.all LogOutput.name)
    filePath := ← readAt values "file_path" none readTextOrAbsent
    rotation := ← readAt values "rotation" .never (readChoice LogRotation.all LogRotation.name)
    threadIds := ← readAt values "thread_ids" false readFlag
    fileLocation := ← readAt values "file_location" false readFlag
    spanEvents := ← readAt values "span_events" {} (readSpanEvents surplus)
    filters := ← readAt values "filters" .empty readLevels }

/-- Reads the dispatch section. -/
def Dispatch.read (surplus : Bool) (s : Setting) : Option Dispatch := do
  let values ← s.record? surplus ["max_dependency_depth", "media_types"]
  let standard : Dispatch := {}
  return {
    maxDependencyDepth :=
      ← readAt values "max_dependency_depth" standard.maxDependencyDepth readCount
    mediaTypes := ← readAt values "media_types" standard.mediaTypes readTexts }

/-- Reads the observability section. -/
def Observability.read (surplus : Bool) (s : Setting) : Option Observability := do
  let values ← s.record? surplus ["enabled", "span_prefix"]
  let standard : Observability := {}
  return {
    enabled := ← readAt values "enabled" standard.enabled readFlag
    spanPrefix := ← readAt values "span_prefix" standard.spanPrefix readText }

/-- Reads a configuration. -/
def read (surplus : Bool) (s : Setting) : Option Config := do
  let values ← s.record? surplus ["logging", "dispatch", "observability"]
  return {
    logging := ← readAt values "logging" {} (Logging.read surplus)
    dispatch := ← readAt values "dispatch" {} (Dispatch.read surplus)
    observability := ← readAt values "observability" {} (Observability.read surplus) }

/-- The configuration that layered sources describe. -/
def ofSetting? (s : Setting) : Option Config := read true s

/-- The configuration that a JSON value describes. -/
def ofJson? (value : Json) : Option Config := read false (Setting.ofJson value)

/-- A configuration as JSON, with every key. -/
def toJson (c : Config) : Json := c.setting.toJson

end Config

end RequestDispatch
