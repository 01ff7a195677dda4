import RequestDispatch.Config.Basic
import RequestDispatch.Number.Decimal

/-!
# Log directives

A directive is a text that says how verbose log lines may be: of everything (`info`), of the modules
whose names begin in a certain way (`store=debug`), or inside a span (`store[query]=trace`). Without
a level it allows everything.
-/

namespace RequestDispatch

/-- How verbose log lines may be: up to a level, or not at all. -/
abbrev Verbosity := Option LogLevel

namespace Verbosity

/-- The rank of the least important level that is allowed, zero if none is. -/
def rank (v : Verbosity) : Nat := (v.map LogLevel.rank).getD 0

/-- Whether a level is allowed. -/
def allows (v : Verbosity) (level : LogLevel) : Bool := level.rank ≤ v.rank

/-- The name of the least important level that is allowed. -/
def name (v : Verbosity) : String := (v.map LogLevel.name).getD "off"

/-- The verbosity that a word or a digit names, whatever its letter case. -/
def ofWord? (word : String) : Option Verbosity :=
  let named := LogLevel.all.find? fun level => level.name == Text.lowerAscii word
  match named with
  | some level => some (some level)
  | none =>
    if Text.lowerAscii word = "off" then some none
    else if Text.startsWith word "-" then none
    else
      match readInt word with
      | some 0 => some none
      | some n => (LogLevel.all.find? fun level => (level.rank : Int) == n).map some
      | none => none

end Verbosity

/-- A field that a directive asks for. -/
structure DirectiveField where
  name : String
  /-- Whether the field must have a certain value, too. -/
  hasValue : Bool
  deriving DecidableEq, Repr

/-- A rule of a log filter. -/
structure Directive where
  /-- How the names of the modules concerned begin. -/
  target : Option String
  /-- The name of the span inside which the rule counts. -/
  span : Option String
  fields : List DirectiveField
  verbosity : Verbosity
  deriving DecidableEq, Repr

namespace Directive

/-- Whether the character may come first in the name of a module. -/
def isInitial (c : Char) : Bool :=
  c.isAlphanum || c == '-' || c == ':' || c == '_' || (128 ≤ c.toNat && !Text.isBlank c)

/-- Reads the level at the end of a directive; an empty one allows everything. -/
def readLevel (cs : List Char) : Option Verbosity :=
  let word := cs.takeWhile (· != ',')
  if (cs.drop word.length).length ≤ 1 then
    if word.isEmpty then some (some .trace) else Verbosity.ofWord? (String.ofList word)
  else none

/-- Completes a directive with what follows its brackets. -/
def readEnd (target span : Option String) (fields : List DirectiveField) :
    List Char → Option Directive
  | [] => some ⟨target, span, fields, some .trace⟩
  | '=' :: rest => (readLevel rest).map fun verbosity => ⟨target, span, fields, verbosity⟩
  | _ => none

/-- Reads a field. -/
def readField (cs : List Char) : Option DirectiveField :=
  if cs.isEmpty then none
  else
    let name := cs.takeWhile (· != '=')
    some ⟨String.ofList name, name.length < cs.length⟩

/-- Reads what follows an opening bracket: the name of a span and fields. -/
def readBrackets (target : Option String) (cs : List Char) : Option Directive :=
  let name := cs.takeWhile fun c => c != ']' && c != '{'
  match cs.drop name.length with
  | ']' :: rest => readEnd target (some (String.ofList name)) [] rest
  | '{' :: rest =>
    let inside := rest.takeWhile (· != '}')
    match (Text.splitChars ',' inside).mapM readField, rest.drop inside.length with
    | some fields, '}' :: ']' :: rest =>
      readEnd target (if name.isEmpty then none else some (String.ofList name)) fields rest
    | _, _ => none
  | _ => none

/-- The directive that is a single word: a level, or a module without one. -/
def ofWord (word : String) : Directive :=
  match Verbosity.ofWord? word with
  | some verbosity => ⟨none, none, [], verbosity⟩
  | none => ⟨some word, none, [], some .trace⟩

/-- Reads a directive. -/
def parse (text : String) : Option Directive :=
  match text.toList with
  | [] => none
  | '[' :: rest => readBrackets none rest
  | c :: rest =>
    let head := (c :: rest).takeWhile fun c => c != '=' && c != '[' && c != ','
    let word := String.ofList head
    if isInitial c then
      match (c :: rest).drop head.length with
      | [] | [','] => some (ofWord word)
      | '=' :: rest => (readLevel rest).map fun verbosity => ⟨some word, none, [], verbosity⟩
      | '[' :: rest => readBrackets (some word) rest
      | _ => none
    else none

end Directive

end RequestDispatch
