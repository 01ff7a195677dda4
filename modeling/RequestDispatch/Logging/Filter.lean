import RequestDispatch.Logging.Directive

/-!
# Log filters

A filter decides by its directives which log lines are written. Of the directives on modules, the
one whose text is the longest beginning of a module's name decides about it, and of several with one
text the last. A directive on a span admits the span itself, and inside the span the lines it
allows.
-/

namespace RequestDispatch

/-- A span of work, as far as log filters look at it. -/
structure LogSpan where
  name : String
  target : String
  level : LogLevel
  deriving DecidableEq, Repr

/-- The directives in force, in the order in which they were added. -/
structure LogFilter where
  directives : List Directive
  deriving DecidableEq, Repr

namespace Directive

/-- Whether the directive is about modules and not about spans. -/
def isOnModules (d : Directive) : Bool := d.span.isNone && !d.fields.any (·.hasValue)

/-- Whether the directive is about a module. -/
def covers (d : Directive) (target : String) : Bool :=
  match d.target with
  | some head => Text.startsWith target head
  | none => true

/-- How specific a directive on modules is: the length of the beginning it asks for, then the number
of its fields. -/
def weight (d : Directive) : Nat × Nat :=
  (match d.target with
    | some head => head.length + 1
    | none => 0,
    d.fields.length)

/-- Whether one directive is less specific than another. -/
def isBelow (d e : Directive) : Bool :=
  d.weight.1 < e.weight.1 || (d.weight.1 == e.weight.1 && d.weight.2 ≤ e.weight.2)

end Directive

namespace LogFilter

/-- Adds a directive. -/
def add (f : LogFilter) (d : Directive) : LogFilter := ⟨f.directives ++ [d]⟩

/-- The most specific of some directives, the last one of equals. -/
def mostSpecific? (directives : List Directive) : Option Directive :=
  directives.foldl
    (fun best d =>
      match best with
      | some b => if b.isBelow d then some d else some b
      | none => some d)
    none

/-- How verbose a module may be. The names of a line's fields count only where they are known. -/
def verbosity (f : LogFilter) (target : String) (fields : Option (List String)) : Verbosity :=
  let known := fun (d : Directive) =>
    match fields with
    | some names => d.fields.all fun field => names.contains field.name
    | none => true
  match mostSpecific? (f.directives.filter fun d => d.isOnModules && d.covers target && known d) with
  | some d => d.verbosity
  | none => none

/-- The directives on a span, which has no fields. -/
def directivesOn (f : LogFilter) (span : LogSpan) : List Directive :=
  f.directives.filter fun d =>
    !d.isOnModules && d.covers span.target && d.fields.isEmpty && d.span == some span.name

/-- The greatest rank that any directive allows. -/
def ceiling (f : LogFilter) : Nat := f.directives.foldl (fun n d => max n d.verbosity.rank) 0

/-- Whether a span is observed. -/
def admitsSpan (f : LogFilter) (span : LogSpan) : Bool :=
  span.level.rank ≤ f.ceiling &&
    (!(f.directivesOn span).isEmpty || (f.verbosity span.target none).allows span.level)

/-- Whether a line is written that comes from a module inside a span and has a message only. -/
def admits (f : LogFilter) (inside : Option LogSpan) (target : String) (level : LogLevel) : Bool :=
  let around :=
    match inside with
    | some span => if f.admitsSpan span then f.directivesOn span else []
    | none => []
  around.any (fun d => d.verbosity.allows level) ||
    (f.verbosity target (some ["message"])).allows level

end LogFilter

end RequestDispatch
