/-!
# Classes of errors

Error classes form a forest: a class is a root or derives from another class. Each declaration is a
class of its own, told apart by its mark, also when it repeats the name of another one.
-/

namespace RequestDispatch

/-- A class of errors with its line of ancestors. -/
inductive ErrorClass where
  | root (mark : Nat) (name : String)
  | derived (mark : Nat) (name : String) (parent : ErrorClass)
  deriving DecidableEq, Repr

namespace ErrorClass

/-- The name of a class. -/
def name : ErrorClass → String
  | .root _ name => name
  | .derived _ name _ => name

/-- The class and its ancestors, nearest first. -/
def lineage : ErrorClass → List ErrorClass
  | .root mark name => [.root mark name]
  | .derived mark name parent => .derived mark name parent :: lineage parent

/-- The number of steps from a class up to an ancestor, the class itself being zero steps away. -/
def distanceTo (c ancestor : ErrorClass) : Option Nat :=
  if c = ancestor then some 0
  else
    match c with
    | .root _ _ => none
    | .derived _ _ parent => (distanceTo parent ancestor).map (· + 1)

/-- The class every built-in class derives from. -/
def exception : ErrorClass := .root 0 "Exception"

/-- Errors that carry a status of their own. -/
def httpError : ErrorClass := .derived 1 "HttpError" exception

/-- Failed validation of a request. -/
def requestValidationError : ErrorClass := .derived 2 "RequestValidationError" exception

/-- Refusals of dependency factories. -/
def dependencyError : ErrorClass := .derived 3 "DependencyError" exception

/-- Broken rules inside the program: a caller's mistake, a cycle, a panic. -/
def internalError : ErrorClass := .derived 4 "InternalError" exception

/-- The classes that exist without a declaration. -/
def builtIn : List ErrorClass :=
  [exception, httpError, requestValidationError, dependencyError, internalError]

end ErrorClass

/-- Error classes by name, the latest declaration first. -/
structure ErrorClasses where
  declared : List ErrorClass

namespace ErrorClasses

/-- The classes that exist without a declaration. -/
def builtIn : ErrorClasses := ⟨ErrorClass.builtIn.reverse⟩

/-- The class of a name; a name that was not declared stands for the class of all errors. -/
def get (classes : ErrorClasses) (name : String) : ErrorClass :=
  (classes.declared.find? fun c => c.name == name).getD .exception

/-- Declares a class below another one, or a new root. -/
def declare (classes : ErrorClasses) (name : String) (parent : Option String) : ErrorClasses :=
  let mark := classes.declared.length
  ⟨(match parent with
    | some parent => .derived mark name (classes.get parent)
    | none => .root mark name) :: classes.declared⟩

end ErrorClasses

end RequestDispatch
