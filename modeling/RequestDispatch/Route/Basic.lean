import RequestDispatch.Route.Arguments
import RequestDispatch.Validation.Shape

/-!
# Routes

A route is a method and a path template together with the handler that serves them and everything
that the handler declares: parameters, dependencies, access to the background queue and the media
types it produces. The placeholders of the template name the path values.
-/

namespace RequestDispatch

/-- What stands between an opening brace and the next closing one, for each pair in turn. The first
argument is what has been read since the last opening brace, backwards. -/
def placeholdersFrom : Option (List Char) → List Char → List (List Char)
  | _, [] => []
  | none, c :: cs => placeholdersFrom (if c = '{' then some [] else none) cs
  | some read, c :: cs =>
    if c = '}' then read.reverse :: placeholdersFrom none cs
    else placeholdersFrom (some (c :: read)) cs

/-- The name of a placeholder: what stands before a colon, without white space around it. -/
def placeholderName (inside : List Char) : String :=
  Text.trim (String.ofList (inside.takeWhile (· != ':')))

/-- The names of the placeholders of a path template, blank ones left out. -/
def placeholderNames (path : String) : List String :=
  ((placeholdersFrom none path.toList).map placeholderName).filter (· != "")

/-- A route. -/
structure Route (σ κ ν : Type) where
  method : String
  /-- The path template. -/
  path : String
  handler : Handler σ κ ν
  params : List Param
  dependencies : List (DependencySpec σ κ ν)
  /-- The name under which the handler finds the background queue. -/
  backgroundParam : Option String
  /-- The media types it produces, if it declares its own. -/
  mediaTypes : Option (List String)
  name : Option String

namespace Route

variable {σ κ ν : Type}

/-- A route that declares nothing. -/
def new (method path : String) (handler : Handler σ κ ν) : Route σ κ ν :=
  { method, path, handler, params := [], dependencies := [], backgroundParam := none
    mediaTypes := none, name := none }

/-- The names of the path values, in order. -/
def pathNames (r : Route σ κ ν) : List String := placeholderNames r.path

/-- The name a route is shown by. -/
def displayName (r : Route σ κ ν) : String := r.name.getD (r.method ++ " " ++ r.path)

/-- The mode of the handler. -/
def mode (r : Route σ κ ν) : Mode := r.handler.mode

end Route

end RequestDispatch
