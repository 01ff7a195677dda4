import RequestDispatch.Http.Headers
import RequestDispatch.Http.Form

/-!
# Requests

`Request` is what the route matcher hands over: path values by position, the query still encoded.
`RequestView` is the request bound to the names of a route: path values by name, the query decoded.
-/

namespace RequestDispatch

/-- A flag by which others may say that they no longer wait for an answer. Whoever holds the token
holds the same flag, so whether it is set is a matter of the world and not of the token. -/
structure CancellationToken where
  id : Nat
  deriving DecidableEq, Repr

/-- A request as it arrives. -/
structure Request where
  method : String
  path : String
  headers : Headers
  /-- The values at the placeholders of the route's path, in order. -/
  pathValues : List String
  /-- The encoded query string. -/
  query : Bytes
  body : Bytes
  /-- The flag for cancelling the request, the same in all copies; dispatching never acts on it. -/
  cancellation : Option CancellationToken
  deriving DecidableEq, Repr

namespace Request

/-- A request with nothing but a method and a path. -/
def new (method path : String) : Request := ⟨method, path, .empty, [], [], [], none⟩

/-- The first value of a header as text. -/
def header? (r : Request) (name : String) : Option String := r.headers.text? name

end Request

/-- A request bound to the path names of a route. -/
structure RequestView where
  request : Request
  pathParams : List (String × String)
  queryParams : List (String × String)
  deriving DecidableEq, Repr

namespace RequestView

/-- Pairs the names with the path values by position and decodes the query. Names without a value
and values without a name are left out. -/
def bind (request : Request) (names : List String) : RequestView :=
  { request
    pathParams := names.zip request.pathValues
    queryParams := Form.decode request.query }

/-- The value of the first path parameter of a name. -/
def pathParam? (v : RequestView) (name : String) : Option String :=
  (v.pathParams.find? fun (n, _) => n == name).map (·.2)

/-- All query values of a name, in order. -/
def queryValues (v : RequestView) (name : String) : List String :=
  (v.queryParams.filter fun (n, _) => n == name).map (·.2)

/-- The last query value of a name. -/
def queryParam? (v : RequestView) (name : String) : Option String := (v.queryValues name).getLast?

/-- Whether the request has been cancelled, where it is known which flags are set. -/
def isCancelled (v : RequestView) (isSet : CancellationToken → Bool) : Bool :=
  v.request.cancellation.any isSet

/-- The first value of a header as text. -/
def header? (v : RequestView) (name : String) : Option String := v.request.header? name

end RequestView

end RequestDispatch
