import RequestDispatch.Serve.Plan

/-!
# Endpoints

What is bound for a route: a dispatcher with its interceptors around it. An endpoint is called with
a request, or with the parts of one that has already been matched against the route. Its answer and
what happens meanwhile depend on a schedule, by which the background actions go on beside the
interceptors.
-/

namespace RequestDispatch

/-- A route ready to be called. -/
structure Endpoint (σ κ : Type) where
  method : String
  path : String
  /-- One dispatch of a request. -/
  dispatch : Request → Run σ κ (Except Panic (Reply σ κ))
  /-- The interceptors around it, the first one outermost. -/
  stack : List (Interceptor σ κ)

namespace Endpoint

variable {σ κ ν : Type}

/-- The endpoint of a dispatcher with interceptors around it. -/
def new (d : Dispatcher σ κ ν) (stack : List (Interceptor σ κ)) : Endpoint σ κ :=
  ⟨d.route.method, d.route.path, d.dispatch, stack⟩

/-- What an endpoint does, with the background actions left to be run. -/
def service (e : Endpoint σ κ) : Service σ κ := (Service.dispatching e.dispatch).within e.stack

/-- Serves a request and runs the background actions, which go on by a schedule. -/
def handle (e : Endpoint σ κ) (schedule : Schedule) (request : Request) :
    Run σ κ (Except Panic Response) :=
  (Plan.ofStack e.stack request).carryOut e.dispatch schedule 0 []

/-- Serves a request given in parts, under the method and path of the endpoint. -/
def call (e : Endpoint σ κ) (schedule : Schedule) (body : Bytes) (pathValues : List String)
    (query : Bytes) (headers : Headers) : Run σ κ (Except Panic Response) :=
  e.handle schedule { Request.new e.method e.path with body, pathValues, query, headers }

end Endpoint

end RequestDispatch
