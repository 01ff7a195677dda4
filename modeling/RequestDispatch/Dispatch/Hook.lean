import RequestDispatch.Http.Response
import RequestDispatch.Http.Request
import RequestDispatch.Effect

/-!
# Hooks

Code that runs beside the handler of every route. Intake hooks see the request before its path and
query are bound and may change or answer it; request hooks see the bound request and may answer it;
response hooks see the finished response and may change it.
-/

namespace RequestDispatch

/-- What an intake hook decides. -/
inductive Intake where
  /-- The dispatch goes on with this request. -/
  | forward (request : Request)
  /-- The dispatch ends with this response. -/
  | respond (response : Response)

/-- Code that sees the request first. -/
structure IntakeHook (σ κ : Type) where
  mode : Mode
  call : Request → Procedure σ κ Intake

/-- Code that sees the request before dependencies are resolved; a response ends the dispatch. -/
structure RequestHook (σ κ : Type) where
  mode : Mode
  call : RequestView → Effect σ κ (Option Response)

/-- Code that turns the response into the one that is sent. -/
structure ResponseHook (σ κ : Type) where
  mode : Mode
  call : RequestView → Response → Effect σ κ Response

end RequestDispatch
