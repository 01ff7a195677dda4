import RequestDispatch.Dispatch.Basic

/-!
# Interceptors

An interceptor is code around the dispatch of a request: it may change the request, pass it on as
often as it likes, change the response or answer by itself. Interceptors are stacked, the first one
outermost. A panic of a blocking interceptor, or of anything inside it, ends as an empty 500; a
panic of an asynchronous one goes on outwards.
-/

namespace RequestDispatch

/-- What an interceptor does, step by step. -/
inductive Interception (σ κ : Type) where
  | respond (response : Response)
  | panicked (panic : Panic)
  /-- Changes the world and goes on; both look at the world as it was before. -/
  | act (change : κ → σ → σ) (resume : κ → σ → Interception σ κ)
  /-- Passes a request on and goes on with the response. -/
  | proceed (request : Request) (resume : Response → Interception σ κ)

/-- Code around the dispatch of a request. -/
structure Interceptor (σ κ : Type) where
  mode : Mode
  intercept : Request → Interception σ κ

/-- What serving a request gives: a response or a panic that nothing stopped, and the background
actions of every dispatch made for it. -/
structure Served (σ κ : Type) where
  result : Except Panic Response
  background : List (List (Task σ κ))

/-- Something that serves requests. -/
abbrev Service (σ κ : Type) := Request → Run σ κ (Served σ κ)

namespace Interception

variable {σ κ : Type}

/-- Carries the steps out around a service. -/
def run (next : Service σ κ) : Interception σ κ → Run σ κ (Served σ κ)
  | .respond response => pure ⟨.ok response, []⟩
  | .panicked panic => pure ⟨.error panic, []⟩
  | .act change resume => fun session =>
    run next (resume session.telemetry session.world)
      { session with world := change session.telemetry session.world }
  | .proceed request resume => do
    let inner ← next request
    match inner.result with
    | .error panic => return ⟨.error panic, inner.background⟩
    | .ok response =>
      let outer ← run next (resume response)
      return ⟨outer.result, inner.background ++ outer.background⟩

end Interception

namespace Interceptor

variable {σ κ : Type}

/-- The result with a panic stopped if the interceptor is blocking. -/
def contain (mode : Mode) (result : Except Panic Response) : Except Panic Response :=
  match mode, result with
  | .blocking, .error _ => .ok (.ofStatus 500)
  | _, result => result

/-- A service with the interceptor around it. -/
def wrap (m : Interceptor σ κ) (next : Service σ κ) : Service σ κ := fun request => do
  let served ← (m.intercept request).run next
  return { served with result := contain m.mode served.result }

end Interceptor

/-- A service with interceptors around it, the first one outermost. -/
def Service.within {σ κ : Type} (terminal : Service σ κ) (stack : List (Interceptor σ κ)) :
    Service σ κ := stack.foldr Interceptor.wrap terminal

/-- Dispatches as a service. -/
def Service.dispatching {σ κ : Type} (dispatch : Request → Run σ κ (Except Panic (Reply σ κ))) :
    Service σ κ := fun request => do
  match ← dispatch request with
  | .error panic => return ⟨.error panic, []⟩
  | .ok reply =>
    return ⟨.ok reply.response, if reply.background.isEmpty then [] else [reply.background]⟩

/-- A dispatcher as a service. -/
def Dispatcher.service {σ κ ν : Type} (d : Dispatcher σ κ ν) : Service σ κ :=
  .dispatching d.dispatch

end RequestDispatch
