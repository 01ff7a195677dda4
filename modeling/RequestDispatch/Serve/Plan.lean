import RequestDispatch.Dispatch.Background
import RequestDispatch.Serve.Interceptor

/-!
# Serving beside background actions

The background actions of a dispatch are handed over inside the interceptors, and from then on they
go on beside whatever the interceptors still do. So what a stack of interceptors does for a request
is taken apart into a `Plan`, whose steps are those of all interceptors in the order they are made,
and a `Schedule` says which of the queues handed over so far go on before each step. Nothing is
assumed of a schedule: what holds of an endpoint is to hold under every one.

A dispatch is one step of a plan. When an interceptor has a second one made, what the queues of the
first one do meanwhile counts as done by the code of the second.
-/

namespace RequestDispatch

variable {σ κ : Type}

/-- What is done for a request by all interceptors together, step by step. -/
inductive Plan (σ κ : Type) where
  | ended (result : Except Panic Response)
  /-- Changes the world and goes on; both look at the world as it was before. -/
  | act (change : κ → σ → σ) (resume : κ → σ → Plan σ κ)
  /-- An interceptor panics, or a panic inside goes through it. -/
  | panicked (rest : Plan σ κ)
  /-- Dispatches a request and goes on with what comes of it. -/
  | dispatch (request : Request) (resume : Except Panic Response → Plan σ κ)

/-- The plan gone on with when its end is reached. -/
def Plan.andThen (next : Except Panic Response → Plan σ κ) : Plan σ κ → Plan σ κ
  | .ended result => next result
  | .act change resume => .act change fun telemetry world => (resume telemetry world).andThen next
  | .panicked rest => .panicked (rest.andThen next)
  | .dispatch request resume => .dispatch request fun result => (resume result).andThen next

/-- The steps of an interceptor, with those of what is inside where it passes a request on. -/
def Interception.plan (inner : Request → Plan σ κ) : Interception σ κ → Plan σ κ
  | .respond response => .ended (.ok response)
  | .panicked panic => .panicked (.ended (.error panic))
  | .act change resume => .act change fun telemetry world => (resume telemetry world).plan inner
  | .proceed request resume =>
    (inner request).andThen fun result =>
      match result with
      | .ok response => (resume response).plan inner
      | .error panic => .panicked (.ended (.error panic))

/-- The plan of an interceptor around what is inside. -/
def Interceptor.plan (m : Interceptor σ κ) (inner : Request → Plan σ κ) (request : Request) :
    Plan σ κ :=
  ((m.intercept request).plan inner).andThen fun result => .ended (contain m.mode result)

/-- The plan of a stack of interceptors around a dispatch, the first one outermost. -/
def Plan.ofStack (stack : List (Interceptor σ κ)) : Request → Plan σ κ :=
  stack.foldr Interceptor.plan fun request => .dispatch request .ended

/-- For each step of a plan by its position: the queues that go on before it, each by one action. A
queue is given by its place in the order in which they were handed over. -/
abbrev Schedule := Nat → List Nat

namespace Detached

/-- Lets queues go on by one action each, in turn. -/
def giveWay : List Nat → List (Detached σ κ) → Run σ κ (List (Detached σ κ))
  | [], queues => pure queues
  | turn :: turns, queues =>
    match queues[turn]? with
    | none => giveWay turns queues
    | some queue => do giveWay turns (queues.set turn (← queue.advance))

/-- Runs all actions that are left, one queue after another. -/
def finishAll : List (Detached σ κ) → Run σ κ Unit
  | [] => pure ()
  | queue :: queues => do
    let _ ← queue.finish
    finishAll queues

end Detached

/-- The queue that a dispatch hands over; there is none if nothing was queued. -/
def Reply.handedOver (reply : Reply σ κ) : List (Detached σ κ) :=
  if reply.background.isEmpty then [] else [.handOver reply.background]

/-- Carries a plan out from a position on, beside the queues handed over so far. In the end all that
is left in them is run. -/
def Plan.carryOut (dispatch : Request → Run σ κ (Except Panic (Reply σ κ))) (schedule : Schedule) :
    Plan σ κ → Nat → List (Detached σ κ) → Run σ κ (Except Panic Response)
  | .ended result, position, queues => do
    Detached.finishAll (← Detached.giveWay (schedule position) queues)
    return result
  | .act change resume, position, queues => do
    let queues ← Detached.giveWay (schedule position) queues
    fun session =>
      carryOut dispatch schedule (resume session.telemetry session.world) (position + 1) queues
        { session with world := change session.telemetry session.world }
  | .panicked rest, position, queues => do
    let queues ← Detached.giveWay (schedule position) queues
    carryOut dispatch schedule rest (position + 1) queues
  | .dispatch request resume, position, queues => do
    let queues ← Detached.giveWay (schedule position) queues
    match ← dispatch request with
    | .error panic => carryOut dispatch schedule (resume (.error panic)) (position + 1) queues
    | .ok reply =>
      carryOut dispatch schedule (resume (.ok reply.response)) (position + 1)
        (queues ++ reply.handedOver)

end RequestDispatch
