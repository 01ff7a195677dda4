import RequestDispatch.Error

/-!
# Application code

Handlers, factories, hooks and cleanup actions are the application's own code. Such a piece of code
is a function of the world as it finds it: it ends with a value, an error or a panic and leaves a
new world behind. Three things are kept apart by type: `σ` is the application's own state, which its
code may change; `κ` is the state of the telemetry, which it may only look at; and the background
queue of a request, to which it may only add.

Not every panic is contained. Blocking code is guarded as a whole, on a thread of its own.
Asynchronous code is called first and gives something to wait for, and only the waiting is guarded:
a panic in the call itself goes through the caller. `Completion.called` draws this line where a
hook, a factory or a handler is called; pieces of code that are only ever waited for are contained
whole (`Completion.contain`).

A piece of code is simplified to a single step. What it queues joins the queue when it ends, and
what other code does meanwhile, to the world or to a queue it still holds, counts as done by that
step. How a queue goes on once the request is over is said where it is handed over.
-/

namespace RequestDispatch

/-- How a piece of application code fails. A panic is early if it comes in the call of the code,
before the call has given anything to wait for. -/
inductive Failure where
  | raised (error : DispatchError)
  | panicked (panic : Panic) (early : Bool)

/-- How a piece of application code ends. -/
abbrev Completion (α : Type) := Except Failure α

/-- The outcome with a panic turned into an internal error. -/
def Completion.contain {α : Type} (mode : Mode) : Completion α → Except DispatchError α
  | .ok a => .ok a
  | .error (.raised e) => .error e
  | .error (.panicked p _) => .error (.internal (.panicked mode p))

/-- What ends a part of a dispatch before its time: a failure, which will be answered, or a panic
that nothing contains, which ends the dispatch. -/
inductive Stop (ε : Type) where
  | failed (failure : ε)
  | unwound (panic : Panic)
  deriving DecidableEq

/-- The stop with its failure mapped. -/
def Stop.map {ε δ : Type} (f : ε → δ) : Stop ε → Stop δ
  | .failed failure => .failed (f failure)
  | .unwound panic => .unwound panic

/-- The outcome of calling code of a mode: only an early panic of asynchronous code is not
contained. -/
def Completion.called {α : Type} (mode : Mode) (completion : Completion α) :
    Except (Stop DispatchError) α :=
  match mode, completion with
  | .async, .error (.panicked panic true) => .error (.unwound panic)
  | mode, completion => (completion.contain mode).mapError .failed

/-- What code that belongs to a request sees beside its own state: the telemetry, and how many
background actions the request has queued. -/
structure Surroundings (κ : Type) where
  telemetry : κ
  waiting : Nat

/-- A background action: its mode and its code, which may itself queue actions. -/
inductive Task (σ κ : Type) : Type where
  | mk (mode : Mode) (run : Surroundings κ → σ → Completion Unit × σ × List (Task σ κ))

/-- Code that belongs to a request: its completion, the state it leaves, and the background actions
it queues, in order. -/
abbrev Effect (σ κ α : Type) := Surroundings κ → σ → Completion α × σ × List (Task σ κ)

/-- Code that belongs to no request's queue. -/
abbrev Procedure (σ κ α : Type) := κ → σ → Completion α × σ

/-- The mode of a background action. -/
def Task.mode {σ κ : Type} : Task σ κ → Mode
  | .mk mode _ => mode

/-- The code of a background action. -/
def Task.run {σ κ : Type} : Task σ κ → Effect σ κ Unit
  | .mk _ run => run

/-- Code with its mode. -/
structure Action (σ κ : Type) where
  mode : Mode
  run : Effect σ κ Unit

namespace Effect

variable {σ κ α β : Type}

/-- Code that only gives a value. -/
def value (a : α) : Effect σ κ α := fun _ s => (.ok a, s, [])

/-- Code with its value mapped. -/
def map (f : α → β) (e : Effect σ κ α) : Effect σ κ β := fun around s =>
  let (completion, s, queued) := e around s
  (completion.map f, s, queued)

end Effect

end RequestDispatch
