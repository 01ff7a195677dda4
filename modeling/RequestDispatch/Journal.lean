import RequestDispatch.Effect
import RequestDispatch.Telemetry

/-!
# Runs and their journal

A `Run` is what a dispatch does: a function of the session, that is the application's state, the
telemetry's state and the background queue of the request. Beside its result it gives the journal of
what happened, in order: every call of application code and every notice to the telemetry. Running
one after another appends the journals, so a journal never depends on what was recorded before.
-/

namespace RequestDispatch

/-- The identity of a dependency factory, shared by its copies. -/
abbrev FactoryId := Nat

/-- One thing that happened. An origin is the number of the factory invocation concerned, counted
within a request. -/
inductive Event where
  | intakeHook (position : Nat)
  | requestHook (position : Nat)
  /-- The dependencies of a factory are about to be resolved, for a parameter. -/
  | entered (factory : FactoryId) (parameter : String)
  /-- The dependencies of a factory have all been resolved. -/
  | left (factory : FactoryId)
  /-- A factory was called with the values that these invocations gave, by parameter; it was to give
  a shared value or a value for one parameter only. -/
  | invoked (factory : FactoryId) (shared : Bool) (origin : Nat) (arguments : Fields Nat)
  /-- A parameter received the value of an invocation, as a shared value or as its own. -/
  | received (parameter : String) (factory : FactoryId) (shared : Bool) (origin : Nat)
  | computed (origin : Nat)
  | advanced (origin : Nat)
  | closed (origin : Nat)
  | acquiring (origin : Nat)
  | releasing (origin : Nat)
  /-- A source yielded its value. -/
  | yielded (origin : Nat)
  /-- A scoped resource was acquired with a value. -/
  | acquired (origin : Nat)
  | cleanupStarted (origin : Nat)
  | cleanupFinished (origin : Nat)
  | cleanupAction (origin : Nat)
  | handler
  | chunkPulled (position : Nat)
  | responseHook (position : Nat)
  | exceptionHandler (errorClass : ErrorClass)
  | notice (notice : Notice)
  | backgroundStarted (position : Nat)
  | backgroundFinished (position : Nat)
  | startupHook (position : Nat)
  | shutdownHook (position : Nat)
  deriving DecidableEq

/-- The state that a run works on. -/
structure Session (σ κ : Type) where
  /-- The application's own state. -/
  world : σ
  telemetry : κ
  /-- The background actions queued so far. -/
  queue : List (Task σ κ)

/-- What a run gives: a result, the session after it and the journal. -/
structure Step (σ κ α : Type) where
  result : α
  session : Session σ κ
  journal : List Event

/-- A function of the session that gives a result and a journal. -/
def Run (σ κ α : Type) := Session σ κ → Step σ κ α

namespace Run

variable {σ κ α β : Type}

/-- Nothing happens. -/
protected def pure (a : α) : Run σ κ α := fun s => ⟨a, s, []⟩

/-- One run after another. -/
protected def bind (m : Run σ κ α) (f : α → Run σ κ β) : Run σ κ β := fun s =>
  let first := m s
  let second := f first.result first.session
  ⟨second.result, second.session, first.journal ++ second.journal⟩

instance : Monad (Run σ κ) where
  pure := Run.pure
  bind := Run.bind

/-- Enters an event into the journal. -/
def enter (event : Event) : Run σ κ Unit := fun s => ⟨(), s, [event]⟩

/-- Runs code that belongs to the request; what it queues is added to the queue. -/
def perform (event : Event) (code : Effect σ κ α) : Run σ κ (Completion α) := fun s =>
  let (completion, world, queued) := code ⟨s.telemetry, s.queue.length⟩ s.world
  ⟨completion, { s with world, queue := s.queue ++ queued }, [event]⟩

/-- Runs code that has no queue. -/
def performAlone (event : Event) (code : Procedure σ κ α) : Run σ κ (Completion α) := fun s =>
  let (completion, world) := code s.telemetry s.world
  ⟨completion, { s with world }, [event]⟩

/-- Tells the telemetry. -/
def notify (o : Observability σ κ) (notice : Notice) : Run σ κ Unit := fun s =>
  let (world, telemetry) := o.receive notice s.world s.telemetry
  ⟨(), { s with world, telemetry }, [.notice notice]⟩

/-- Looks at the session. -/
def look (f : Session σ κ → α) : Run σ κ α := fun s => ⟨f s, s, []⟩

/-- A run with a queue of its own; also what that queue holds at the end. -/
def withQueue (queue : List (Task σ κ)) (m : Run σ κ α) : Run σ κ (α × List (Task σ κ)) := fun s =>
  let inner := m { s with queue }
  ⟨(inner.result, inner.session.queue), { inner.session with queue := s.queue }, inner.journal⟩

end Run

end RequestDispatch
