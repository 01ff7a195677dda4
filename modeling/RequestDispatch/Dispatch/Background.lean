import RequestDispatch.Journal

/-!
# Background actions

When a dispatch is over, the actions that it queued are handed over, all at once, and run one after
another in the order they were queued, beside whatever else goes on. An action that fails does not
keep the others from running. The queue itself can be held for longer than the dispatch, by an
action that runs or by any other code; what is added to it once it has been handed over stays in a
queue that nobody empties any more.
-/

namespace RequestDispatch

variable {σ κ : Type}

/-- The queue of a request that has been handed over. -/
structure Detached (σ κ : Type) where
  /-- The number of actions that have been run. -/
  position : Nat
  /-- The actions still to be run. -/
  scheduled : List (Task σ κ)
  /-- What has been added since. -/
  late : List (Task σ κ)

/-- What can happen to a queue that has been handed over. -/
inductive Move (σ κ : Type) where
  /-- Its next action is run. -/
  | next
  /-- Other code runs, which may add to the queue. -/
  | elsewhere (code : κ → σ → σ × List (Task σ κ))

namespace Detached

/-- The actions of a request are handed over. -/
def handOver (tasks : List (Task σ κ)) : Detached σ κ := ⟨0, tasks, []⟩

/-- Runs the next action, if there is one. It sees what has been added, and may add to it. -/
def advance (queue : Detached σ κ) : Run σ κ (Detached σ κ) :=
  match queue.scheduled with
  | [] => pure queue
  | task :: tasks => do
    let (_, late) ← Run.withQueue queue.late do
      let _ ← Run.perform (.backgroundStarted queue.position) task.run
      Run.enter (.backgroundFinished queue.position)
    return ⟨queue.position + 1, tasks, late⟩

/-- Runs as many actions as this, if there are so many. -/
def advanceBy : Nat → Detached σ κ → Run σ κ (Detached σ κ)
  | 0, queue => pure queue
  | count + 1, queue => do advanceBy count (← queue.advance)

/-- Runs all actions that are left. -/
def finish (queue : Detached σ κ) : Run σ κ (Detached σ κ) :=
  queue.advanceBy queue.scheduled.length

/-- Makes a move. -/
def move (queue : Detached σ κ) : Move σ κ → Run σ κ (Detached σ κ)
  | .next => queue.advance
  | .elsewhere code => fun s =>
    let (world, added) := code s.telemetry s.world
    ⟨{ queue with late := queue.late ++ added }, { s with world }, []⟩

/-- Makes moves one after another. -/
def live : List (Move σ κ) → Detached σ κ → Run σ κ (Detached σ κ)
  | [], queue => pure queue
  | move :: moves, queue => do live moves (← queue.move move)

end Detached

end RequestDispatch
