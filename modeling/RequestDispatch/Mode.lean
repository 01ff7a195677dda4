/-!
# Modes of application code

Application code is either a blocking function, run on a thread of its own, or asynchronous, run by
the dispatch itself. Both are called in the same way; only reports of the mode and the wording of a
contained panic differ.
-/

namespace RequestDispatch

/-- How a piece of application code runs. -/
inductive Mode where
  | blocking
  | async
  deriving DecidableEq, Repr

/-- The name of a mode. -/
def Mode.name : Mode → String
  | .blocking => "blocking"
  | .async => "async"

/-- What a panic carries: a message, or something that is no text. -/
inductive Panic where
  | message (text : String)
  | other
  deriving DecidableEq, Repr

/-- The message of a panic. -/
def Panic.text : Panic → String
  | .message text => text
  | .other => "unknown panic payload"

end RequestDispatch
