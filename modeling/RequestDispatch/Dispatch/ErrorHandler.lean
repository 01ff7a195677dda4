import RequestDispatch.Route.Arguments

/-!
# Handlers of errors

An error handler answers the errors of one class and of all classes that derive from it. Of several
that fit, the one whose class is nearest to the error's class answers, the earliest of equals.
-/

namespace RequestDispatch

/-- Code that answers the errors of a class. -/
structure ErrorHandler (σ κ : Type) where
  errorClass : ErrorClass
  mode : Mode
  call : RequestView → DispatchError → Effect σ κ (Output σ κ)

/-- The first of the entries with the least number. -/
def firstLeast {α : Type} : List (Nat × α) → Option (Nat × α)
  | [] => none
  | (n, a) :: rest =>
    match firstLeast rest with
    | none => some (n, a)
    | some (m, b) => if m < n then some (m, b) else some (n, a)

/-- Error handlers in order of registration. -/
structure ErrorHandlers (σ κ : Type) where
  handlers : List (ErrorHandler σ κ)

namespace ErrorHandlers

variable {σ κ : Type}

/-- No handlers. -/
def empty : ErrorHandlers σ κ := ⟨[]⟩

/-- Registers a handler after all others. -/
def register (h : ErrorHandlers σ κ) (handler : ErrorHandler σ κ) : ErrorHandlers σ κ :=
  ⟨h.handlers ++ [handler]⟩

/-- Registers the handlers of another registry after these. -/
def extend (h other : ErrorHandlers σ κ) : ErrorHandlers σ κ := ⟨h.handlers ++ other.handlers⟩

/-- The number of handlers. -/
def size (h : ErrorHandlers σ κ) : Nat := h.handlers.length

/-- The handler that answers an error of a class. -/
def lookup (h : ErrorHandlers σ κ) (c : ErrorClass) : Option (ErrorHandler σ κ) :=
  (firstLeast (h.handlers.filterMap fun handler =>
    (c.distanceTo handler.errorClass).map fun distance => (distance, handler))).map (·.2)

end ErrorHandlers

end RequestDispatch
