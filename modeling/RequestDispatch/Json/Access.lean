import RequestDispatch.Json.Basic

/-!
# Loose access to JSON values

Reading a value that is expected to be well formed: a missing field is null, and a value of another
kind counts as the empty value of the expected one.
-/

namespace RequestDispatch

namespace Json

/-- The value of a field, null if it is missing. -/
def field (value : Json) (key : String) : Json := (value.get? key).getD .null

/-- The text of a string. -/
def text : Json → String
  | .str s => s
  | _ => ""

/-- The number of a natural number. -/
def nat : Json → Nat
  | .int n => n.toNat
  | _ => 0

/-- The truth value of a truth value. -/
def flag : Json → Bool
  | .bool b => b
  | _ => false

/-- The items of an array. -/
def items : Json → List Json
  | .arr items => items
  | _ => []

/-- The fields of an object. -/
def entries : Json → List (String × Json)
  | .obj fields => fields
  | _ => []

/-- The texts of an array. -/
def texts (value : Json) : List String := value.items.map text

/-- The value itself, unless it is null. -/
def present? : Json → Option Json
  | .null => none
  | value => some value

end Json

end RequestDispatch
