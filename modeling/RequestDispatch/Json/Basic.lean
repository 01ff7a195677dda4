import RequestDispatch.Fields
import RequestDispatch.Number.Binary

/-!
# JSON values

Numbers are integers or finite 64-bit floating-point numbers, and the two are never equal. The
fields of an object stand in ascending order of their keys and no key stands twice; `object` sees to
that.
-/

namespace RequestDispatch

/-- A JSON value. -/
inductive Json where
  | null
  | bool (value : Bool)
  | int (value : Int)
  | float (value : BinaryFloat)
  | str (text : String)
  | arr (items : List Json)
  | obj (fields : List (String × Json))
  deriving Repr, Inhabited

namespace Json

/-- The object with the given fields in any order; of a repeated key the last value counts. -/
def object (fields : List (String × Json)) : Json := .obj (Entries.ofList fields)

/-- The field of an object, if the value is an object that has it. -/
def get? (value : Json) (key : String) : Option Json :=
  match value with
  | .obj fields => Entries.get? fields key
  | _ => none

/-- Whether the value is an object. -/
def isObject : Json → Bool
  | .obj _ => true
  | _ => false

mutual

/-- Equality of values: numbers of one kind compare as numbers, so the two zeros are equal. -/
def same : Json → Json → Bool
  | .null, .null => true
  | .bool a, .bool b => a == b
  | .int a, .int b => a == b
  | .float a, .float b => a.eqv b
  | .str a, .str b => a == b
  | .arr a, .arr b => sameItems a b
  | .obj a, .obj b => sameFields a b
  | _, _ => false

/-- Equality of lists of values. -/
def sameItems : List Json → List Json → Bool
  | [], [] => true
  | a :: as, b :: bs => same a b && sameItems as bs
  | _, _ => false

/-- Equality of lists of fields. -/
def sameFields : List (String × Json) → List (String × Json) → Bool
  | [], [] => true
  | (k, a) :: as, (l, b) :: bs => k == l && same a b && sameFields as bs
  | _, _ => false

end

instance : BEq Json := ⟨same⟩

mutual

/-- Whether two values are the same in every part, the sign of a zero included. -/
def identical : Json → Json → Bool
  | .null, .null => true
  | .bool a, .bool b => a == b
  | .int a, .int b => a == b
  | .float a, .float b => a == b
  | .str a, .str b => a == b
  | .arr a, .arr b => identicalItems a b
  | .obj a, .obj b => identicalFields a b
  | _, _ => false

/-- Whether two lists of values are the same in every part. -/
def identicalItems : List Json → List Json → Bool
  | [], [] => true
  | a :: as, b :: bs => identical a b && identicalItems as bs
  | _, _ => false

/-- Whether two lists of fields are the same in every part. -/
def identicalFields : List (String × Json) → List (String × Json) → Bool
  | [], [] => true
  | (k, a) :: as, (l, b) :: bs => k == l && identical a b && identicalFields as bs
  | _, _ => false

end

mutual

theorem identical_iff (a b : Json) : identical a b ↔ a = b := by
  cases a <;> cases b <;>
    simp [identical, identicalItems_iff, identicalFields_iff]

theorem identicalItems_iff (as bs : List Json) : identicalItems as bs ↔ as = bs := by
  cases as <;> cases bs <;> simp [identicalItems, identical_iff, identicalItems_iff]

theorem identicalFields_iff (as bs : List (String × Json)) : identicalFields as bs ↔ as = bs := by
  rcases as with _ | ⟨⟨k, a⟩, as⟩ <;> rcases bs with _ | ⟨⟨l, b⟩, bs⟩ <;>
    simp [identicalFields, identical_iff, identicalFields_iff]

end

instance : DecidableEq Json := fun a b => decidable_of_iff _ (identical_iff a b)

/-- The integers that are read and kept exactly: those of 64 bits, signed or unsigned. -/
def minInt : Int := -9223372036854775808

/-- The greatest signed 64-bit integer. -/
def maxSigned : Int := 9223372036854775807

/-- The greatest unsigned 64-bit integer. -/
def maxUnsigned : Int := 18446744073709551615

end Json

end RequestDispatch
