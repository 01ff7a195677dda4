import RequestDispatch.Json.Printer
import RequestDispatch.Text.Quoted

/-!
# Typed readings of JSON values

`Json.Decode α` reads a JSON value as an `α` or says why it cannot: the value is of the wrong kind,
or it is an integer out of range. Integers are accepted where a floating-point number is expected,
never the other way round.
-/

namespace RequestDispatch

namespace Json

/-- Why a JSON value has no reading of the expected type. -/
inductive Mismatch where
  | wrongKind (found : Json) (expected : String)
  | outOfRange (found : Int) (expected : String)
  deriving DecidableEq

/-- How a value of the wrong kind is named. -/
def kindText : Json → String
  | .null => "null"
  | .bool true => "boolean `true`"
  | .bool false => "boolean `false`"
  | .int n => "integer `" ++ toString n ++ "`"
  | .float x => "floating point `" ++ floatText x ++ "`"
  | .str s => "string " ++ Text.quoted s
  | .arr _ => "sequence"
  | .obj _ => "map"

/-- The wording of a mismatch. -/
def Mismatch.message : Mismatch → String
  | .wrongKind found expected => "invalid type: " ++ kindText found ++ ", expected " ++ expected
  | .outOfRange found expected =>
    "invalid value: integer `" ++ toString found ++ "`, expected " ++ expected

/-- Types that JSON values can be read as. -/
class Decode (α : Type) where
  /-- The reading of a value. -/
  decode : Json → Except Mismatch α

/-- Reads an integer between two bounds. -/
def decodeInt (low high : Int) (expected : String) : Json → Except Mismatch Int
  | .int n => if low ≤ n ∧ n ≤ high then .ok n else .error (.outOfRange n expected)
  | v => .error (.wrongKind v expected)

instance : Decode Int64 := ⟨fun v => (decodeInt minInt maxSigned "i64" v).map Int64.ofInt⟩

instance : Decode UInt8 :=
  ⟨fun v => (decodeInt 0 255 "u8" v).map fun n => UInt8.ofNat n.toNat⟩

instance : Decode BinaryFloat where
  decode
    | .float x => .ok x
    | .int n =>
      match BinaryFloat.ofInt .double n with
      | some x => .ok x
      | none => .error (.outOfRange n "f64")
    | v => .error (.wrongKind v "f64")

instance : Decode Bool where
  decode
    | .bool b => .ok b
    | v => .error (.wrongKind v "a boolean")

instance : Decode String where
  decode
    | .str s => .ok s
    | v => .error (.wrongKind v "a string")

instance {α : Type} [Decode α] : Decode (Option α) where
  decode
    | .null => .ok none
    | v => (Decode.decode v).map some

instance {α : Type} [Decode α] : Decode (List α) where
  decode
    | .arr items => items.mapM Decode.decode
    | v => .error (.wrongKind v "a sequence")

end Json

end RequestDispatch
