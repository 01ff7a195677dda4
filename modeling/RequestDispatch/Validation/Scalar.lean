import RequestDispatch.Number.Decimal
import RequestDispatch.Error
import RequestDispatch.Validation.Shape

/-!
# Reading single values

How a text becomes an integer, a number or a truth value, and the defects that a value can have. An
integer may be written with a point or an exponent as long as it has no fractional part and fits 64
bits signed; a truth value is one of eight words or digits.
-/

namespace RequestDispatch

/-- What is wrong with a value. -/
inductive Defect where
  | missing
  | intFraction
  | intText
  | intNumber
  | intKind
  | floatText
  | floatKind
  | boolText
  | boolKind
  | strKind
  | listKind
  | objectKind
  | jsonText
  deriving DecidableEq, Repr

namespace Defect

/-- The machine-readable name of a defect. -/
def kind : Defect → String
  | .missing => "missing"
  | .intFraction => "int_from_float"
  | .intText | .intNumber => "int_parsing"
  | .intKind => "int_type"
  | .floatText => "float_parsing"
  | .floatKind => "float_type"
  | .boolText => "bool_parsing"
  | .boolKind => "bool_type"
  | .strKind => "string_type"
  | .listKind => "list_type"
  | .objectKind => "model_type"
  | .jsonText => "json_invalid"

/-- The wording of a defect. -/
def message : Defect → String
  | .missing => "Field required"
  | .intFraction => "Input should be a valid integer, got a number with a fractional part"
  | .intText => "Input should be a valid integer, unable to parse string as an integer"
  | .intNumber | .intKind => "Input should be a valid integer"
  | .floatText => "Input should be a valid number, unable to parse string as a number"
  | .floatKind => "Input should be a valid number"
  | .boolText => "Input should be a valid boolean, unable to interpret input"
  | .boolKind => "Input should be a valid boolean"
  | .strKind => "Input should be a valid string"
  | .listKind => "Input should be a valid list"
  | .objectKind => "Input should be a valid dictionary or object to extract fields from"
  | .jsonText => "JSON decode error"

/-- The error of a defect at a location. -/
def error (d : Defect) (location : List LocItem) (input : Json) : FieldError :=
  ⟨location, d.kind, d.message, input⟩

end Defect

/-- The integer of a number without fractional part, if it fits 64 bits signed. -/
def wholeInt (x : BinaryFloat) : Except Defect Int :=
  match x.toInt? with
  | none => .error .intFraction
  | some n => if Json.minInt ≤ n ∧ n ≤ Json.maxSigned then .ok n else .error .intText

/-- Reads a text as an integer: as a decimal integer that fits, else as a number without fractional
part. -/
def readIntText (text : String) : Except Defect Int :=
  let viaFloat :=
    match readFloat .double text with
    | some (.finite x) => wholeInt x
    | _ => .error .intText
  match readInt text with
  | some n => if Json.minInt ≤ n ∧ n ≤ Json.maxSigned then .ok n else viaFloat
  | none => viaFloat

/-- Reads a text as a finite number. -/
def readFloatText (text : String) : Option BinaryFloat :=
  match readFloat .double text with
  | some (.finite x) => some x
  | _ => none

/-- The words for true. -/
def trueWords : List String := ["1", "true", "on", "yes"]

/-- The words for false. -/
def falseWords : List String := ["0", "false", "off", "no"]

/-- Reads a text as a truth value, white space around it and letter case ignored. -/
def readBoolText (text : String) : Option Bool :=
  let word := Text.lowerAscii (Text.trim text)
  if trueWords.contains word then some true
  else if falseWords.contains word then some false
  else none

/-- What coercion gives: the value in its shape, or every error found. -/
abbrev Checked (α : Type) := Except (List FieldError) α

/-- The failure with a single defect. -/
def reject {α : Type} (d : Defect) (location : List LocItem) (input : Json) : Checked α :=
  .error [d.error location input]

/-- Brings a text into a shape. Lists and objects are not read from a text. -/
def coerceText (shape : Shape) (location : List LocItem) (text : String) : Checked Json :=
  let input := Json.str text
  match shape with
  | .str | .any => .ok input
  | .int =>
    match readIntText (Text.trim text) with
    | .ok n => .ok (.int n)
    | .error d => reject d location input
  | .float =>
    match readFloatText (Text.trim text) with
    | some x => .ok (.float x)
    | none => reject .floatText location input
  | .bool =>
    match readBoolText text with
    | some b => .ok (.bool b)
    | none => reject .boolText location input
  | .list _ => reject .listKind location input
  | .object _ => reject .objectKind location input

end RequestDispatch
