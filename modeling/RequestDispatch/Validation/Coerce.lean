import RequestDispatch.Validation.Scalar

/-!
# Bringing JSON into shape

`coerce` brings a JSON value into a shape. Numbers and truth values are also read from texts, whole
floating-point numbers are integers, integers are numbers; everything else must already be of its
kind. All defects of a value are found, in the order of list items and declared fields.
-/

namespace RequestDispatch

/-- Two values, or the errors of both in order. -/
def both {α β : Type} : Checked α → Checked β → Checked (α × β)
  | .ok a, .ok b => .ok (a, b)
  | .ok _, .error errors => .error errors
  | .error errors, .ok _ => .error errors
  | .error errors, .error more => .error (errors ++ more)

/-- All values, or all errors in order. -/
def collect {α : Type} : List (Checked α) → Checked (List α)
  | [] => .ok []
  | result :: results => (both result (collect results)).map fun (a, as) => a :: as

/-- Brings a JSON number, truth value or text into a scalar shape. -/
def coerceScalar (shape : Shape) (location : List LocItem) (value : Json) : Checked Json :=
  match shape, value with
  | .str, .str text => .ok (.str text)
  | .str, _ => reject .strKind location value
  | _, .str text => coerceText shape location text
  | .int, .int n => .ok (.int n)
  | .int, .float x =>
    match wholeInt x with
    | .ok n => .ok (.int n)
    | .error .intFraction => reject .intFraction location value
    | .error _ => reject .intNumber location value
  | .int, _ => reject .intKind location value
  | .float, .float x => .ok (.float x)
  | .float, .int n =>
    match BinaryFloat.ofInt .double n with
    | some x => .ok (.float x)
    | none => reject .floatText location value
  | .float, _ => reject .floatKind location value
  | .bool, .bool b => .ok (.bool b)
  | .bool, .int n =>
    if n = 0 then .ok (.bool false)
    else if n = 1 then .ok (.bool true)
    else reject .boolText location value
  | .bool, .float _ => reject .boolText location value
  | .bool, _ => reject .boolKind location value
  | _, _ => .ok value

/-- A field that is not there: its fallback, or an error that shows the object it is missing in. -/
def absent (presence : Presence) (location : List LocItem) (container : Json) : Checked Json :=
  match presence with
  | .required => reject .missing location container
  | .optional fallback => .ok fallback

mutual

/-- Brings a value into a shape. -/
def coerce : Shape → List LocItem → Json → Checked Json
  | .any, _, value => .ok value
  | .list inner, location, value =>
    match value with
    | .arr items =>
      (collect (items.mapIdx fun i item => coerce inner (location ++ [.index i]) item)).map .arr
    | _ => reject .listKind location value
  | .object fields, location, value =>
    match value with
    | .obj _ => (coerceFields fields location value).map Json.object
    | _ => reject .objectKind location value
  | .int, location, value => coerceScalar .int location value
  | .float, location, value => coerceScalar .float location value
  | .bool, location, value => coerceScalar .bool location value
  | .str, location, value => coerceScalar .str location value

/-- Brings the declared fields of an object into their shapes. -/
def coerceFields : List Field → List LocItem → Json → Checked (List (String × Json))
  | [], _, _ => .ok []
  | field :: fields, location, container =>
    (both (coerceField field location container) (coerceFields fields location container)).map
      fun (a, as) => a :: as

/-- Brings one declared field of an object into its shape. An optional field may be null. -/
def coerceField : Field → List LocItem → Json → Checked (String × Json)
  | .mk name shape presence, location, container =>
    let here := location ++ [LocItem.key name]
    let result :=
      match container.get? name, presence with
      | none, presence => absent presence here container
      | some .null, .optional _ => .ok .null
      | some value, _ => coerce shape here value
    result.map fun value => (name, value)

end

end RequestDispatch
