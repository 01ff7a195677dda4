import RequestDispatch.Number.Binary

/-!
# Shortest decimal texts

The fewest decimal digits that read back as a given number: the coarsest grid of multiples of a
power of ten that has a point among the reals rounding to the number, and on it the point nearest to
the number. `FloatLayout` records how such digits are laid out as text.
-/

namespace RequestDispatch

namespace BinaryFloat

/-- The reals that round to a number, in units of `2 ^ (exponent - 2)`: the least, the number itself
and the greatest. The gap below a power of two is half the gap above it. -/
def roundingRange (fmt : BinaryFormat) (x : BinaryFloat) : Nat × Nat × Nat :=
  let middle := 4 * x.significand
  let below :=
    if x.significand = Nat.pow 2 (fmt.precision - 1) ∧ fmt.minExponent < x.exponent then 1 else 2
  (middle - below, middle, middle + 2)

/-- The multiple of `10 ^ power` that rounds to the number and is nearest to it, divided by that
power; the even one of two that are equally near. -/
def gridPoint? (fmt : BinaryFormat) (x : BinaryFloat) (power : Int) : Option Nat :=
  let (low, middle, high) := roundingRange fmt x
  let e := x.exponent - 2
  let unit := Nat.pow 2 e.toNat * Nat.pow 10 (-power).toNat
  let grid := Nat.pow 2 (-e).toNat * Nat.pow 10 power.toNat
  let inside (n : Nat) : Bool :=
    if x.significand % 2 = 0 then low * unit ≤ n * grid ∧ n * grid ≤ high * unit
    else low * unit < n * grid ∧ n * grid < high * unit
  let a := middle * unit / grid
  let toLower := middle * unit - a * grid
  let toUpper := (a + 1) * grid - middle * unit
  match inside a, inside (a + 1) with
  | true, true =>
    some (if toLower < toUpper ∨ (toLower = toUpper ∧ a % 2 = 0) then a else a + 1)
  | true, false => some a
  | false, true => some (a + 1)
  | false, false => none

/-- The first grid with a point, trying `steps` powers of ten downwards. -/
def coarsestGrid (fmt : BinaryFormat) (x : BinaryFloat) : Nat → Int → Nat × Int
  | 0, power => (0, power)
  | steps + 1, power =>
    match gridPoint? fmt x power with
    | some digits => (digits, power)
    | none => coarsestGrid fmt x steps (power - 1)

/-- The shortest decimal `digits * 10 ^ power` of a number other than zero. The search starts above
the number; twenty-five powers reach below the seventeen digits that always suffice. -/
def shortest (fmt : BinaryFormat) (x : BinaryFloat) : Nat × Int :=
  coarsestGrid fmt x 25 (((x.significand.log2 : Int) + 1 + x.exponent) * 30103 / 100000 + 2)

end BinaryFloat

/-- How shortest digits are written. -/
structure FloatLayout where
  /-- The least position of the point, counted from the first digit, that is written plainly. -/
  minPoint : Int
  /-- The greatest position of the point that is written plainly. -/
  maxPoint : Int
  /-- Whether an exponent that is not negative carries a plus sign. -/
  plusSign : Bool

namespace FloatLayout

/-- The text of `0.digits * 10 ^ point`. A plain text always has a point with a digit on each side;
other texts put the point after the first digit and write the exponent. -/
def digitsText (layout : FloatLayout) (digits : List Char) (point : Int) : List Char :=
  if layout.minPoint ≤ point ∧ point ≤ layout.maxPoint then
    if point ≤ 0 then ['0', '.'] ++ List.replicate (-point).toNat '0' ++ digits
    else if (digits.length : Int) ≤ point then
      digits ++ List.replicate (point.toNat - digits.length) '0' ++ ['.', '0']
    else digits.take point.toNat ++ '.' :: digits.drop point.toNat
  else
    let mantissa :=
      match digits with
      | d :: d' :: ds => d :: '.' :: d' :: ds
      | ds => ds
    let exponent := point - 1
    let sign := if exponent < 0 then ['-'] else if layout.plusSign then ['+'] else []
    mantissa ++ 'e' :: sign ++ (toString exponent.natAbs).toList

/-- The text of a number. -/
def text (layout : FloatLayout) (fmt : BinaryFormat) (x : BinaryFloat) : String :=
  let magnitude :=
    if x.isZero then ['0', '.', '0']
    else
      let (digits, power) := x.shortest fmt
      let ds := (toString digits).toList
      layout.digitsText ds (ds.length + power)
  String.ofList (if x.negative then '-' :: magnitude else magnitude)

end FloatLayout

end RequestDispatch
