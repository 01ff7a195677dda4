/-!
# Binary floating-point numbers

A finite floating-point number is a sign, a significand and the exponent of its last binary place; a
format bounds the three. Every operation computes the exact result as a quotient of natural numbers
and rounds it once, to nearest with ties to the even significand, so that nothing here depends on
the machine. A result beyond the format's largest number is `none`.
-/

namespace RequestDispatch

/-- The bounds of a binary floating-point format. -/
structure BinaryFormat where
  /-- The number of bits of a significand. -/
  precision : Nat
  /-- The exponent of the last place of the smallest numbers. -/
  minExponent : Int
  /-- The exponent of the last place of the largest numbers. -/
  maxExponent : Int
  deriving DecidableEq, Repr

namespace BinaryFormat

/-- The 64-bit interchange format. -/
def double : BinaryFormat := ⟨53, -1074, 971⟩

/-- The 32-bit interchange format. -/
def single : BinaryFormat := ⟨24, -149, 104⟩

end BinaryFormat

/-- A finite number `significand * 2 ^ exponent` with a sign of its own, so that there are two
zeros. -/
structure BinaryFloat where
  negative : Bool
  significand : Nat
  exponent : Int
  deriving DecidableEq, Repr

namespace BinaryFloat

/-- The quotient rounded to nearest, a tie to the even neighbour. -/
def roundQuotient (num den : Nat) : Nat :=
  let q := num / den
  let r := num % den
  if den < 2 * r ∨ (den = 2 * r ∧ q % 2 = 1) then q + 1 else q

/-- The quotient with `2 ^ e` taken out: `num / den = (scale num den e).1 / (scale num den e).2 * 2
^ e`. -/
def scale (num den : Nat) (e : Int) : Nat × Nat :=
  if e < 0 then (num <<< (-e).toNat, den) else (num, den <<< e.toNat)

/-- The exponent of the highest binary place of a positive quotient. -/
def quotientLog (num den : Nat) : Int :=
  let guess : Int := (num.log2 : Int) - den.log2
  let (n, d) := scale num den guess
  if n < d then guess - 1 else guess

/-- The number of the format nearest to `num / den`. -/
def ofQuotient (fmt : BinaryFormat) (negative : Bool) (num den : Nat) : Option BinaryFloat :=
  if num = 0 then some ⟨negative, 0, fmt.minExponent⟩
  else
    let e := max fmt.minExponent (quotientLog num den - (fmt.precision - 1 : Nat))
    let (n, d) := scale num den e
    let q := roundQuotient n d
    let (q, e) := if q = Nat.pow 2 fmt.precision then (q / 2, e + 1) else (q, e)
    if fmt.maxExponent < e then none else some ⟨negative, q, e⟩

/-- The magnitude as a quotient of natural numbers. -/
def quotient (x : BinaryFloat) : Nat × Nat :=
  if x.exponent < 0 then (x.significand, 1 <<< (-x.exponent).toNat)
  else (x.significand <<< x.exponent.toNat, 1)

/-- The number of the format nearest to a natural number. -/
def ofNat (fmt : BinaryFormat) (n : Nat) : Option BinaryFloat := ofQuotient fmt false n 1

/-- The number of the format nearest to an integer. -/
def ofInt (fmt : BinaryFormat) (n : Int) : Option BinaryFloat :=
  ofQuotient fmt (n < 0) n.natAbs 1

/-- The number of the format nearest to `± digits * 10 ^ exponent`. -/
def ofDecimal (fmt : BinaryFormat) (negative : Bool) (digits : Nat) (exponent : Int) :
    Option BinaryFloat :=
  if exponent < 0 then ofQuotient fmt negative digits (Nat.pow 10 (-exponent).toNat)
  else ofQuotient fmt negative (digits * Nat.pow 10 exponent.toNat) 1

/-- The product, rounded once. -/
def mul (fmt : BinaryFormat) (x y : BinaryFloat) : Option BinaryFloat :=
  let (a, b) := x.quotient
  let (c, d) := y.quotient
  ofQuotient fmt (x.negative != y.negative) (a * c) (b * d)

/-- The quotient by a number other than zero, rounded once. -/
def div (fmt : BinaryFormat) (x y : BinaryFloat) : Option BinaryFloat :=
  let (a, b) := x.quotient
  let (c, d) := y.quotient
  ofQuotient fmt (x.negative != y.negative) (a * d) (b * c)

/-- The number with its sign turned. -/
def neg (x : BinaryFloat) : BinaryFloat := { x with negative := !x.negative }

/-- Whether the number is one of the two zeros. -/
def isZero (x : BinaryFloat) : Bool := x.significand == 0

/-- The integer the number is, if it has no fractional part. -/
def toInt? (x : BinaryFloat) : Option Int :=
  let (a, b) := x.quotient
  if a % b = 0 then some (if x.negative then -((a / b : Nat) : Int) else (a / b : Nat)) else none

/-- The integers `a`, `b` with `a < b` exactly when `x < y`; the two zeros are equal. -/
def comparands (x y : BinaryFloat) : Int × Int :=
  let e := min x.exponent y.exponent
  let side (z : BinaryFloat) : Int :=
    let n : Int := (z.significand <<< (z.exponent - e).toNat : Nat)
    if z.negative then -n else n
  (side x, side y)

/-- Whether `x` is less than `y` as a number. -/
def lt (x y : BinaryFloat) : Bool :=
  let (a, b) := comparands x y
  a < b

/-- Whether `x` and `y` are the same number; a zero equals the other zero. -/
def eqv (x y : BinaryFloat) : Bool :=
  let (a, b) := comparands x y
  a == b

/-- The interchange encoding of a number of the format: sign, biased exponent, fraction. -/
def toBits (fmt : BinaryFormat) (x : BinaryFloat) : Nat :=
  let hidden := Nat.pow 2 (fmt.precision - 1)
  let exponents := (fmt.maxExponent - fmt.minExponent + 3).toNat
  let magnitude :=
    if x.significand < hidden then x.significand
    else (x.exponent - fmt.minExponent + 1).toNat * hidden + (x.significand - hidden)
  (if x.negative then exponents * hidden else 0) + magnitude

end BinaryFloat

end RequestDispatch
