import RequestDispatch.Text.Basic
import RequestDispatch.Number.Binary

/-!
# Decimal texts of floating-point numbers

`readFloat` reads an optional sign followed by digits with an optional point and an optional
exponent, or one of the words `inf`, `infinity`, `nan` in any letter case. The nearest number of the
format is found from the exact decimal value.
-/

namespace RequestDispatch

/-- What a decimal text denotes in a floating-point format. -/
inductive FloatReading where
  | finite (value : BinaryFloat)
  | infinite (negative : Bool)
  | notANumber
  deriving DecidableEq, Repr

namespace FloatReading

/-- A decimal exponent beyond which every format here has no finite number, and below whose negative
every number rounds to zero. -/
def decimalReach : Int := 400

/-- The reading of `± digits * 10 ^ exponent`. Values out of reach are settled without computing the
power of ten. -/
def ofDecimal (fmt : BinaryFormat) (negative : Bool) (digits : List Char) (exponent : Int) :
    FloatReading :=
  let digits := digits.dropWhile (· == '0')
  let magnitude : Int := digits.length + exponent
  if digits.isEmpty ∨ magnitude < -decimalReach then .finite ⟨negative, 0, fmt.minExponent⟩
  else if decimalReach < magnitude then .infinite negative
  else
    match BinaryFloat.ofDecimal fmt negative (Text.digitsValue digits) exponent with
    | some x => .finite x
    | none => .infinite negative

/-- The exponent part of a decimal text: `e` or `E`, a sign, digits. Nothing at all is
exponent 0. -/
def readExponent : List Char → Option Int
  | [] => some 0
  | c :: cs =>
    if c = 'e' ∨ c = 'E' then
      let (negative, ds) :=
        match cs with
        | '+' :: ds => (false, ds)
        | '-' :: ds => (true, ds)
        | ds => (false, ds)
      if ds.isEmpty ∨ !ds.all Char.isDigit then none
      else some (if negative then -(Text.digitsValue ds : Int) else Text.digitsValue ds)
    else none

/-- The reading of a text after its sign. -/
def readMagnitude (fmt : BinaryFormat) (negative : Bool) (cs : List Char) : Option FloatReading :=
  let word := cs.map Char.toLower
  if word = "inf".toList ∨ word = "infinity".toList then some (.infinite negative)
  else if word = "nan".toList then some .notANumber
  else
    let whole := cs.takeWhile Char.isDigit
    let rest := cs.dropWhile Char.isDigit
    let (fraction, rest) :=
      match rest with
      | '.' :: rest => (rest.takeWhile Char.isDigit, rest.dropWhile Char.isDigit)
      | rest => ([], rest)
    if whole.isEmpty ∧ fraction.isEmpty then none
    else
      (readExponent rest).map fun exponent =>
        ofDecimal fmt negative (whole ++ fraction) (exponent - fraction.length)

end FloatReading

/-- The number a decimal text denotes in a format, if it is such a text. -/
def readFloat (fmt : BinaryFormat) (text : String) : Option FloatReading :=
  match text.toList with
  | '+' :: cs => FloatReading.readMagnitude fmt false cs
  | '-' :: cs => FloatReading.readMagnitude fmt true cs
  | cs => FloatReading.readMagnitude fmt false cs

/-- The integer that an optional sign and one or more decimal digits denote. -/
def readInt (text : String) : Option Int :=
  let digits (cs : List Char) : Option Nat :=
    if cs.isEmpty ∨ !cs.all Char.isDigit then none else some (Text.digitsValue cs)
  match text.toList with
  | '+' :: cs => (digits cs).map fun n => (n : Int)
  | '-' :: cs => (digits cs).map fun n => -(n : Int)
  | cs => (digits cs).map fun n => (n : Int)

end RequestDispatch
