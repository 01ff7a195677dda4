import RequestDispatch.Json.Basic
import RequestDispatch.Json.SyntaxError

/-!
# Numbers in JSON text

A number without point and exponent that fits 64 bits is an integer; `-0` and all others are
floating-point. Of a long number only the leading digits that fit an unsigned 64-bit integer count,
the dropped ones raise the exponent, and the value is this significand scaled by a power of ten,
each step rounded. A result beyond the largest finite number is refused.
-/

namespace RequestDispatch

namespace Json

/-- A place in the octets of a text: how many were read, and the rest. -/
structure Cursor where
  offset : Nat
  rest : Bytes
  deriving DecidableEq, Repr

/-- The offset just after the next octet, if there is one. -/
def Cursor.peekOffset (c : Cursor) : Nat := if c.rest.isEmpty then c.offset else c.offset + 1

/-- What reading from a cursor gives: a result and the cursor after it, or a fault. -/
abbrev Reading (α : Type) := Except FaultAt (α × Cursor)

/-- A fault at the octets read so far. -/
def Cursor.fail {α : Type} (c : Cursor) (fault : Fault) : Except FaultAt α :=
  .error ⟨fault, c.offset⟩

/-- A fault at the next octet. -/
def Cursor.failAhead {α : Type} (c : Cursor) (fault : Fault) : Except FaultAt α :=
  .error ⟨fault, c.peekOffset⟩

/-- The value of a decimal digit. -/
def digit? (b : UInt8) : Option Nat :=
  if 48 ≤ b.toNat ∧ b.toNat ≤ 57 then some (b.toNat - 48) else none

/-- Digits read onto a number: the number, how many digits, whether a further digit did not fit. -/
structure DigitRun where
  value : Nat
  count : Nat
  full : Bool
  cursor : Cursor
  deriving Repr

/-- Reads digits onto `value` as long as the result is at most `limit`. -/
def takeDigits (limit : Nat) (value count offset : Nat) : Bytes → DigitRun
  | [] => ⟨value, count, false, offset, []⟩
  | b :: rest =>
    match digit? b with
    | none => ⟨value, count, false, offset, b :: rest⟩
    | some d =>
      if limit < value * 10 + d then ⟨value, count, true, offset, b :: rest⟩
      else takeDigits limit (value * 10 + d) (count + 1) (offset + 1) rest

/-- Passes over digits; also how many they were. -/
def skipDigits (count offset : Nat) : Bytes → Nat × Cursor
  | [] => (count, ⟨offset, []⟩)
  | b :: rest =>
    if (digit? b).isSome then skipDigits (count + 1) (offset + 1) rest
    else (count, ⟨offset, b :: rest⟩)

/-- The greatest significand. -/
def significandLimit : Nat := 18446744073709551615

/-- The greatest exponent that is read digit by digit. -/
def exponentLimit : Nat := 2147483647

/-- The double nearest to a power of ten up to the 308th. -/
def powerOfTen (n : Nat) : BinaryFloat :=
  (BinaryFloat.ofNat .double (Nat.pow 10 n)).getD ⟨false, 0, 0⟩

/-- The significand scaled by a power of ten, `none` beyond the largest finite number. A divisor of
more than the 308th power is applied in two steps; below the 616th power nothing is left. -/
def scaleByTen (significand : Nat) (exponent : Int) : Option BinaryFloat :=
  let zero : BinaryFloat := ⟨false, 0, BinaryFormat.double.minExponent⟩
  if significand = 0 then some zero
  else
    (BinaryFloat.ofNat .double significand).bind fun f =>
      if 308 < exponent then none
      else if 0 ≤ exponent then f.mul .double (powerOfTen exponent.toNat)
      else if -308 ≤ exponent then f.div .double (powerOfTen (-exponent).toNat)
      else if -616 ≤ exponent then
        (f.div .double (powerOfTen 308)).bind fun f =>
          f.div .double (powerOfTen (-exponent - 308).toNat)
      else some zero

/-- The floating-point number of a significand and a decimal exponent. -/
def finishFloat (negative : Bool) (significand : Nat) (exponent : Int) (c : Cursor) :
    Reading Json :=
  match scaleByTen significand exponent with
  | some x => .ok (.float (if negative then x.neg else x), c)
  | none => c.fail .numberOutOfRange

/-- Reads the exponent part after its letter. -/
def readExponent (negative : Bool) (significand : Nat) (exponent : Int) (c : Cursor) :
    Reading Json :=
  let (down, c) : Bool × Cursor :=
    match c.rest with
    | 43 :: rest => (false, ⟨c.offset + 1, rest⟩)
    | 45 :: rest => (true, ⟨c.offset + 1, rest⟩)
    | _ => (false, c)
  match c.rest with
  | [] => c.fail .endInValue
  | b :: rest =>
    match digit? b with
    | none => (Cursor.mk (c.offset + 1) rest).fail .invalidNumber
    | some first =>
      let run := takeDigits exponentLimit first 1 (c.offset + 1) rest
      if run.full then
        let after : Cursor := ⟨run.cursor.offset + 1, run.cursor.rest.drop 1⟩
        if significand ≠ 0 ∧ !down then after.fail .numberOutOfRange
        else
          let zero : BinaryFloat := ⟨negative, 0, BinaryFormat.double.minExponent⟩
          .ok (.float zero, (skipDigits 0 after.offset after.rest).2)
      else
        finishFloat negative significand
          (if down then exponent - run.value else exponent + run.value) run.cursor

/-- Goes on after the digits of a floating-point number, where an exponent may follow. -/
def exponentOrEnd (negative : Bool) (significand : Nat) (exponent : Int) (c : Cursor) :
    Reading Json :=
  match c.rest with
  | b :: rest =>
    if b = 101 ∨ b = 69 then readExponent negative significand exponent ⟨c.offset + 1, rest⟩
    else finishFloat negative significand exponent c
  | [] => finishFloat negative significand exponent c

/-- Reads the fractional part after its point. -/
def readFraction (negative : Bool) (significand : Nat) (exponent : Int) (c : Cursor) :
    Reading Json :=
  let run := takeDigits significandLimit significand 0 c.offset c.rest
  if run.full then
    exponentOrEnd negative run.value (exponent - run.count)
      (skipDigits 0 run.cursor.offset run.cursor.rest).2
  else if run.count = 0 then
    run.cursor.failAhead (if run.cursor.rest.isEmpty then .endInValue else .invalidNumber)
  else exponentOrEnd negative run.value (exponent - run.count) run.cursor

/-- Goes on after the whole digits of a number whose dropped digits raise the exponent. -/
def fractionOrEnd (negative : Bool) (significand : Nat) (exponent : Int) (c : Cursor) :
    Reading Json :=
  match c.rest with
  | 46 :: rest => readFraction negative significand exponent ⟨c.offset + 1, rest⟩
  | _ => exponentOrEnd negative significand exponent c

/-- The number that whole digits alone denote. -/
def wholeNumber (negative : Bool) (significand : Nat) : Json :=
  if !negative then .int significand
  else if significand = 0 ∨ 9223372036854775808 < significand then
    .float (((BinaryFloat.ofNat .double significand).getD ⟨false, 0, 0⟩).neg)
  else .int (-(significand : Int))

/-- Goes on after whole digits of which none was dropped. -/
def afterWhole (negative : Bool) (significand : Nat) (c : Cursor) : Reading Json :=
  match c.rest with
  | b :: _ =>
    if b = 46 ∨ b = 101 ∨ b = 69 then fractionOrEnd negative significand 0 c
    else .ok (wholeNumber negative significand, c)
  | [] => .ok (wholeNumber negative significand, c)

/-- Reads a number after its sign. -/
def readNumber (negative : Bool) (c : Cursor) : Reading Json :=
  match c.rest with
  | [] => c.fail .endInValue
  | b :: rest =>
    match digit? b with
    | none => (Cursor.mk (c.offset + 1) rest).fail .invalidNumber
    | some 0 =>
      let after : Cursor := ⟨c.offset + 1, rest⟩
      if ((rest.head?).bind digit?).isSome then after.failAhead .invalidNumber
      else afterWhole negative 0 after
    | some first =>
      let run := takeDigits significandLimit first 1 (c.offset + 1) rest
      if run.full then
        let (dropped, after) := skipDigits 0 run.cursor.offset run.cursor.rest
        fractionOrEnd negative run.value dropped after
      else afterWhole negative run.value run.cursor

end Json

end RequestDispatch
