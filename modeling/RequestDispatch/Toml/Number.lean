import RequestDispatch.Config.Setting
import RequestDispatch.Toml.Text

/-!
# TOML numbers and dates

Integers are decimal with an optional sign or hexadecimal, octal or binary; underscores may stand
between digits. They fit 64 bits signed. A date or time is kept as a table with its text, so that no
configuration key can take it for a text or a number.
-/

namespace RequestDispatch

namespace Toml

/-- The digits of a run in which single underscores may stand between digits. -/
def digitRun? (isDigit : Char → Bool) : List Char → Option (List Char)
  | [] => none
  | [c] => if isDigit c then some [c] else none
  | c :: '_' :: rest =>
    if isDigit c then (digitRun? isDigit rest).map (c :: ·) else none
  | c :: rest => if isDigit c then (digitRun? isDigit rest).map (c :: ·) else none

/-- The sign of a number and what follows it. -/
def splitSign : List Char → Bool × List Char
  | '+' :: rest => (false, rest)
  | '-' :: rest => (true, rest)
  | cs => (false, cs)

/-- The digits of a decimal number, which do not begin with a zero unless it stands alone. -/
def decimalRun? (cs : List Char) : Option (List Char) :=
  (digitRun? Char.isDigit cs).bind fun digits =>
    match digits with
    | '0' :: _ :: _ => none
    | digits => some digits

/-- An integer that fits 64 bits signed. -/
def fitting? (n : Int) : Option Int :=
  if -9223372036854775808 ≤ n ∧ n ≤ 9223372036854775807 then some n else none

/-- Reads digits of a base. -/
def ofBase (base : Nat) (cs : List Char) : Option Int :=
  let value := fun (c : Char) => (hexValue? c).filter (· < base)
  (digitRun? (fun c => (value c).isSome) cs).bind fun digits =>
    (digits.mapM value).bind fun values =>
      fitting? (Int.ofNat (values.foldl (fun n d => n * base + d) 0))

/-- Reads an integer. -/
def integer? (cs : List Char) : Option Int :=
  match cs with
  | '0' :: 'x' :: rest => ofBase 16 rest
  | '0' :: 'o' :: rest => ofBase 8 rest
  | '0' :: 'b' :: rest => ofBase 2 rest
  | cs =>
    let (negative, digits) := splitSign cs
    (decimalRun? digits).bind fun digits =>
      let n : Int := Text.digitsValue digits
      fitting? (if negative then -n else n)

/-- Whether the text is the exponent of a number, `e` or `E` with a sign and digits. -/
def isExponent : List Char → Bool
  | c :: rest => (c == 'e' || c == 'E') && (digitRun? Char.isDigit (splitSign rest).2).isSome
  | [] => false

/-- Reads a floating-point number: a fraction or an exponent or both; also the words for infinity
and for no number. -/
def real? (cs : List Char) : Option FloatReading :=
  let (negative, body) := splitSign cs
  if body = "inf".toList then some (.infinite negative)
  else if body = "nan".toList then some .notANumber
  else
    let isPart := fun (c : Char) => c.isDigit || c == '_'
    let whole := body.takeWhile isPart
    let rest := body.drop whole.length
    let shaped :=
      match rest with
      | '.' :: rest =>
        let fraction := rest.takeWhile isPart
        let rest := rest.drop fraction.length
        (digitRun? Char.isDigit fraction).isSome && (rest.isEmpty || isExponent rest)
      | rest => isExponent rest
    if (decimalRun? whole).isSome && shaped then
      match readFloat .double (String.ofList (cs.filter (· != '_'))) with
      | some (.finite x) => some (.finite x)
      | _ => none
    else none

/-- The number that exactly `count` digits denote, and what follows them. -/
def digits? (count : Nat) (cs : List Char) : Reading Nat :=
  let digits := cs.take count
  if digits.length = count ∧ digits.all Char.isDigit then
    some (Text.digitsValue digits, cs.drop count)
  else none

/-- The number of days of a month. -/
def daysIn (year month : Nat) : Nat :=
  if month = 2 then
    if year % 4 = 0 ∧ (year % 100 ≠ 0 ∨ year % 400 = 0) then 29 else 28
  else if [4, 6, 9, 11].contains month then 30
  else 31

/-- Passes over a date. -/
def skipDate (cs : List Char) : Option (List Char) :=
  match digits? 4 cs with
  | some (year, '-' :: rest) =>
    match digits? 2 rest with
    | some (month, '-' :: rest) =>
      match digits? 2 rest with
      | some (day, rest) =>
        if 1 ≤ month ∧ month ≤ 12 ∧ 1 ≤ day ∧ day ≤ daysIn year month then some rest else none
      | none => none
    | _ => none
  | _ => none

/-- Passes over a time of day. -/
def skipTime (cs : List Char) : Option (List Char) :=
  match digits? 2 cs with
  | some (hour, ':' :: rest) =>
    match digits? 2 rest with
    | some (minute, ':' :: rest) =>
      match digits? 2 rest with
      | some (second, rest) =>
        if 23 < hour ∨ 59 < minute ∨ 60 < second then none
        else
          match rest with
          | '.' :: fraction =>
            let after := fraction.dropWhile Char.isDigit
            if after.length < fraction.length then some after else none
          | rest => some rest
      | none => none
    | _ => none
  | _ => none

/-- Whether the text is an offset from universal time, or nothing. -/
def isOffset (cs : List Char) : Bool :=
  let hours := fun (cs : List Char) =>
    match digits? 2 cs with
    | some (hour, ':' :: rest) =>
      match digits? 2 rest with
      | some (minute, []) => hour ≤ 23 && minute ≤ 59
      | _ => false
    | _ => false
  match cs with
  | [] => true
  | ['Z'] | ['z'] => true
  | '+' :: rest => hours rest
  | '-' :: rest => hours rest
  | _ => false

/-- Whether the text is a date, a time or both. -/
def isMoment (cs : List Char) : Bool :=
  match skipDate cs with
  | some [] => true
  | some (c :: rest) =>
    (c == 'T' || c == 't' || c == ' ') &&
      (match skipTime rest with
      | some rest => isOffset rest
      | none => false)
  | none => skipTime cs == some []

/-- Whether the character may stand in a number, a date or a word. -/
def isWordChar (c : Char) : Bool := c.isAlphanum || ['_', '+', '-', '.', ':'].contains c

/-- Cuts off a number, a date or a word. A date may go on after a space. -/
def cutWord (cs : List Char) : List Char × List Char :=
  let word := cs.takeWhile isWordChar
  let rest := cs.drop word.length
  match rest with
  | ' ' :: c :: after =>
    if c.isDigit ∧ skipDate word = some [] then
      let more := (c :: after).takeWhile isWordChar
      (word ++ ' ' :: more, (c :: after).drop more.length)
    else (word, rest)
  | _ => (word, rest)

/-- Reads a number, a date or a truth value. -/
def readWord (cs : List Char) : Reading Setting :=
  let (word, rest) := cutWord cs
  if word = "true".toList then some (.flag true, rest)
  else if word = "false".toList then some (.flag false, rest)
  else if isMoment word then
    some (.table [("$__toml_private_datetime", .text (String.ofList word))], rest)
  else
    match integer? word with
    | some n => some (.whole n, rest)
    | none => (real? word).map fun x => (.real x, rest)

end Toml

end RequestDispatch
