import RequestDispatch.Json.Basic
import RequestDispatch.Number.Shortest

/-!
# Compact JSON text

`Json.render` writes a value without any white space. A string escapes the quote, the backslash and
the control characters below the space, nothing else.
-/

namespace RequestDispatch

namespace Json

/-- Numbers are plain from `0.00001` up to but not including `10 ^ 16`; a plain number always has a
fractional part, and an exponent always has a sign. -/
def floatLayout : FloatLayout := ⟨-4, 16, true⟩

/-- The text of a floating-point number. -/
def floatText (x : BinaryFloat) : String := floatLayout.text .double x

/-- A small hexadecimal digit. -/
def hexDigit (n : Nat) : Char := if n < 10 then Char.ofNat (48 + n) else Char.ofNat (87 + n)

/-- How a character stands inside a quoted string. -/
def escapeChar (c : Char) : List Char :=
  if c = '"' then ['\\', '"']
  else if c = '\\' then ['\\', '\\']
  else if c.toNat < 0x20 then
    match c.toNat with
    | 8 => ['\\', 'b']
    | 9 => ['\\', 't']
    | 10 => ['\\', 'n']
    | 12 => ['\\', 'f']
    | 13 => ['\\', 'r']
    | n => ['\\', 'u', '0', '0', hexDigit (n / 16), hexDigit (n % 16)]
  else [c]

/-- The quoted form of a text. -/
def quoteChars (s : String) : List Char := '"' :: s.toList.flatMap escapeChar ++ ['"']

mutual

/-- The compact text of a value, as characters. -/
def chars : Json → List Char
  | .null => ['n', 'u', 'l', 'l']
  | .bool true => ['t', 'r', 'u', 'e']
  | .bool false => ['f', 'a', 'l', 's', 'e']
  | .int n => (toString n).toList
  | .float x => (floatText x).toList
  | .str s => quoteChars s
  | .arr [] => ['[', ']']
  | .arr (item :: items) => '[' :: chars item ++ itemsChars items
  | .obj [] => ['{', '}']
  | .obj ((key, value) :: fields) =>
    '{' :: quoteChars key ++ ':' :: chars value ++ fieldsChars fields

/-- The items of a list after the first, with the closing bracket. -/
def itemsChars : List Json → List Char
  | [] => [']']
  | item :: items => ',' :: chars item ++ itemsChars items

/-- The fields of an object after the first, with the closing brace. -/
def fieldsChars : List (String × Json) → List Char
  | [] => ['}']
  | (key, value) :: fields => ',' :: quoteChars key ++ ':' :: chars value ++ fieldsChars fields

end

/-- The compact text of a value. -/
def render (value : Json) : String := String.ofList (chars value)

end Json

end RequestDispatch
