import RequestDispatch.Text.Utf8

/-!
# Faults of JSON text

What can be wrong with a JSON text and where. A place is an offset into the octets while reading,
and a line and a column in the final error: the column counts the octets since the last line feed.
-/

namespace RequestDispatch

namespace Json

/-- What is wrong with a JSON text. -/
inductive Fault where
  | endInList
  | endInObject
  | endInString
  | endInValue
  | expectedColon
  | expectedListCommaOrEnd
  | expectedObjectCommaOrEnd
  | expectedWord
  | expectedValue
  | invalidEscape
  | invalidNumber
  | numberOutOfRange
  | invalidCodePoint
  | controlCharacter
  | keyMustBeString
  | loneSurrogate
  | trailingComma
  | trailingCharacters
  | endOfHexEscape
  | tooDeep
  deriving DecidableEq, Repr

/-- The wording of a fault. -/
def Fault.text : Fault → String
  | .endInList => "EOF while parsing a list"
  | .endInObject => "EOF while parsing an object"
  | .endInString => "EOF while parsing a string"
  | .endInValue => "EOF while parsing a value"
  | .expectedColon => "expected `:`"
  | .expectedListCommaOrEnd => "expected `,` or `]`"
  | .expectedObjectCommaOrEnd => "expected `,` or `\x7d`"
  | .expectedWord => "expected ident"
  | .expectedValue => "expected value"
  | .invalidEscape => "invalid escape"
  | .invalidNumber => "invalid number"
  | .numberOutOfRange => "number out of range"
  | .invalidCodePoint => "invalid unicode code point"
  | .controlCharacter =>
    "control character (\\u0000-\\u001F) found while parsing a string"
  | .keyMustBeString => "key must be a string"
  | .loneSurrogate => "lone leading surrogate in hex escape"
  | .trailingComma => "trailing comma"
  | .trailingCharacters => "trailing characters"
  | .endOfHexEscape => "unexpected end of hex escape"
  | .tooDeep => "recursion limit exceeded"

/-- A fault and the offset it is reported at. -/
structure FaultAt where
  fault : Fault
  offset : Nat
  deriving DecidableEq, Repr

/-- A fault of a JSON text and its place. -/
structure SyntaxError where
  fault : Fault
  line : Nat
  column : Nat
  deriving DecidableEq, Repr

/-- The fault with its line and column in the text it was found in. -/
def FaultAt.place (bytes : Bytes) (found : FaultAt) : SyntaxError :=
  let before := bytes.take found.offset
  { fault := found.fault
    line := 1 + before.count 10
    column := (before.reverse.takeWhile (· != 10)).length }

/-- The full wording of an error. -/
def SyntaxError.message (e : SyntaxError) : String :=
  e.fault.text ++ " at line " ++ toString e.line ++ " column " ++ toString e.column

end Json

end RequestDispatch
