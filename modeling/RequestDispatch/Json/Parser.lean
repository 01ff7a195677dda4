import RequestDispatch.Json.Number

/-!
# Reading JSON text

`Json.parse` reads octets as one JSON value with white space around it. Lists and objects nest at
most 127 deep. The first fault ends the reading and is reported with its line and column.
-/

namespace RequestDispatch

namespace Json

/-- Passes over spaces, tabs and line ends. -/
def skipBlank (offset : Nat) : Bytes → Cursor
  | [] => ⟨offset, []⟩
  | b :: rest =>
    if b = 32 ∨ b = 10 ∨ b = 9 ∨ b = 13 then skipBlank (offset + 1) rest else ⟨offset, b :: rest⟩

/-- The cursor after white space. -/
def Cursor.skipBlank (c : Cursor) : Cursor := Json.skipBlank c.offset c.rest

/-- Reads the given octets of a word. -/
def readWord (offset : Nat) : Bytes → Bytes → Except FaultAt Cursor
  | [], rest => .ok ⟨offset, rest⟩
  | _ :: _, [] => .error ⟨.endInValue, offset⟩
  | expected :: word, b :: rest =>
    if b = expected then readWord (offset + 1) word rest else .error ⟨.expectedWord, offset + 1⟩

/-- The value of a hexadecimal digit. -/
def hexValue? (b : UInt8) : Option Nat :=
  let n := b.toNat
  if 48 ≤ n ∧ n ≤ 57 then some (n - 48)
  else if 65 ≤ n ∧ n ≤ 70 then some (n - 55)
  else if 97 ≤ n ∧ n ≤ 102 then some (n - 87)
  else none

/-- The value of four hexadecimal digits. -/
def hexQuad? (a b c d : UInt8) : Option Nat := do
  let a ← hexValue? a
  let b ← hexValue? b
  let c ← hexValue? c
  let d ← hexValue? d
  return ((a * 16 + b) * 16 + c) * 16 + d

/-- The octet that a one-letter escape stands for. -/
def simpleEscape? (b : UInt8) : Option UInt8 :=
  if b = 34 ∨ b = 92 ∨ b = 47 then some b
  else if b = 98 then some 8
  else if b = 102 then some 12
  else if b = 110 then some 10
  else if b = 114 then some 13
  else if b = 116 then some 9
  else none

/-- Reads a string after its opening quote. `done` holds the octets of the text read so far, last
first. Escaped characters beyond the basic plane are a pair of surrogates. -/
def readString (done : Bytes) (offset : Nat) : Bytes → Reading String
  | [] => .error ⟨.endInString, offset⟩
  | b :: rest =>
    if b = 34 then
      match Utf8.decode? done.reverse with
      | some text => .ok (text, ⟨offset + 1, rest⟩)
      | none => .error ⟨.invalidCodePoint, offset + 1⟩
    else if b = 92 then
      match rest with
      | [] => .error ⟨.endInString, offset + 1⟩
      | 117 :: a :: b :: c :: d :: rest =>
        match hexQuad? a b c d with
        | none => .error ⟨.invalidEscape, offset + 6⟩
        | some n =>
          if 0xDC00 ≤ n ∧ n ≤ 0xDFFF then .error ⟨.loneSurrogate, offset + 6⟩
          else if n < 0xD800 ∨ 0xDBFF < n then
            readString ((Utf8.encodeChar (Char.ofNat n)).reverse ++ done) (offset + 6) rest
          else
            match rest with
            | 92 :: 117 :: e :: f :: g :: h :: rest =>
              match hexQuad? e f g h with
              | none => .error ⟨.invalidEscape, offset + 12⟩
              | some m =>
                if m < 0xDC00 ∨ 0xDFFF < m then .error ⟨.loneSurrogate, offset + 12⟩
                else
                  let code := (n - 0xD800) * 1024 + (m - 0xDC00) + 0x10000
                  readString ((Utf8.encodeChar (Char.ofNat code)).reverse ++ done)
                    (offset + 12) rest
            | 92 :: 117 :: rest => .error ⟨.endInString, offset + 8 + rest.length⟩
            | 92 :: _ :: _ => .error ⟨.endOfHexEscape, offset + 8⟩
            | [92] => .error ⟨.endInString, offset + 7⟩
            | _ :: _ => .error ⟨.endOfHexEscape, offset + 7⟩
            | [] => .error ⟨.endInString, offset + 6⟩
      | e :: rest =>
        if e = 117 then .error ⟨.endInString, offset + 2 + rest.length⟩
        else
          match simpleEscape? e with
          | some octet => readString (octet :: done) (offset + 2) rest
          | none => .error ⟨.invalidEscape, offset + 2⟩
    else if b.toNat < 32 then .error ⟨.controlCharacter, offset + 1⟩
    else readString (b :: done) (offset + 1) rest

/-- Reads a string after its opening quote. Octets that are no UTF-8 are faulted at the first of
them. -/
def readText (c : Cursor) : Reading String :=
  match readString [] c.offset c.rest with
  | .error ⟨.invalidCodePoint, _⟩ =>
    .error ⟨.invalidCodePoint, c.offset + Utf8.validLength c.rest + 1⟩
  | reading => reading

/-- Reads the items of a list after its opening bracket or after an item. Each round reads an octet
at least, so one octet of those that are left is counted off for it. -/
def readItems (readItem : Cursor → Reading Json) :
    Bytes → Bool → List Json → Cursor → Reading (List Json)
  | [], _, _, c => c.failAhead .endInList
  | _ :: rounds, first, done, c =>
    let c := c.skipBlank
    match c.rest with
    | [] => c.failAhead .endInList
    | b :: rest =>
      if b = 93 then .ok (done.reverse, ⟨c.offset + 1, rest⟩)
      else if first then
        match readItem c with
        | .ok (item, c) => readItems readItem rounds false (item :: done) c
        | .error e => .error e
      else if b = 44 then
        let c := skipBlank (c.offset + 1) rest
        match c.rest with
        | [] => c.failAhead .endInValue
        | b :: _ =>
          if b = 93 then c.failAhead .trailingComma
          else
            match readItem c with
            | .ok (item, c) => readItems readItem rounds false (item :: done) c
            | .error e => .error e
      else c.failAhead .expectedListCommaOrEnd

/-- Reads one field of an object, from the quote of its key on. -/
def readField (readItem : Cursor → Reading Json) (c : Cursor) : Reading (String × Json) :=
  match readText ⟨c.offset + 1, c.rest.drop 1⟩ with
  | .error e => .error e
  | .ok (key, c) =>
    let c := c.skipBlank
    match c.rest with
    | [] => c.failAhead .endInObject
    | b :: rest =>
      if b = 58 then
        match readItem ⟨c.offset + 1, rest⟩ with
        | .ok (value, c) => .ok ((key, value), c)
        | .error e => .error e
      else c.failAhead .expectedColon

/-- Reads the fields of an object after its opening brace or after a field. -/
def readFields (readItem : Cursor → Reading Json) :
    Bytes → Bool → List (String × Json) → Cursor → Reading (List (String × Json))
  | [], _, _, c => c.failAhead .endInObject
  | _ :: rounds, first, done, c =>
    let c := c.skipBlank
    match c.rest with
    | [] => c.failAhead .endInObject
    | b :: rest =>
      if b = 125 then .ok (done.reverse, ⟨c.offset + 1, rest⟩)
      else if first then
        if b = 34 then
          match readField readItem c with
          | .ok (field, c) => readFields readItem rounds false (field :: done) c
          | .error e => .error e
        else c.failAhead .keyMustBeString
      else if b = 44 then
        let c := skipBlank (c.offset + 1) rest
        match c.rest with
        | [] => c.failAhead .endInValue
        | b :: _ =>
          if b = 34 then
            match readField readItem c with
            | .ok (field, c) => readFields readItem rounds false (field :: done) c
            | .error e => .error e
          else c.failAhead (if b = 125 then .trailingComma else .keyMustBeString)
      else c.failAhead .expectedObjectCommaOrEnd

/-- Reads a value that holds no other value, given its first octet. -/
def readScalar (b : UInt8) (c : Cursor) : Reading Json :=
  let after : Cursor := ⟨c.offset + 1, c.rest.drop 1⟩
  if b = 110 then (readWord after.offset [117, 108, 108] after.rest).map fun c => (.null, c)
  else if b = 116 then
    (readWord after.offset [114, 117, 101] after.rest).map fun c => (.bool true, c)
  else if b = 102 then
    (readWord after.offset [97, 108, 115, 101] after.rest).map fun c => (.bool false, c)
  else if b = 45 then readNumber true after
  else if (digit? b).isSome then readNumber false c
  else if b = 34 then
    (readText after).map fun (text, c) => (.str text, c)
  else c.failAhead .expectedValue

/-- Reads a value in which lists and objects nest at most `depth` deep. -/
def readValue : Nat → Cursor → Reading Json
  | depth, c =>
    let c := c.skipBlank
    match c.rest with
    | [] => c.failAhead .endInValue
    | b :: rest =>
      if b = 91 ∨ b = 123 then
        match depth with
        | 0 => c.failAhead .tooDeep
        | depth + 1 =>
          let inner : Cursor := ⟨c.offset + 1, rest⟩
          if b = 91 then
            (readItems (readValue depth) c.rest true [] inner).map
              fun (items, c) => (.arr items, c)
          else
            (readFields (readValue depth) c.rest true [] inner).map
              fun (fields, c) => (object fields, c)
      else readScalar b c

/-- The deepest nesting of lists and objects that is read. -/
def maxDepth : Nat := 127

/-- Reads one value and the white space around it. -/
def parse (bytes : Bytes) : Except SyntaxError Json :=
  let result : Except FaultAt Json := do
    let (value, c) ← readValue maxDepth ⟨0, bytes⟩
    let c := c.skipBlank
    if c.rest.isEmpty then pure value else c.failAhead .trailingCharacters
  result.mapError (·.place bytes)

end Json

end RequestDispatch
