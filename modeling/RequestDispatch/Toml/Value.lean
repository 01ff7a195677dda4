import RequestDispatch.Toml.Number

/-!
# TOML keys and values

Keys are bare or quoted, and several of them joined by dots lead through tables. Values are strings,
numbers, dates, truth values, lists and inline tables. Lists and inline tables nest to a bounded
depth.
-/

namespace RequestDispatch

namespace Toml

/-- Whether the character may stand in a bare key. -/
def isBare (c : Char) : Bool := c.isAlphanum || c == '_' || c == '-'

/-- Reads one key. -/
def readKey (cs : List Char) : Reading String :=
  match cs with
  | '"' :: _ => shortString cs
  | '\'' :: _ => shortString cs
  | cs =>
    let name := cs.takeWhile isBare
    if name.isEmpty then none else some (String.ofList name, cs.drop name.length)

/-- Reads keys joined by dots, at most `limit` of them. -/
def readKeysUpTo : Nat → List Char → Reading (List String)
  | 0, _ => none
  | limit + 1, cs =>
    match readKey (skipSpaces cs) with
    | none => none
    | some (key, rest) =>
      match skipSpaces rest with
      | '.' :: rest => (readKeysUpTo limit rest).map fun (keys, rest) => (key :: keys, rest)
      | rest => some ([key], rest)

/-- Reads keys joined by dots. -/
def readKeys (cs : List Char) : Reading (List String) := readKeysUpTo (cs.length + 1) cs

/-- A table under construction: what is at a key, and whether dotted keys made it. -/
inductive Slot where
  /-- A value that is complete. -/
  | value (setting : Setting)
  /-- A table that dotted keys opened and may still extend. -/
  | dotted (entries : List (String × Slot))

/-- Puts a value at the end of dotted keys, unless something is in its way. -/
def insertSlot : List String → Setting → List (String × Slot) → Option (List (String × Slot))
  | [], _, _ => none
  | [key], value, entries =>
    match Entries.get? entries key with
    | some _ => none
    | none => some (Entries.set key (.value value) entries)
  | key :: keys, value, entries =>
    match Entries.get? entries key with
    | some (.value _) => none
    | some (.dotted inner) =>
      (insertSlot keys value inner).map fun inner => Entries.set key (.dotted inner) entries
    | none => (insertSlot keys value []).map fun inner => Entries.set key (.dotted inner) entries

mutual

/-- The finished value of a slot. -/
def Slot.setting : Slot → Setting
  | .value setting => setting
  | .dotted entries => .table (Slot.settings entries)

/-- The finished values of slots. -/
def Slot.settings : List (String × Slot) → List (String × Setting)
  | [] => []
  | (key, slot) :: rest => (key, slot.setting) :: Slot.settings rest

end

/-- Reads the items of a list after its opening bracket or after a comma. -/
def readItems (readItem : List Char → Reading Setting) :
    Nat → List Setting → List Char → Reading (List Setting)
  | 0, _, _ => none
  | rounds + 1, done, cs =>
    match skipLines cs with
    | ']' :: rest => some (done.reverse, rest)
    | cs =>
      match readItem cs with
      | none => none
      | some (item, rest) =>
        match skipLines rest with
        | ',' :: rest => readItems readItem rounds (item :: done) rest
        | ']' :: rest => some ((item :: done).reverse, rest)
        | _ => none

/-- Reads the entries of an inline table after its opening brace or after a comma. -/
def readEntries (readItem : List Char → Reading Setting) :
    Nat → List (String × Slot) → List Char → Reading (List (String × Slot))
  | 0, _, _ => none
  | rounds + 1, done, cs =>
    match readKeys cs with
    | some (keys, '=' :: rest) =>
      match readItem (skipSpaces rest) with
      | none => none
      | some (value, rest) =>
        match insertSlot keys value done, skipSpaces rest with
        | some done, ',' :: rest => readEntries readItem rounds done rest
        | some done, '}' :: rest => some (done, rest)
        | _, _ => none
    | _ => none

/-- Reads a value in which lists and inline tables nest less than `depth` deep. -/
def readValue : Nat → List Char → Reading Setting
  | 0, _ => none
  | depth + 1, cs =>
    match cs with
    | '[' :: rest =>
      (readItems (readValue depth) (rest.length + 1) [] rest).map
        fun (items, rest) => (.list items, rest)
    | '{' :: rest =>
      match skipSpaces rest with
      | '}' :: rest => some (.table [], rest)
      | cs =>
        (readEntries (readValue depth) (rest.length + 1) [] cs).map
          fun (entries, rest) => (.table (Slot.settings entries), rest)
    | '"' :: _ => (readString cs).map fun (text, rest) => (.text text, rest)
    | '\'' :: _ => (readString cs).map fun (text, rest) => (.text text, rest)
    | cs => readWord cs

/-- The deepest nesting of lists and inline tables that is read. -/
def maxDepth : Nat := 80

end Toml

end RequestDispatch
