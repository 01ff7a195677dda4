import RequestDispatch.Config.Setting
import RequestDispatch.Text.Lowercase
import RequestDispatch.Toml.Text

/-!
# Settings from environment variables

A variable whose name begins with `CONDUIT_`, in capital or small letters, sets one key: two
underscores in the rest of its name lead into a table. Its text is read as a truth value, a number,
a list, a table or a quoted text where it has that form, and stands for itself otherwise.
-/

namespace RequestDispatch

/-- The variables of an environment by name. -/
abbrev Environment := Fields String

namespace Environment

/-- Whether the character is ASCII white space. -/
def isSpace (c : Char) : Bool :=
  c == ' ' || c == '\t' || c == '\n' || c == '\r' || c.toNat == 12

/-- Whether the character ends a bare word. -/
def isMark (c : Char) : Bool := c == ',' || c == '{' || c == '}' || c == '[' || c == ']'

/-- Passes over white space. -/
def skipSpace (cs : List Char) : List Char := cs.dropWhile isSpace

/-- The number that a bare word denotes, or the word itself. -/
def bareWord (word : String) : Setting :=
  let real := if '.' ∈ word.toList then readFloat .double word else none
  match real with
  | some x => .real x
  | none =>
    match readInt word with
    | some n => if -9223372036854775808 ≤ n ∧ n ≤ 18446744073709551615 then .whole n else .text word
    | none => .text word

/-- Reads items with commas between them and perhaps one after the last, up to a closing mark. The
first number bounds the items. -/
def readItems {α : Type} (readItem : List Char → Toml.Reading α) (close : Char) :
    Nat → List α → List Char → Toml.Reading (List α)
  | 0, _, _ => none
  | rounds + 1, done, cs =>
    if cs.head? = some close then some (done.reverse, cs.tail)
    else
      match readItem cs with
      | none => none
      | some (item, rest) =>
        if rest.head? = some ',' then readItems readItem close rounds (item :: done) rest.tail
        else if rest.head? = some close then some ((item :: done).reverse, rest.tail)
        else none

/-- Reads the key of a table entry. -/
def readKey : List Char → Toml.Reading String
  | '"' :: rest => Toml.basicFrom (rest.length + 1) [] rest
  | cs =>
    let name := cs.takeWhile fun c => c.isAlphanum || c == '_' || c == '-'
    if name.isEmpty then none else some (String.ofList name, cs.drop name.length)

/-- Reads a table entry. -/
def readEntry (readItem : List Char → Toml.Reading Setting) (cs : List Char) :
    Toml.Reading (String × Setting) :=
  match readKey (skipSpace cs) with
  | none => none
  | some (key, rest) =>
    match skipSpace rest with
    | '=' :: rest => (readItem rest).map fun (value, rest) => ((key, value), rest)
    | _ => none

/-- Reads a value with white space around it, in which lists and tables nest less than `depth`
deep. -/
def readValue : Nat → List Char → Toml.Reading Setting
  | 0, _ => none
  | depth + 1, cs =>
    let read : Toml.Reading Setting :=
      match skipSpace cs with
      | 't' :: 'r' :: 'u' :: 'e' :: rest => some (.flag true, rest)
      | 'f' :: 'a' :: 'l' :: 's' :: 'e' :: rest => some (.flag false, rest)
      | '{' :: rest =>
        (readItems (readEntry (readValue depth)) '}' (rest.length + 1) [] rest).map
          fun (entries, rest) => (Setting.tableOf entries, rest)
      | '[' :: rest =>
        (readItems (readValue depth) ']' (rest.length + 1) [] rest).map
          fun (items, rest) => (.list items, rest)
      | '"' :: rest =>
        (Toml.basicFrom (rest.length + 1) [] rest).map fun (text, rest) => (.text text, rest)
      | '\'' :: c :: '\'' :: rest => some (.text c.toString, rest)
      | '\'' :: _ => none
      | cs =>
        let word := cs.takeWhile fun c => !isMark c
        some (bareWord (Text.trim (String.ofList word)), cs.drop word.length)
    read.map fun (value, rest) => (value, skipSpace rest)

/-- The setting that the text of a variable stands for. -/
def settingOf (text : String) : Setting :=
  match readValue (text.length + 1) text.toList with
  | some (value, []) => value
  | _ => .text text

/-- Two underscores written as a dot. -/
def dotted : List Char → List Char
  | '_' :: '_' :: rest => '.' :: dotted rest
  | c :: rest => c :: dotted rest
  | [] => []

/-- The keys that a variable of this name leads through, if it sets anything. Two variables have
meanings of their own: the one that names the profile and the one that names the file. -/
def keys? (name : String) : Option (List String) :=
  let lower := Text.lowerAscii (Text.trim name)
  let begin := "conduit_"
  if Text.startsWith lower begin then
    let rest := lower.toList.drop begin.length
    let keys := (Text.splitChars '.' (dotted rest)).map String.ofList
    if rest = "profile".toList ∨ rest = "config".toList ∨ "" ∈ keys then none else some keys
  else none

/-- The layer that an environment makes. -/
def layer (env : Environment) : Setting :=
  env.entries.foldl
    (fun layer (name, text) =>
      match keys? name with
      | some keys => layer.merge (Setting.nest keys (settingOf text))
      | none => layer)
    (.table [])

end Environment

end RequestDispatch
