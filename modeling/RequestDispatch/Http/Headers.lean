import RequestDispatch.Mode
import RequestDispatch.Text.Basic
import RequestDispatch.Text.Utf8

/-!
# Header fields

A header map is the list of its fields in order; a name may stand several times. Names are kept in
small letters, so looking one up ignores letter case. A map has room for a number of names only, and
a field that is added to a full map panics. The names are taken to be hashed evenly; where they are
not, a map may be full before.
-/

namespace RequestDispatch

/-- Whether a header value may hold the octet: no control character except the tab. -/
def isHeaderOctet (b : UInt8) : Bool := b == 9 || (32 ≤ b && b != 127)

/-- The octets of a text as a header value, if they are a valid one. -/
def headerValue? (text : String) : Option Bytes :=
  let bytes := Utf8.encode text
  if bytes.all isHeaderOctet then some bytes else none

/-- The text of a header value made of visible ASCII characters, spaces and tabs alone. -/
def visibleText? (value : Bytes) : Option String :=
  if value.all fun b => b == 9 || (32 ≤ b && b < 127) then
    some (String.ofList (value.map fun b => Char.ofNat b.toNat))
  else none

/-- The header fields of a message in order. -/
structure Headers where
  fields : List (String × Bytes)
  deriving DecidableEq, Repr

namespace Headers

/-- No fields. -/
def empty : Headers := ⟨[]⟩

/-- All values of a name, in order. -/
def getAll (h : Headers) (name : String) : List Bytes :=
  let name := Text.lowerAscii name
  (h.fields.filter fun (n, _) => n == name).map (·.2)

/-- The first value of a name. -/
def first? (h : Headers) (name : String) : Option Bytes := (h.getAll name).head?

/-- The first value of a name as text, if it is visible ASCII. -/
def text? (h : Headers) (name : String) : Option String := (h.first? name).bind visibleText?

/-- Adds a value after those the name already has. -/
def append (h : Headers) (name : String) (value : Bytes) : Headers :=
  ⟨h.fields ++ [(Text.lowerAscii name, value)]⟩

/-- Takes every value of a name away. -/
def remove (h : Headers) (name : String) : Headers :=
  let name := Text.lowerAscii name
  ⟨h.fields.filter fun (n, _) => n != name⟩

/-- Gives a name this value alone. -/
def set (h : Headers) (name : String) (value : Bytes) : Headers := (h.remove name).append name value

/-- Adds all fields of another map after these, as if there were room. -/
def appendAll (h other : Headers) : Headers :=
  ⟨h.fields ++ other.fields.map fun (name, value) => (Text.lowerAscii name, value)⟩

/-- The number of names that a map has room for. -/
def room : Nat := 24576

/-- The number of distinct names. -/
def nameCount (h : Headers) : Nat := (h.fields.map (·.1)).mergeSort.eraseReps.length

/-- Whether the map is full. -/
def isFull (h : Headers) : Bool := room ≤ h.fields.length && room ≤ h.nameCount

/-- The panic of adding a field to a full map. -/
def overflow : Panic := .message "size overflows MAX_SIZE: MaxSizeReached \x7b _priv: () \x7d"

/-- Adds all fields of another map after these, one after another. There is room for each of them if
there is room for the last one. -/
def extend (h other : Headers) : Except Panic Headers :=
  if !other.fields.isEmpty && (h.appendAll ⟨other.fields.dropLast⟩).isFull then .error overflow
  else .ok (h.appendAll other)

/-- Puts a field after those whose names are not greater. -/
def insertByName (field : String × Bytes) : List (String × Bytes) → List (String × Bytes)
  | [] => [field]
  | f :: rest => if field.1 < f.1 then field :: f :: rest else f :: insertByName field rest

/-- The fields in ascending order of their names; the values of one name keep their order. -/
def byName (h : Headers) : List (String × Bytes) :=
  h.fields.foldl (fun done field => insertByName field done) []

end Headers

end RequestDispatch
