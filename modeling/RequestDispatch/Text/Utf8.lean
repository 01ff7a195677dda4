/-!
# UTF-8

Bytes are lists of octets. `encode` writes a text as UTF-8; `decode?` reads well-formed UTF-8 and
refuses everything else; `decodeLossy` reads any bytes, writing U+FFFD for each maximal part of a
broken sequence. The three share one reader, `units`, which cuts bytes into characters and broken
parts.
-/

namespace RequestDispatch

/-- A sequence of octets. -/
abbrev Bytes := List UInt8

namespace Utf8

/-- The octets of one character. -/
def encodeChar (c : Char) : Bytes :=
  let n := c.toNat
  if n < 0x80 then [UInt8.ofNat n]
  else if n < 0x800 then [UInt8.ofNat (0xC0 + n / 64), UInt8.ofNat (0x80 + n % 64)]
  else if n < 0x10000 then
    [UInt8.ofNat (0xE0 + n / 4096), UInt8.ofNat (0x80 + n / 64 % 64), UInt8.ofNat (0x80 + n % 64)]
  else
    [UInt8.ofNat (0xF0 + n / 262144), UInt8.ofNat (0x80 + n / 4096 % 64),
      UInt8.ofNat (0x80 + n / 64 % 64), UInt8.ofNat (0x80 + n % 64)]

/-- The octets of a text. -/
def encode (text : String) : Bytes := text.toList.flatMap encodeChar

/-- What a leading octet announces: its own payload, how many octets follow, and the range the first
of them must lie in. `none` for an octet that starts no sequence. -/
def lead (b : UInt8) : Option (Nat × Nat × Nat × Nat) :=
  let n := b.toNat
  if n < 0x80 then some (n, 0, 0x80, 0xBF)
  else if n < 0xC2 then none
  else if n < 0xE0 then some (n - 0xC0, 1, 0x80, 0xBF)
  else if n = 0xE0 then some (0, 2, 0xA0, 0xBF)
  else if n = 0xED then some (0xD, 2, 0x80, 0x9F)
  else if n < 0xF0 then some (n - 0xE0, 2, 0x80, 0xBF)
  else if n = 0xF0 then some (0, 3, 0x90, 0xBF)
  else if n < 0xF4 then some (n - 0xF0, 3, 0x80, 0xBF)
  else if n = 0xF4 then some (4, 3, 0x80, 0x8F)
  else none

/-- Reads `count` following octets, the first in `low..high` and the others in `0x80..0xBF`. The
code point is `none` when one is missing or out of range; what is left starts at the offender. -/
def follow : Nat → Nat → Nat → Nat → Bytes → Option Nat × Bytes
  | 0, _, _, acc, rest => (some acc, rest)
  | _ + 1, _, _, _, [] => (none, [])
  | count + 1, low, high, acc, b :: rest =>
    if low ≤ b.toNat ∧ b.toNat ≤ high then
      follow count 0x80 0xBF (acc * 64 + b.toNat % 64) rest
    else (none, b :: rest)

/-- The first character, or `none` for a broken part, and the octets after it. -/
def step (b : UInt8) (rest : Bytes) : Option Char × Bytes :=
  match lead b with
  | none => (none, rest)
  | some (payload, count, low, high) =>
    match follow count low high payload rest with
    | (some code, rest) => (some (Char.ofNat code), rest)
    | (none, rest) => (none, rest)

/-- The characters and broken parts of the octets, reading at most `limit` of them. -/
def unitsUpTo : Nat → Bytes → List (Option Char)
  | _, [] => []
  | 0, _ => []
  | limit + 1, b :: rest => (step b rest).1 :: unitsUpTo limit (step b rest).2

/-- The characters and broken parts of the octets. No unit is shorter than one octet, so the length
is limit enough. -/
def units (bytes : Bytes) : List (Option Char) := unitsUpTo bytes.length bytes

/-- The text of well-formed UTF-8. -/
def decode? (bytes : Bytes) : Option String :=
  ((units bytes).mapM id).map String.ofList

/-- The number of octets before the first broken part. -/
def validLength (bytes : Bytes) : Nat :=
  ((units bytes).takeWhile Option.isSome).foldl
    (fun n unit => n + ((unit.map encodeChar).getD []).length) 0

/-- The character that stands for a broken part, U+FFFD. -/
def replacement : Char := Char.ofNat 0xFFFD

/-- The text of any octets, broken parts replaced. -/
def decodeLossy (bytes : Bytes) : String :=
  String.ofList ((units bytes).map (·.getD replacement))

end Utf8

end RequestDispatch
