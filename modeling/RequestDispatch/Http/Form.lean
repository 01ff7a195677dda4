import RequestDispatch.Text.Utf8
import RequestDispatch.Json.Parser

/-!
# Form encoding

The octets of a query string as pairs of texts: pairs stand between ampersands, empty ones are
passed over, the name ends at the first equals sign, a plus is a space and `%` with two hexadecimal
digits is an octet. What is not UTF-8 is read with replacements.
-/

namespace RequestDispatch

namespace Form

/-- Octets with percent escapes decoded; a percent sign without two digits stays. -/
def percentDecode : Bytes → Bytes
  | [] => []
  | [b] => [b]
  | [b, c] => [b, c]
  | b :: c :: d :: rest =>
    if b = 37 then
      match Json.hexValue? c, Json.hexValue? d with
      | some high, some low => UInt8.ofNat (high * 16 + low) :: percentDecode rest
      | _, _ => b :: percentDecode (c :: d :: rest)
    else b :: percentDecode (c :: d :: rest)

/-- The text of an encoded name or value. -/
def decodeText (bytes : Bytes) : String :=
  Utf8.decodeLossy (percentDecode (bytes.map fun b => if b = 43 then 32 else b))

/-- The octets between ampersands. -/
def splitPairs : Bytes → List Bytes
  | [] => [[]]
  | b :: rest =>
    if b = 38 then [] :: splitPairs rest
    else
      match splitPairs rest with
      | [] => [[b]]
      | piece :: pieces => (b :: piece) :: pieces

/-- The pair that encoded octets denote; without an equals sign the value is empty. -/
def decodePair (bytes : Bytes) : String × String :=
  (decodeText (bytes.takeWhile (· != 61)), decodeText ((bytes.dropWhile (· != 61)).drop 1))

/-- The pairs of a query string in order. -/
def decode (bytes : Bytes) : List (String × String) :=
  ((splitPairs bytes).filter fun piece => !piece.isEmpty).map decodePair

end Form

end RequestDispatch
