import RequestDispatch.Http.Request
import RequestDispatch.Http.Response
import RequestDispatch.Json.Access

/-!
# Messages as JSON

Requests and responses in JSON form, for tools that record them or play them back. Octets are a
string if they are UTF-8 text, and else an object that holds their hexadecimal digits. Fields of a
request that are left out are empty.
-/

namespace RequestDispatch

namespace Json

/-- The octets that pairs of hexadecimal digits denote. -/
def octetsOfHex : List UInt8 → Bytes
  | a :: b :: rest =>
    UInt8.ofNat (((hexValue? a).getD 0) * 16 + (hexValue? b).getD 0) :: octetsOfHex rest
  | _ => []

/-- The octets that a JSON value holds. -/
def octets : Json → Bytes
  | .str s => Utf8.encode s
  | value => octetsOfHex (Utf8.encode (value.field "hex").text)

/-- Octets as a JSON value. -/
def ofOctets (data : Bytes) : Json :=
  match Utf8.decode? data with
  | some s => .str s
  | none =>
    let digits := data.flatMap fun b => [hexDigit (b.toNat / 16), hexDigit (b.toNat % 16)]
    .object [("hex", .str (String.ofList digits))]

end Json

/-- The header fields that pairs of a name and a value denote. -/
def Headers.ofJson (value : Json) : Headers :=
  ⟨value.items.filterMap fun pair =>
    match pair with
    | .arr [name, value] => some (Text.lowerAscii name.text, value.octets)
    | _ => none⟩

/-- Header fields as pairs of a name and a value, in ascending order of the names. -/
def Headers.toJson (h : Headers) : Json :=
  .arr (h.byName.map fun (name, value) => .arr [.str name, .ofOctets value])

/-- The request that a JSON value denotes. It has no flag for cancelling it. -/
def Request.ofJson (value : Json) : Request :=
  let text := fun (key other : String) => ((value.field key).present?.map Json.text).getD other
  { method := text "method" "GET"
    path := text "path" "/"
    headers := .ofJson (value.field "headers")
    pathValues := (value.field "path_values").texts
    query := (value.field "query").octets
    body := (value.field "body").octets
    cancellation := none }

/-- A body as JSON. -/
def ResponseBody.toJson : ResponseBody → Json
  | .empty => .object [("kind", .str "empty")]
  | .text t => .object [("kind", .str "text"), ("text", .str t)]
  | .binary data => .object [("kind", .str "binary"), ("data", .ofOctets data)]
  | .chunks pieces => .object [("kind", .str "chunks"), ("chunks", .arr (pieces.map .ofOctets))]

/-- A response as JSON. -/
def Response.toJson (r : Response) : Json :=
  .object [("status", .int r.status), ("headers", r.headers.toJson), ("body", r.body.toJson)]

/-- The field error that a JSON value denotes. -/
def FieldError.ofJson (value : Json) : FieldError :=
  let step : Json → LocItem
    | .str name => .key name
    | value => .index value.nat
  ⟨(value.field "loc").items.map step, (value.field "type").text, (value.field "msg").text,
    value.field "input"⟩

/-- The error with a status that a JSON value denotes. -/
def HttpError.ofJson (value : Json) : HttpError :=
  let status := (value.field "status").nat
  let base : HttpError :=
    match value.get? "detail" with
    | some detail => ⟨status, detail, .empty⟩
    | none => .ofStatus status
  { base with headers := .ofJson (value.field "headers") }

end RequestDispatch
