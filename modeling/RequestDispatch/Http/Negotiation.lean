import RequestDispatch.Text.Basic
import RequestDispatch.Number.Decimal

/-!
# Content negotiation

Which of the media types a route supports a caller prefers. An `Accept` header is a list of media
ranges with qualities between 0 and 1. The most specific range that matches a supported type gives
its quality; the type of highest quality wins, the earliest of equals.
-/

namespace RequestDispatch

/-- The type and the subtype of a media type or range, in small letters. -/
structure MediaType where
  kind : String
  subtype : String
  deriving DecidableEq, Repr

namespace MediaType

/-- What stands before the parameters of a media type, without white space around it. -/
def essence (text : String) : String :=
  Text.trim (String.ofList (text.toList.takeWhile (· != ';')))

/-- Reads `type/subtype`, parameters left out; neither part may be blank. -/
def read? (text : String) : Option MediaType :=
  (Text.cut '/' (essence text)).bind fun (kind, subtype) =>
    let kind := Text.trim kind
    let subtype := Text.trim subtype
    if kind.isEmpty || subtype.isEmpty then none
    else some ⟨Text.lowerAscii kind, Text.lowerAscii subtype⟩

/-- Whether a body of this media type is JSON: `application/json`, or an essence ending in
`+json`. -/
def isJson (text : String) : Bool :=
  Text.lowerAscii (essence text) == "application/json" || Text.endsWith (essence text) "+json"

/-- The value of the `content-type` header for a media type: textual types without a `charset`
parameter are declared to be UTF-8. -/
def contentType (text : String) : String :=
  if Text.startsWith text "text/" && !Text.contains text "charset" then text ++ "; charset=utf-8"
  else text

end MediaType

/-- A media range with the quality a caller gives it. -/
structure MediaRange where
  media : MediaType
  quality : BinaryFloat
  deriving DecidableEq, Repr

namespace MediaRange

/-- How much a range pins down: 2 for `type/subtype`, 1 for `type/*`, 0 for `*/*`. -/
def specificity (r : MediaRange) : Nat :=
  if r.media.kind = "*" then 0 else if r.media.subtype = "*" then 1 else 2

/-- Whether the range covers a media type. -/
def covers (r : MediaRange) (m : MediaType) : Bool :=
  (r.media.kind == "*" || r.media.kind == m.kind) &&
    (r.media.subtype == "*" || r.media.subtype == m.subtype)

/-- The quality of a range that states none. -/
def fullQuality : BinaryFloat := ⟨false, 8388608, -23⟩

/-- The quality of nothing. -/
def noQuality : BinaryFloat := ⟨false, 0, -149⟩

/-- Reads a quality between 0 and 1. -/
def readQuality (text : String) : Option BinaryFloat :=
  match readFloat .single (Text.trim text) with
  | some (.finite q) => if q.lt noQuality || fullQuality.lt q then none else some q
  | _ => none

/-- The quality that the parameters of a range state; the last `q` counts, and a bad one makes the
range void. -/
def qualityOf : BinaryFloat → List String → Option BinaryFloat
  | quality, [] => some quality
  | quality, param :: params =>
    match Text.cut '=' param with
    | none => qualityOf quality params
    | some (key, value) =>
      if Text.lowerAscii (Text.trim key) = "q" then
        (readQuality value).bind fun quality => qualityOf quality params
      else qualityOf quality params

/-- Reads one range of a header. -/
def read? (text : String) : Option MediaRange :=
  match Text.split ';' text with
  | [] => none
  | base :: params =>
    (MediaType.read? base).bind fun media =>
      (qualityOf fullQuality params).map fun quality => ⟨media, quality⟩

end MediaRange

/-- The ranges of an `Accept` header in order; those that cannot be read are left out. -/
def parseAccept (header : String) : List MediaRange :=
  (Text.split ',' header).filterMap MediaRange.read?

/-- The first of the most specific ranges covering a media type. -/
def decidingRange (ranges : List MediaRange) (m : MediaType) : Option MediaRange :=
  (ranges.filter (·.covers m)).foldl
    (fun chosen range =>
      match chosen with
      | some current =>
        if range.specificity ≤ current.specificity then some current else some range
      | none => some range)
    none

/-- The quality the ranges give a supported type. -/
def qualityFor (ranges : List MediaRange) (m : MediaType) : BinaryFloat :=
  ((decidingRange ranges m).map (·.quality)).getD MediaRange.noQuality

/-- The better of the best type so far and a further one: a further type must have a quality above 0
and above the best one's. -/
def betterType (ranges : List MediaRange) (best : Option (String × BinaryFloat))
    (candidate : String) : Option (String × BinaryFloat) :=
  match MediaType.read? candidate with
  | none => best
  | some m =>
    let quality := qualityFor ranges m
    if MediaRange.noQuality.lt quality then
      match best with
      | none => some (candidate, quality)
      | some (_, q) => if q.lt quality then some (candidate, quality) else best
    else best

/-- The supported media type the caller prefers. Without a header, or with none of its ranges
readable, it is the first. -/
def negotiate (accept : Option String) (supported : List String) : Option String :=
  match (accept.map parseAccept).getD [] with
  | [] => supported.head?
  | ranges => (supported.foldl (betterType ranges) none).map (·.1)

end RequestDispatch
