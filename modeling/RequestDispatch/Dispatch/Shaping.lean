import RequestDispatch.Http.Negotiation
import RequestDispatch.Journal
import RequestDispatch.Route.Arguments

/-!
# Shaping answers into responses

What a handler answers becomes a response: a response stays as it is, a stream is pulled to its end,
and a value is written in the supported media type that the caller prefers.
-/

namespace RequestDispatch

/-- The text of a value in a media type: JSON, or outside JSON types a text as itself and nothing
for null. -/
def bodyText (mediaType : String) (value : Json) : String :=
  if MediaType.isJson mediaType then value.render
  else
    match value with
    | .str text => text
    | .null => ""
    | value => value.render

/-- A response of a media type. -/
def typedResponse (status : Status) (mediaType : String) (body : ResponseBody) :
    Except DispatchError Response :=
  match headerValue? (MediaType.contentType mediaType) with
  | some value => .ok ((Response.new status body).setHeader "content-type" value)
  | none => .error (.internal (.invalidMediaType mediaType))

/-- A value in the media type that the caller prefers, or the answer that none is acceptable. -/
def negotiated (supported : List String) (view : RequestView) (status : Status) (value : Json) :
    Except DispatchError Response :=
  match negotiate (view.header? "accept") supported with
  | none => .ok (.ofStatus 406)
  | some mediaType => typedResponse status mediaType (.text (bodyText mediaType value))

/-- Pulls the chunks of a stream in order, numbered from a position on. The first failure
ends it. -/
def pullFrom {σ κ : Type} : Nat → List (Effect σ κ Bytes) → Run σ κ (Completion (List Bytes))
  | _, [] => pure (.ok [])
  | position, chunk :: chunks => do
    match ← Run.perform (.chunkPulled position) chunk with
    | .error failure => return .error failure
    | .ok bytes => return (← pullFrom (position + 1) chunks).map (bytes :: ·)

/-- The response for an answer. -/
def shape {σ κ : Type} (supported : List String) (view : RequestView) :
    Output σ κ → Run σ κ (Except DispatchError Response)
  | .response response => pure (.ok response)
  | .stream status mediaType chunks => do
    match (← pullFrom 0 chunks).contain .async with
    | .error e => return .error e
    | .ok pulled => return typedResponse status mediaType (.chunks pulled)
  | .value value => pure (negotiated supported view 200 value)
  | .withStatus status value => pure (negotiated supported view status value)
  | .empty => pure (negotiated supported view 200 .null)

end RequestDispatch
