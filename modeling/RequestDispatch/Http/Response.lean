import RequestDispatch.Error
import RequestDispatch.Json.Parser

/-!
# Responses

A response is a status, header fields and a body that is empty, text, octets or a list of chunks.
The constructors here give the usual kinds their headers; those that take a header value from the
caller fail when it is not a valid one.
-/

namespace RequestDispatch

/-- The body of a response. -/
inductive ResponseBody where
  | empty
  | text (text : String)
  | binary (data : Bytes)
  | chunks (chunks : List Bytes)
  deriving DecidableEq, Repr

namespace ResponseBody

/-- The octets of a body. -/
def toBytes : ResponseBody → Bytes
  | .empty => []
  | .text t => Utf8.encode t
  | .binary data => data
  | .chunks pieces => pieces.flatten

/-- The number of octets of a body; those of chunks are counted chunk by chunk. -/
def length : ResponseBody → Nat
  | .empty => 0
  | .text t => (Utf8.encode t).length
  | .binary data => data.length
  | .chunks pieces => pieces.foldl (fun count piece => count + piece.length) 0

/-- The JSON value that the octets of a body are. -/
def json (body : ResponseBody) : Except Json.SyntaxError Json := Json.parse body.toBytes

end ResponseBody

/-- A response as it is sent. -/
structure Response where
  status : Status
  headers : Headers
  body : ResponseBody
  deriving DecidableEq, Repr

namespace Response

/-- A response without header fields. -/
def new (status : Status) (body : ResponseBody) : Response := ⟨status, .empty, body⟩

/-- A response without header fields and body. -/
def ofStatus (status : Status) : Response := new status .empty

/-- Gives a header this value alone. -/
def setHeader (r : Response) (name : String) (value : Bytes) : Response :=
  { r with headers := r.headers.set name value }

/-- Adds a header value. -/
def appendHeader (r : Response) (name : String) (value : Bytes) : Response :=
  { r with headers := r.headers.append name value }

/-- A JSON text with its media type. -/
def json (status : Status) (value : Json) : Response :=
  (new status (.text value.render)).setHeader "content-type" (Utf8.encode "application/json")

/-- A plain text. -/
def text (status : Status) (text : String) : Response :=
  (new status (.text text)).setHeader "content-type" (Utf8.encode "text/plain; charset=utf-8")

/-- An HTML text. -/
def html (status : Status) (text : String) : Response :=
  (new status (.text text)).setHeader "content-type" (Utf8.encode "text/html; charset=utf-8")

/-- A temporary redirect. -/
def redirect (location : String) : Except DispatchError Response :=
  match headerValue? location with
  | some value => .ok ((ofStatus 307).appendHeader "location" value)
  | none => .error (.internal (.invalidLocation location))

/-- Octets of a media type. -/
def bytes (status : Status) (mediaType : String) (data : Bytes) : Except DispatchError Response :=
  match headerValue? mediaType with
  | some value => .ok ((new status (.binary data)).appendHeader "content-type" value)
  | none => .error (.internal (.invalidMediaType mediaType))

/-- States the length of the present body. -/
def setContentLength (r : Response) : Response :=
  r.setHeader "content-length" (Utf8.encode (toString r.body.length))

/-- The text of a cookie with its attributes: an attribute without a value is a flag, and
underscores in names of attributes are dashes. -/
def cookieText (name value : String) (attributes : List (String × String)) : String :=
  let written : String × String → String := fun (key, setting) =>
    "; " ++ Text.replace '_' '-' key ++ (if setting.isEmpty then "" else "=" ++ setting)
  name ++ "=" ++ value ++ String.join (attributes.map written)

/-- Adds a cookie. -/
def setCookie (r : Response) (name value : String) (attributes : List (String × String)) :
    Except DispatchError Response :=
  match headerValue? (cookieText name value attributes) with
  | some cookie => .ok (r.appendHeader "set-cookie" cookie)
  | none => .error (.internal (.invalidCookie name))

/-- The media type that a path's extension stands for, letter case ignored. -/
def guessMediaType (path : String) : String :=
  match (FilePath.extension? path).map Text.lowerAscii with
  | some "html" | some "htm" => "text/html; charset=utf-8"
  | some "txt" => "text/plain; charset=utf-8"
  | some "css" => "text/css; charset=utf-8"
  | some "csv" => "text/csv; charset=utf-8"
  | some "js" => "text/javascript; charset=utf-8"
  | some "json" => "application/json"
  | some "pdf" => "application/pdf"
  | some "png" => "image/png"
  | some "jpg" | some "jpeg" => "image/jpeg"
  | some "gif" => "image/gif"
  | some "svg" => "image/svg+xml"
  | _ => "application/octet-stream"

/-- A file, shown in place under its own name if that name fits a header. A missing file is
a 404. -/
def file (files : FileSystem) (path : String) (mediaType : Option String) :
    Except DispatchError Response :=
  match files.read path with
  | .error .notFound => .error (.http (.ofStatus 404))
  | .error fault => .error (.internal (.unreadableFile path fault))
  | .ok data =>
    (bytes 200 (mediaType.getD (guessMediaType path)) data).map fun response =>
      let disposition :=
        (FilePath.fileName? path).bind fun name =>
          headerValue? ("inline; filename=\"" ++ name ++ "\"")
      let response :=
        match disposition with
        | some value => response.setHeader "content-disposition" value
        | none => response
      response.setContentLength

end Response

end RequestDispatch
