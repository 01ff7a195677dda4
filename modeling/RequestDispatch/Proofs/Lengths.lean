import RequestDispatch.Proofs.Bodiless
import RequestDispatch.Proofs.Numerals

/-!
# Responses that state their length

A response that may carry a body states the length of the body it is sent with, once and in decimal.
Whatever lengths the application stated before are gone, whoever stated them, and nothing else of
the answer is changed. `Dispatcher.dispatch_measures` says so of every dispatch, however it ends.
-/

namespace RequestDispatch

/-- Counting chunk by chunk counts the octets of all chunks together. -/
theorem foldl_length (pieces : List Bytes) (count : Nat) :
    pieces.foldl (fun count piece => count + piece.length) count =
      count + pieces.flatten.length := by
  induction pieces generalizing count with
  | nil => rfl
  | cons piece pieces ih =>
    rw [List.foldl_cons, ih, List.flatten_cons, List.length_append, Nat.add_assoc]

/-- The octets of a body are as many as are counted for its kind. -/
theorem ResponseBody.length_eq (body : ResponseBody) : body.length = body.toBytes.length := by
  cases body with
  | empty | text | binary => rfl
  | chunks pieces => rw [length, toBytes, foldl_length, Nat.zero_add]

namespace Response

/-- A response that states one length, the decimal number of the octets of its body. -/
def IsMeasured (r : Response) : Prop :=
  ∃ value, r.lengths = [value] ∧ IsNumeral value r.body.toBytes.length

theorem lengths_setContentLength (r : Response) :
    r.setContentLength.lengths = [Utf8.encode (toString r.body.length)] := by
  rw [lengths, setContentLength, setHeader, Headers.getAll_set, if_pos (by rfl)]

/-- Stating the length takes away what was stated before. -/
theorem isMeasured_setContentLength (r : Response) : r.setContentLength.IsMeasured := by
  refine ⟨_, r.lengths_setContentLength, ?_⟩
  have hbody : r.setContentLength.body = r.body := rfl
  rw [hbody, ← ResponseBody.length_eq]
  exact isNumeral_encode r.body.length

/-- Stating the length leaves the other headers alone. -/
theorem getAll_setContentLength (r : Response) {name : String}
    (h : ¬ Headers.SameName "content-length" name) :
    r.setContentLength.headers.getAll name = r.headers.getAll name := by
  rw [setContentLength, setHeader, Headers.getAll_set, if_neg h]

end Response

namespace Dispatcher

variable {σ κ ν : Type}

/-- How a dispatch sends an answer that may carry a body. -/
structure Measures (d : Dispatcher σ κ ν) (request : Request) (s : Session σ κ)
    (given response : Response) : Prop where
  answer : (d.responded request s).result = .ok given
  /-- The body is that of the answer. -/
  body : response.body = given.body
  /-- Its length is stated, once. -/
  measured : response.IsMeasured
  /-- All other headers are those of the answer. -/
  kept : ∀ name, ¬ Headers.SameName "content-length" name →
    response.headers.getAll name = given.headers.getAll name

/-- Every dispatch whose status may carry a body states the length of the body it returns. -/
theorem dispatch_measures (d : Dispatcher σ κ ν) (request : Request) (s : Session σ κ)
    {reply : Reply σ κ} (replied : (d.dispatch request s).result = .ok reply)
    (bodied : ¬ reply.response.status.hasNoBody) :
    ∃ given, d.Measures request s given reply.response := by
  obtain ⟨given, responded, hsettled⟩ := outcome_eq_ok.mp (dispatch_eq_ok.mp replied).1
  rw [settled_of_body hsettled bodied]
  exact ⟨given, responded, rfl, Response.isMeasured_setContentLength _,
    fun _ other => Response.getAll_setContentLength _ other⟩

/-- An answer in chunks that states two lengths, neither of them its own. -/
def staleAnswer : Response :=
  let once := (Response.new 200 (.chunks [[1, 2], [3]])).appendHeader "Content-Length"
    (Utf8.encode "7")
  once.appendHeader "content-length" (Utf8.encode "12")

/-- A dispatcher whose handler gives this answer and whose response hook gives it another body. -/
def staleDispatcher : Dispatcher Unit Unit Unit :=
  { new (.new "GET" "/" ⟨.async, fun _ => Effect.value (.response staleAnswer)⟩) with
    responseHooks := [⟨.async, fun _ response =>
      Effect.value { response with body := .text "grüß dich" }⟩] }

/-- The stale lengths are gone, and the octets of the text are counted, not its characters. -/
theorem stale_lengths_replaced :
    ∃ reply, (staleDispatcher.dispatch (.new "GET" "/") ⟨(), (), []⟩).result = .ok reply ∧
      ¬ reply.response.status.hasNoBody ∧
      (∃ given, staleDispatcher.Measures (.new "GET" "/") ⟨(), (), []⟩ given reply.response) ∧
      reply.response.lengths = [Utf8.encode "11"] := by
  refine ⟨_, rfl, ?_, dispatch_measures _ _ _ rfl ?_, ?_⟩ <;> decide

end Dispatcher

end RequestDispatch
