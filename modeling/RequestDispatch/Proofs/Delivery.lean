import RequestDispatch.Proofs.Defaults
import RequestDispatch.Proofs.JsonText

/-!
# Values that reach the client

A value that the handler answers is written in the media type the client prefers, and the client can
read it back: from the text of a JSON type always, and from that of another type unless the value is
a text, which is sent as it is, or null, which is sent as nothing.
`Dispatcher.dispatch_delivers` says so of every dispatch that no response hook changes.
-/

namespace RequestDispatch

namespace MediaType

/-- A media type whose bodies are JSON. -/
def IsJson (text : String) : Prop :=
  Text.lowerAscii (essence text) = "application/json" ∨ "+json".toList <:+ (essence text).toList

theorem isJson_iff {text : String} : isJson text ↔ IsJson text := by
  rw [isJson, IsJson, Bool.or_eq_true, beq_iff_eq, Text.endsWith, List.isSuffixOf_iff_suffix]

end MediaType

/-- A body of a media type that a value is written into. -/
structure ResponseBody.Carries (body : ResponseBody) (mediaType : String) (value : Json) :
    Prop where
  json : MediaType.IsJson mediaType → body.json = .ok value
  /-- Outside JSON types a text is sent as it is. -/
  text : ¬ MediaType.IsJson mediaType → ∀ text, value = .str text →
    body.toBytes = Utf8.encode text
  null : ¬ MediaType.IsJson mediaType → value = .null → body.toBytes = []
  other : ¬ MediaType.IsJson mediaType → (∀ text, value ≠ .str text) → value ≠ .null →
    body.json = .ok value

theorem bodyText_json {mediaType : String} (h : MediaType.IsJson mediaType) (value : Json) :
    bodyText mediaType value = value.render :=
  if_pos (MediaType.isJson_iff.mpr h)

theorem bodyText_other {mediaType : String} (h : ¬ MediaType.IsJson mediaType) (value : Json) :
    bodyText mediaType value =
      match value with
      | .str text => text
      | .null => ""
      | value => value.render :=
  if_neg fun hjson => h (MediaType.isJson_iff.mp hjson)

/-- The text of a value carries it. -/
theorem bodyText_carries {value : Json} (h : value.Whole Json.maxDepth) (mediaType : String) :
    (ResponseBody.text (bodyText mediaType value)).Carries mediaType value where
  json hjson := by
    rw [bodyText_json hjson]
    exact Json.parse_render h
  text hother text hvalue := by
    rw [bodyText_other hother, hvalue]
    rfl
  null hother hvalue := by
    rw [bodyText_other hother, hvalue]
    rfl
  other hother htext hnull := by
    have hrender : bodyText mediaType value = value.render := by
      rw [bodyText_other hother]
      cases value with
      | str text => exact absurd rfl (htext text)
      | null => exact absurd rfl hnull
      | bool | int | float | arr | obj => rfl
    rw [hrender]
    exact Json.parse_render h

/-- An answer that is a value with a status. -/
inductive Output.IsValue {σ κ : Type} : Output σ κ → Status → Json → Prop where
  | bare (value : Json) : IsValue (.value value) 200 value
  | withStatus (status : Status) (value : Json) : IsValue (.withStatus status value) status value

/-- A value is written in the media type that is negotiated. -/
theorem Output.IsValue.shape {σ κ : Type} {output : Output σ κ} {status : Status}
    {value : Json} (h : output.IsValue status value) (supported : List String)
    (view : RequestView) : RequestDispatch.shape supported view output =
      pure (negotiated supported view status value) := by
  cases h with
  | bare | withStatus => rfl

namespace Dispatcher

variable {σ κ ν : Type}

/-- A sendable media type is sent. -/
theorem negotiated_of_sendable {supported : List String} {view : RequestView} {mediaType : String}
    (hnegotiate : negotiate (view.header? "accept") supported = some mediaType)
    (hsend : MediaType.IsSendable mediaType) (status : Status) (value : Json) :
    ∃ response, negotiated supported view status value = .ok response ∧
      response.status = status ∧ response.body = .text (bodyText mediaType value) ∧
      response.headers.fields.length = 1 := by
  obtain ⟨field, hfield⟩ := hsend
  let response := (Response.new status (.text (bodyText mediaType value))).setHeader
    "content-type" field
  refine ⟨response, ?_, rfl, rfl, rfl⟩
  rw [negotiated, hnegotiate]
  simp only [typedResponse, hfield]
  rfl

/-- The value that a handler answers reaches the client with its status, if no response hook changes
the response. -/
theorem dispatch_delivers (d : Dispatcher σ κ ν) (request : Request) (s : Session σ κ)
    {request' : Request} {ctx : Context σ κ ν} {output : Output σ κ} {status : Status}
    {value : Json} {mediaType : String}
    {t : Step σ κ (Request × Context σ κ ν × Except (Stop DispatchError) (Output σ κ))}
    (handles : Handles d request (d.opened s) t) (ht : t.result = (request', ctx, .ok output))
    (isValue : output.IsValue status value) (bodied : ¬ status.hasNoBody)
    (whole : value.Whole 127) (unhooked : d.responseHooks = [])
    (preferred : negotiate ((d.view request').header? "accept") d.supported = some mediaType)
    (sendable : MediaType.IsSendable mediaType) :
    ∃ reply, (d.dispatch request s).result = .ok reply ∧ reply.response.status = status ∧
      reply.response.body.Carries mediaType value := by
  obtain ⟨response, hresponse, hstatus, hbody, hfields⟩ :=
    negotiated_of_sendable preferred sendable status value
  have hpass : (d.passed request s).result.result = .ok response := by
    rw [passed, handles.pass, ht]
    simp [afterHandler, isValue.shape, hresponse, afterShaping, unhooked, polish]
  have hresponded : (d.responded request s).result = .ok response := by
    rw [responded, respond, hpass]
    rfl
  have hsettled : settled response = .ok response.setContentLength :=
    settled_of_few (hstatus ▸ bodied) (by rw [hfields]; decide)
  obtain ⟨reply, replied, hreply⟩ :=
    exists_reply (outcome_eq_ok.mpr ⟨response, hresponded, hsettled⟩)
  refine ⟨reply, replied, ?_⟩
  rw [hreply]
  refine ⟨hstatus, ?_⟩
  have hsame : response.setContentLength.body = .text (bodyText mediaType value) := hbody
  rw [hsame]
  exact bodyText_carries whole mediaType

/-- A dispatcher whose handler has a fixed answer in one media type. -/
def constantDispatcher (mediaType : String) (output : Output Unit Unit) :
    Dispatcher Unit Unit Unit :=
  new { Route.new "GET" "/" ⟨.async, fun _ => Effect.value output⟩ with
    mediaTypes := some [mediaType] }

/-- An object with the least and the greatest number and with texts that need escapes. -/
def awkwardValue : Json :=
  .obj
    [("", .arr [.int (-9223372036854775808), .int 18446744073709551615, .null, .arr []]),
      ("\"\\", .str "grüß 漢\n\u0001\u001f/"), ("é", .obj [("", .bool true)])]

theorem awkwardValue_whole : awkwardValue.Whole 127 := by
  refine .obj (by decide) (List.forall_mem_cons.mpr ⟨?_, List.forall_mem_cons.mpr ⟨?_,
    List.forall_mem_singleton.mpr ?_⟩⟩)
  · refine .arr (List.forall_mem_cons.mpr ⟨?_, List.forall_mem_cons.mpr ⟨?_,
      List.forall_mem_cons.mpr ⟨.null _, List.forall_mem_singleton.mpr ?_⟩⟩⟩)
    · exact .int _ (by decide) (by decide)
    · exact .int _ (by decide) (by decide)
    · exact .arr fun item hitem => absurd hitem List.not_mem_nil
  · exact .str _ _
  · exact .obj (by decide) (List.forall_mem_singleton.mpr (.bool _ true))

/-- The object is read back from the body of a problem report. -/
theorem awkward_value_delivered :
    let d := constantDispatcher "application/problem+json" (.withStatus 201 awkwardValue)
    ¬ Status.hasNoBody 201 ∧ awkwardValue.Whole 127 ∧ d.responseHooks = [] ∧
      MediaType.IsSendable "application/problem+json" ∧
      ∃ reply, (d.dispatch (.new "GET" "/") ⟨(), (), []⟩).result = .ok reply ∧
        reply.response.status = 201 ∧ reply.response.body.json = .ok awkwardValue := by
  intro d
  have handles : Handles d (.new "GET" "/") (d.opened ⟨(), (), []⟩) _ :=
    .intro (.intro (.intro (.done _ _ _) rfl (.done _ _ _) rfl) rfl) rfl rfl rfl
  have bodied : ¬ Status.hasNoBody 201 := by decide
  have sendable : MediaType.IsSendable "application/problem+json" := ⟨_, rfl⟩
  obtain ⟨reply, replied, hstatus, hbody⟩ := dispatch_delivers d _ _ handles rfl
    (.withStatus 201 awkwardValue) bodied awkwardValue_whole rfl rfl sendable
  have hjson : MediaType.IsJson "application/problem+json" :=
    MediaType.isJson_iff.mp (by decide)
  exact ⟨bodied, awkwardValue_whole, rfl, sendable, reply, replied, hstatus, hbody.json hjson⟩

end Dispatcher

end RequestDispatch
