import RequestDispatch.Proofs.Alike
import RequestDispatch.Proofs.Delivery
import RequestDispatch.Proofs.Preference

/-!
# Spellings of a media type

Negotiation takes two texts for one media type if they differ in letter case, blanks and parameters
at most. Whether a body is written as JSON is decided by another test, which looks at the text
before its parameters: `application/json` may stand there in letters of either case but without
blanks around the slash, and an ending `+json` in small letters only. A route that produces a type
in one spelling therefore answers like a route that produces it in another one if the test takes
both alike; if it does not, texts and nulls are written in two ways. `Dispatcher.dispatch_respelled`
compares the answers of such routes by running them side by side.
-/

namespace RequestDispatch

/-! ## Spellings of JSON -/

namespace MediaType

/-- A media type that stands for JSON: `application/json`, or a subtype that ends in `+json`. -/
def DenotesJson (media : MediaType) : Prop :=
  media = ⟨"application", "json"⟩ ∨ "+json".toList <:+ media.subtype.toList

/-- Which spellings are taken for JSON. -/
theorem isJson_iff_of_cut {text kind subtype : String}
    (h : Text.cut '/' (essence text) = some (kind, subtype)) :
    IsJson text ↔
      (Text.lowerAscii kind = "application" ∧ Text.lowerAscii subtype = "json") ∨
        "+json".toList <:+ subtype.toList := by
  have hlower := Text.cut_lowerAscii (by decide) h
  have hword : Text.lowerAscii (essence text) = "application/json" ↔
      Text.lowerAscii kind = "application" ∧ Text.lowerAscii subtype = "json" := by
    constructor
    · intro heq
      have hcut : Text.cut '/' "application/json" = some ("application", "json") := by decide
      rw [heq, hcut] at hlower
      obtain ⟨hkind, hsubtype⟩ := Prod.mk.inj (Option.some.inj hlower)
      exact ⟨hkind.symm, hsubtype.symm⟩
    · rintro ⟨hkind, hsubtype⟩
      rw [hkind, hsubtype] at hlower
      exact String.toList_inj.mp (Text.cut_eq_some.mp hlower).1
  have hending : "+json".toList <:+ (essence text).toList ↔ "+json".toList <:+ subtype.toList := by
    rw [(Text.cut_eq_some.mp h).1, Text.suffix_append_cons (by decide)]
  rw [IsJson, hword, hending]

/-- Only a type that stands for JSON is taken for JSON. -/
theorem denotesJson_of_isJson {text : String} {media : MediaType} (hread : read? text = some media)
    (h : IsJson text) : media.DenotesJson := by
  obtain ⟨kind, subtype, hcut, -, -, rfl⟩ := read?_eq_some.mp hread
  rw [Text.lowerAscii_trim, Text.lowerAscii_trim]
  rcases (isJson_iff_of_cut hcut).mp h with ⟨hkind, hsubtype⟩ | ⟨before, hbefore⟩
  · left
    rw [hkind, hsubtype]
    decide
  · right
    have hsubtype :
        (Text.lowerAscii subtype).toList = before.map Char.toLower ++ "+json".toList := by
      rw [Text.lowerAscii, String.toList_ofList, ← hbefore, List.map_append]
      congr 1
    have hsign : ¬ Text.isBlank '+' := by decide
    have htrim := Text.trimChars_append_cons hsign (before.map Char.toLower) "json".toList
    exact ⟨_, (String.toList_ofList.trans ((congrArg Text.trimChars hsubtype).trans htrim)).symm⟩

end MediaType

/-! ## Negotiation of one type -/

section Negotiation

variable {first second : String}

/-- A single type is chosen where there are no ranges or these rate it above 0. -/
theorem negotiate_singleton (accept : Option String) (text : String) :
    negotiate accept [text] =
      if rangesOf accept = [] ∨ 0 < rating (rangesOf accept) text then some text else none := by
  by_cases hnil : rangesOf accept = []
  · rw [negotiate_of_nil hnil, if_pos (.inl hnil)]
    rfl
  · rw [negotiate_of_ne_nil hnil, List.argmax_singleton, Option.filter_some]
    simp only [hnil, false_or, decide_eq_true_eq]

/-- Spellings of one type are chosen for the same headers. -/
theorem negotiate_respelled (same : MediaType.read? first = MediaType.read? second)
    (accept : Option String) :
    (negotiate accept [first] = some first ∧ negotiate accept [second] = some second) ∨
      (negotiate accept [first] = none ∧ negotiate accept [second] = none) := by
  have hrating : rating (rangesOf accept) first = rating (rangesOf accept) second := by
    rw [rating, rating, qualityOfText, qualityOfText, same]
  rw [negotiate_singleton, negotiate_singleton, hrating]
  split
  · exact .inl ⟨rfl, rfl⟩
  · exact .inr ⟨rfl, rfl⟩

end Negotiation

/-! ## Bodies -/

/-- A text or null, which only JSON types write in its JSON form. -/
def Json.IsBare (value : Json) : Prop := value = .null ∨ ∃ text, value = .str text

theorem length_le_flatMap_escapeChar (cs : List Char) :
    cs.length ≤ (cs.flatMap Json.escapeChar).length := by
  have hone (c : Char) : 1 ≤ (Json.escapeChar c).length := by
    rw [Json.escapeChar]
    split_ifs
    · decide
    · decide
    · split <;> simp
    · exact le_rfl
  induction cs with
  | nil => exact le_rfl
  | cons c cs ih =>
    have hc := hone c
    rw [List.flatMap_cons, List.length_append, List.length_cons]
    omega

/-- The JSON form of a text is longer than the text. -/
theorem render_str_ne (text : String) : (Json.str text).render ≠ text := by
  intro h
  have hlength := congrArg (fun t => t.toList.length) h
  have hescaped := length_le_flatMap_escapeChar text.toList
  simp only [Json.render, Json.chars, Json.quoteChars, String.toList_ofList, List.cons_append,
    List.length_cons, List.length_append, List.length_nil] at hlength
  omega

section Bodies

variable {first second mediaType : String} {value : Json}

/-- A value that is neither a text nor null is rendered whatever the type. -/
theorem bodyText_of_not_bare (h : ¬ value.IsBare) (mediaType : String) :
    bodyText mediaType value = value.render := by
  by_cases hjson : MediaType.IsJson mediaType
  · exact bodyText_json hjson value
  · rw [bodyText_other hjson]
    cases value with
    | null => exact absurd (.inl rfl) h
    | str text => exact absurd (.inr ⟨text, rfl⟩) h
    | bool | int | float | arr | obj => rfl

/-- Outside JSON types a text and null are not written as JSON. -/
theorem bodyText_ne_render (hother : ¬ MediaType.IsJson mediaType) (h : value.IsBare) :
    bodyText mediaType value ≠ value.render := by
  rw [bodyText_other hother]
  rcases h with rfl | ⟨text, rfl⟩
  · simp [Json.render, Json.chars]
  · exact (render_str_ne text).symm

/-- Two media types write a value alike if both are taken for JSON or neither is, and else only what
is no text and not null. -/
theorem bodyText_eq_iff :
    bodyText first value = bodyText second value ↔
      (MediaType.IsJson first ↔ MediaType.IsJson second) ∨ ¬ value.IsBare := by
  by_cases hbare : value.IsBare
  · rw [or_iff_left (not_not_intro hbare)]
    by_cases hfirst : MediaType.IsJson first
    · rw [bodyText_json hfirst, iff_true_left hfirst]
      constructor
      · intro heq
        by_contra hsecond
        exact bodyText_ne_render hsecond hbare heq.symm
      · intro hsecond
        rw [bodyText_json hsecond]
    · rw [iff_false_left hfirst]
      constructor
      · intro heq hsecond
        rw [bodyText_json hsecond] at heq
        exact bodyText_ne_render hfirst hbare heq
      · intro hsecond
        rw [bodyText_other hfirst, bodyText_other hsecond]
  · rw [bodyText_of_not_bare hbare, bodyText_of_not_bare hbare]
    exact iff_of_true rfl (.inr hbare)

end Bodies

/-! ## Runs side by side -/

section Runs

variable {σ κ α β γ δ : Type}

/-- Code that does the same to the state and gives related results. -/
def Effect.Relates (R : α → β → Prop) (e : Effect σ κ α) (e' : Effect σ κ β) : Prop :=
  ∀ around world,
    Except.LiftRel Eq R (e around world).1 (e' around world).1 ∧
      (e around world).2 = (e' around world).2

/-- Runs that leave the same session and give related results. -/
def Run.Relates (R : α → β → Prop) (m : Run σ κ α) (m' : Run σ κ β) : Prop :=
  ∀ s, R (m s).result (m' s).result ∧ (m s).session = (m' s).session

namespace Run.Relates

variable {R : α → β → Prop} {S : γ → δ → Prop}

/-- A run is related to itself. -/
theorem refl (m : Run σ κ α) : Run.Relates Eq m m := fun _ => ⟨rfl, rfl⟩

theorem pure {a : α} {b : β} (h : R a b) :
    Run.Relates R (Pure.pure a : Run σ κ α) (Pure.pure b : Run σ κ β) :=
  fun _ => ⟨h, rfl⟩

/-- Related runs followed by related runs are related. -/
theorem bind {m : Run σ κ α} {m' : Run σ κ β} {f : α → Run σ κ γ} {f' : β → Run σ κ δ}
    (first : Run.Relates R m m') (second : ∀ a b, R a b → Run.Relates S (f a) (f' b)) :
    Run.Relates S (m >>= f) (m' >>= f') := by
  intro s
  obtain ⟨hresult, hsession⟩ := first s
  rw [Run.bind_apply, Run.bind_apply, ← hsession]
  exact second _ _ hresult _

/-- After the same run, what follows is compared result by result. -/
theorem after (m : Run σ κ α) {f : α → Run σ κ γ} {f' : α → Run σ κ δ}
    (second : ∀ a, Run.Relates S (f a) (f' a)) : Run.Relates S (m >>= f) (m >>= f') :=
  (refl m).bind fun a _ h => h ▸ second a

theorem perform {event : Event} {code : Effect σ κ α} {code' : Effect σ κ β}
    (h : code.Relates R code') :
    Run.Relates (Except.LiftRel Eq R) (Run.perform event code) (Run.perform event code') := by
  intro s
  obtain ⟨hcompletion, hstate⟩ := h ⟨s.telemetry, s.queue.length⟩ s.world
  refine ⟨hcompletion, ?_⟩
  simp only [Run.perform, hstate]

end Run.Relates

/-- A result is related to itself where values are. -/
theorem Except.LiftRel.of_refl {ε : Type} {R : α → α → Prop} (h : ∀ a, R a a) (r : Except ε α) :
    Except.LiftRel Eq R r r := by
  cases r with
  | error e => exact .error rfl
  | ok a => exact .ok (h a)

/-- Containing a panic relates what was related. -/
theorem Completion.contain_relates {R : α → β → Prop} {c : Completion α} {c' : Completion β}
    (h : Except.LiftRel Eq R c c') (mode : Mode) :
    Except.LiftRel Eq R (c.contain mode) (c'.contain mode) := by
  cases h with
  | ok h => exact .ok h
  | @error failure _ h =>
    subst h
    cases failure with
    | raised e => exact .error rfl
    | panicked panic early => exact .error rfl

/-- A call that ends in a related way stops, or goes on, in a related way. -/
theorem Completion.called_relates {R : α → β → Prop} {c : Completion α} {c' : Completion β}
    (h : Except.LiftRel Eq R c c') (mode : Mode) :
    Except.LiftRel Eq R (c.called mode) (c'.called mode) := by
  cases h with
  | ok h => cases mode <;> exact .ok h
  | @error failure _ h =>
    subst h
    rcases failure with e | ⟨panic, _ | _⟩ <;> cases mode <;> exact .error rfl

end Runs

/-! ## Dispatches side by side

The two dispatchers run the same code in the same session until an answer is shaped. There
negotiation gives both a response or none, and from there on the responses are related, in whatever
way the response hooks keep.
-/

namespace Dispatcher

variable {σ κ ν : Type}

/-- The dispatcher with a route that produces one media type. -/
def producing (d : Dispatcher σ κ ν) (mediaType : String) : Dispatcher σ κ ν :=
  { d with route := { d.route with mediaTypes := some [mediaType] } }

@[simp] theorem supported_producing (d : Dispatcher σ κ ν) (mediaType : String) :
    (d.producing mediaType).supported = [mediaType] := rfl

@[simp] theorem view_producing (d : Dispatcher σ κ ν) (mediaType : String) (request : Request) :
    (d.producing mediaType).view request = d.view request := rfl

@[simp] theorem responseHooks_producing (d : Dispatcher σ κ ν) (mediaType : String) :
    (d.producing mediaType).responseHooks = d.responseHooks := rfl

/-- A relation that holds between what the two media types make of one answer, and that response
hooks keep. -/
structure Carries (d : Dispatcher σ κ ν) (first second : String) (R : Response → Response → Prop) :
    Prop where
  same : ∀ response, R response response
  typed : ∀ {status : Status} {value : Json} {r r' : Response},
    typedResponse status first (.text (bodyText first value)) = .ok r →
      typedResponse status second (.text (bodyText second value)) = .ok r' → R r r'
  hooks : ∀ hook ∈ d.responseHooks, ∀ view r r', R r r' →
    Effect.Relates R (hook.call view r) (hook.call view r')

section Related

variable {d : Dispatcher σ κ ν} {first second : String} {R : Response → Response → Prop}

/-- Response hooks that keep a relation keep it together. -/
theorem polish_related (position : Nat) (view : RequestView) {hooks : List (ResponseHook σ κ)}
    (keep : ∀ hook ∈ hooks, ∀ view r r', R r r' →
      Effect.Relates R (hook.call view r) (hook.call view r')) {r r' : Response} (h : R r r') :
    Run.Relates (Except.LiftRel Eq R) (polish view position hooks r)
      (polish view position hooks r') := by
  induction hooks generalizing position r r' with
  | nil => exact .pure (.ok h)
  | cons hook hooks ih =>
    obtain ⟨hhook, hhooks⟩ := List.forall_mem_cons.mp keep
    refine .bind (.perform (hhook view r r' h)) fun c c' hc => ?_
    rcases (Completion.called_relates hc hook.mode).exists with
      ⟨e, _, he, he', rfl⟩ | ⟨r, r', hr, hr', h⟩
    · simp only [he, he']
      exact .pure (.error rfl)
    · simp only [hr, hr']
      exact ih (position + 1) hhooks h

variable (carries : d.Carries first second R)
  (same : MediaType.read? first = MediaType.read? second)
  (sendable : MediaType.IsSendable first) (sendable' : MediaType.IsSendable second)

include carries same sendable sendable'

/-- A value is written as related responses for one type or another. -/
theorem negotiated_related (view : RequestView) (status : Status) (value : Json) :
    Except.LiftRel (Eq (α := DispatchError)) R (negotiated [first] view status value)
      (negotiated [second] view status value) := by
  rcases negotiate_respelled same (view.header? "accept") with ⟨hfirst, hsecond⟩ | ⟨hfirst, hsecond⟩
  · obtain ⟨r, hr, -⟩ := negotiated_of_sendable hfirst sendable status value
    obtain ⟨r', hr', -⟩ := negotiated_of_sendable hsecond sendable' status value
    rw [hr, hr']
    rw [negotiated, hfirst] at hr
    rw [negotiated, hsecond] at hr'
    exact .ok (carries.typed hr hr')
  · rw [negotiated, negotiated, hfirst, hsecond]
    exact .ok (carries.same _)

/-- An answer is shaped into related responses for one type or another. -/
theorem shape_related (view : RequestView) (output : Output σ κ) :
    Run.Relates (Except.LiftRel Eq R) (shape [first] view output) (shape [second] view output) := by
  cases output with
  | response response => exact .pure (.ok (carries.same response))
  | stream status mediaType chunks =>
    refine .after _ fun pulled => ?_
    cases pulled.contain .async with
    | error e => exact .pure (.error rfl)
    | ok pulled => exact .pure (.of_refl carries.same _)
  | value value => exact .pure (negotiated_related carries same sendable sendable' view 200 value)
  | withStatus status value =>
    exact .pure (negotiated_related carries same sendable sendable' view status value)
  | empty => exact .pure (negotiated_related carries same sendable sendable' view 200 .null)

/-- The handler and the response hooks give related responses. -/
theorem produce_related (arguments : Arguments ν) :
    Run.Relates (Except.LiftRel Eq R) ((d.producing first).produce arguments)
      ((d.producing second).produce arguments) := by
  refine .after (Run.perform .handler (d.route.handler.call arguments)) fun completion => ?_
  show Run.Relates _ ((d.producing first).afterHandler arguments.request
    (completion.called d.route.handler.mode)) ((d.producing second).afterHandler arguments.request
      (completion.called d.route.handler.mode))
  cases completion.called d.route.handler.mode with
  | error e => exact .pure (.error rfl)
  | ok output =>
    refine .bind (shape_related carries same sendable sendable' arguments.request output) ?_
    intro r r' hr
    cases hr with
    | error h => exact .pure (.error (h ▸ rfl))
    | ok h => exact polish_related 0 arguments.request carries.hooks h

/-- The stages after the intake hooks give related responses, and leave the same to be released. -/
theorem stages_related (view : RequestView) :
    Run.Relates (fun left right => Except.LiftRel Eq R left.1 right.1 ∧ left.2 = right.2)
      ((d.producing first).stages view) ((d.producing second).stages view) := by
  refine .after (consult view 0 d.requestHooks) fun consulted => ?_
  cases consulted with
  | error failure => exact .pure ⟨.error rfl, rfl⟩
  | ok answer =>
    cases answer with
    | some response => exact .pure ⟨.ok (carries.same response), rfl⟩
    | none =>
      refine .after (resolve d.overrides d.settings.maxDependencyDepth d.route.dependencies
        (.new view)) fun resolved => ?_
      obtain ⟨e | products, ctx⟩ := resolved
      · exact .pure ⟨.error rfl, rfl⟩
      · have hparams (mediaType : String) : validate (d.producing mediaType).route.params view =
            validate d.route.params view := rfl
        simp only [hparams]
        rcases validate d.route.params view with errors | values
        · exact .pure ⟨.error rfl, rfl⟩
        · refine .bind (produce_related carries same sendable sendable'
            ⟨values, d.given products, view⟩) ?_
          exact fun _ _ h => .pure ⟨h, rfl⟩

/-- All stages together give related responses. -/
theorem pass_related (request : Request) :
    Run.Relates
      (fun left right =>
        left.request = right.request ∧ Except.LiftRel Eq R left.result right.result)
      ((d.producing first).pass request) ((d.producing second).pass request) := by
  refine .after (takeIn 0 d.intakeHooks request) fun taken => ?_
  obtain ⟨request, _ | result⟩ := taken
  · refine .bind (stages_related carries same sendable sendable' (d.view request)) ?_
    exact fun _ _ h => .pure ⟨rfl, h.1⟩
  · exact .pure ⟨rfl, .of_refl carries.same result⟩

/-- A failure is answered by related responses. -/
theorem answer_related (view : RequestView) (failure : StageFailure) :
    Run.Relates (Except.LiftRel Eq R) ((d.producing first).answer view failure)
      ((d.producing second).answer view failure) := by
  have hhandlers (mediaType : String) :
      (d.producing mediaType).errorHandlers = d.errorHandlers := rfl
  rw [answer, answer, hhandlers, hhandlers]
  cases d.errorHandlers.lookup failure.error.errorClass with
  | none => exact .pure (.of_refl carries.same _)
  | some handler =>
    refine .after _ fun completion => ?_
    rcases completion.called handler.mode with (e | panic) | output
    · exact .pure (.of_refl carries.same _)
    · exact .pure (.error rfl)
    · refine .bind (shape_related carries same sendable sendable' view output) ?_
      intro r r' hr
      cases hr with
      | error h => exact .pure (h ▸ .of_refl carries.same _)
      | ok h => exact .pure (.ok h)

/-- Passages that are related get related responses. -/
theorem respond_related {left right : Passage σ κ ν} (hrequest : left.request = right.request)
    (hresult : Except.LiftRel Eq R left.result right.result) :
    Run.Relates (Except.LiftRel Eq R) ((d.producing first).respond left)
      ((d.producing second).respond right) := by
  obtain ⟨request, result, context⟩ := left
  obtain ⟨request', result', context'⟩ := right
  obtain rfl : request = request' := hrequest
  cases hresult with
  | ok h => exact .pure (.ok h)
  | @error stop _ h =>
    subst h
    cases stop with
    | failed failure =>
      exact answer_related carries same sendable sendable' (d.view request) failure
    | unwound panic => exact .pure (.error rfl)

/-- The answers in the end are related. -/
theorem responded_related (request : Request) (s : Session σ κ) :
    Except.LiftRel Eq R ((d.producing first).responded request s).result
      ((d.producing second).responded request s).result := by
  have hpassed := pass_related carries same sendable sendable' request
  have hanswered := hpassed.bind fun _ _ h =>
    respond_related carries same sendable sendable' h.1 h.2
  exact (hanswered (d.opened s)).1

/-- Where both dispatches give a reply, their answers have been settled and are related. -/
theorem replies_related {request : Request} {s : Session σ κ} {reply reply' : Reply σ κ}
    (replied : ((d.producing first).dispatch request s).result = .ok reply)
    (replied' : ((d.producing second).dispatch request s).result = .ok reply') :
    ∃ given given', R given given' ∧ settled given = .ok reply.response ∧
      settled given' = .ok reply'.response := by
  obtain ⟨given, hgiven, hsettled⟩ := outcome_eq_ok.mp (dispatch_eq_ok.mp replied).1
  obtain ⟨given', hgiven', hsettled'⟩ := outcome_eq_ok.mp (dispatch_eq_ok.mp replied').1
  have related := responded_related carries same sendable sendable' request s
  rw [hgiven, hgiven'] at related
  cases related with
  | ok h => exact ⟨given, given', h, hsettled, hsettled'⟩

end Related

end Dispatcher

/-! ## Responses that differ in their type -/

/-- An answer in a media type, and the same with another body. -/
theorem typedResponse_eq_ok {status : Status} {mediaType : String} {body : ResponseBody}
    {r : Response} (h : typedResponse status mediaType body = .ok r) :
    r.status = status ∧ r.body = body ∧
      ∀ other, typedResponse status mediaType other = .ok { r with body := other } := by
  simp only [typedResponse] at h ⊢
  split at h
  · cases h
    exact ⟨rfl, rfl, fun _ => rfl⟩
  · cases h

/-- Two responses that differ in the media type they state at most. -/
structure Response.LikeButType (r r' : Response) : Prop where
  status : r.status = r'.status
  body : r.body = r'.body
  headers : ∀ name, ¬ Headers.SameName "content-type" name →
    r.headers.getAll name = r'.headers.getAll name

/-- A response hook that does not look at the media type of a response. -/
def ResponseHook.IgnoresType {σ κ : Type} (hook : ResponseHook σ κ) : Prop :=
  ∀ view r r', r.LikeButType r' →
    Effect.Relates Response.LikeButType (hook.call view r) (hook.call view r')

namespace Response.LikeButType

theorem refl (r : Response) : r.LikeButType r := ⟨rfl, rfl, fun _ _ => rfl⟩

/-- Answers in two media types with one body. -/
theorem of_typed {status : Status} {first second : String} {body : ResponseBody} {r r' : Response}
    (h : typedResponse status first body = .ok r) (h' : typedResponse status second body = .ok r') :
    r.LikeButType r' := by
  rw [typedResponse] at h h'
  split at h <;> cases h
  split at h' <;> cases h'
  refine ⟨rfl, rfl, fun name hother => ?_⟩
  rw [Response.setHeader, Response.setHeader, Headers.getAll_set, Headers.getAll_set,
    if_neg hother, if_neg hother]

/-- Responses that agree in all but their type do so with their length stated. -/
theorem settled {r r' response response' : Response} (h : r.LikeButType r')
    (hr : Dispatcher.settled r = .ok response) (hr' : Dispatcher.settled r' = .ok response') :
    response.LikeButType response' := by
  rw [Dispatcher.settled_eq_ok hr, Dispatcher.settled_eq_ok hr', ← h.status]
  split
  · exact ⟨rfl, rfl, h.headers⟩
  · refine ⟨h.status, h.body, fun name hother => ?_⟩
    rw [Response.setContentLength, Response.setContentLength, ← h.body, Response.setHeader,
      Response.setHeader, Headers.getAll_set, Headers.getAll_set, h.headers name hother]

end Response.LikeButType

/-- Two responses that differ in their type at most, or that have a text or null for a body, each in
its own media type. -/
inductive Response.Respelled (first second : String) (r r' : Response) : Prop where
  | alike (h : r.LikeButType r')
  | bare {value : Json} (bare : value.IsBare) (status : r.status = r'.status)
      (body : r.body = .text (bodyText first value))
      (body' : r'.body = .text (bodyText second value))

/-- One answer in two media types. -/
theorem Response.Respelled.of_typed {status : Status} {first second : String} {value : Json}
    {r r' response response' : Response}
    (h : typedResponse status first (.text (bodyText first value)) = .ok r)
    (h' : typedResponse status second (.text (bodyText second value)) = .ok r')
    (hr : Dispatcher.settled r = .ok response) (hr' : Dispatcher.settled r' = .ok response') :
    Response.Respelled first second response response' := by
  by_cases hbare : value.IsBare
  · obtain ⟨hstatus, hbody, hother⟩ := typedResponse_eq_ok h
    obtain ⟨hstatus', hbody', hother'⟩ := typedResponse_eq_ok h'
    rw [Dispatcher.settled_eq_ok hr, Dispatcher.settled_eq_ok hr']
    by_cases hnone : status.hasNoBody
    · -- the bodies are lost, whatever they were
      rw [if_pos (hstatus ▸ hnone), if_pos (hstatus' ▸ hnone)]
      exact .alike (.of_typed (hother .empty) (hother' .empty))
    · rw [if_neg (hstatus ▸ hnone), if_neg (hstatus' ▸ hnone)]
      exact .bare hbare (hstatus.trans hstatus'.symm) hbody hbody'
  · rw [bodyText_eq_iff.mpr (.inr hbare)] at h
    exact .alike ((Response.LikeButType.of_typed h h').settled hr hr')

/-! ## Answers in two spellings -/

/-- An answer that is written in the media type that is negotiated. -/
inductive Output.Writes {σ κ : Type} : Output σ κ → Status → Json → Prop where
  | value {output : Output σ κ} {status : Status} {value : Json}
      (isValue : output.IsValue status value) : Writes output status value
  | empty : Writes .empty 200 .null

/-- Answers that write a value are shaped into it. -/
theorem Output.Writes.shape {σ κ : Type} {output : Output σ κ} {status : Status} {value : Json}
    (h : output.Writes status value) (supported : List String) (view : RequestView) :
    RequestDispatch.shape supported view output =
      pure (negotiated supported view status value) := by
  cases h with
  | value isValue => exact isValue.shape supported view
  | empty => rfl

namespace Dispatcher

variable {σ κ ν : Type}

/-- The handler answers a value that the caller accepts in a media type, with a status that has a
body. -/
inductive Yields (d : Dispatcher σ κ ν) (mediaType : String) (request : Request) (s : Session σ κ) :
    Status → Json → Prop where
  | intro {request' : Request} {ctx : Context σ κ ν} {output : Output σ κ} {status : Status}
      {value : Json}
      {t : Step σ κ (Request × Context σ κ ν × Except (Stop DispatchError) (Output σ κ))}
      (handles : Handles d request (d.opened s) t) (ht : t.result = (request', ctx, .ok output))
      (writes : output.Writes status value)
      (accepted : negotiate ((d.view request').header? "accept") [mediaType] = some mediaType)
      (bodied : ¬ status.hasNoBody) : Yields d mediaType request s status value

/-- A type in another spelling yields the same value. -/
theorem Yields.respelled {d : Dispatcher σ κ ν} {first second : String} {request : Request}
    {s : Session σ κ} {status : Status} {value : Json}
    (same : MediaType.read? first = MediaType.read? second)
    (h : d.Yields first request s status value) : d.Yields second request s status value := by
  obtain ⟨handles, ht, writes, accepted, bodied⟩ := h
  rcases negotiate_respelled same ((d.view _).header? "accept") with ⟨-, haccepted⟩ | ⟨hrefused, -⟩
  · exact .intro handles ht writes haccepted bodied
  · cases accepted.symm.trans hrefused

/-- The media types of the route are not looked at before the handler's answer is there. -/
theorem Handles.producing {d : Dispatcher σ κ ν} {request : Request} {s : Session σ κ}
    {t : Step σ κ (Request × Context σ κ ν × Except (Stop DispatchError) (Output σ κ))}
    (h : Handles d request s t) (mediaType : String) :
    Handles (d.producing mediaType) request s t := by
  obtain ⟨⟨⟨intake, htaken, consult, hconsulted⟩, hresolved⟩, ht, valid, hperformed⟩ := h
  exact .intro (.intro (.intro intake htaken consult hconsulted) hresolved) ht valid hperformed

/-- The value is the body of the response. -/
theorem Yields.body {d : Dispatcher σ κ ν} {mediaType : String} {request : Request}
    {s : Session σ κ} {status : Status} {value : Json}
    (h : d.Yields mediaType request s status value) (sendable : MediaType.IsSendable mediaType)
    (unhooked : d.responseHooks = []) {reply : Reply σ κ}
    (replied : ((d.producing mediaType).dispatch request s).result = .ok reply) :
    reply.response.body = .text (bodyText mediaType value) := by
  obtain ⟨handles, ht, writes, accepted, bodied⟩ := h
  obtain ⟨response, hresponse, hstatus, hbody, -⟩ :=
    negotiated_of_sendable accepted sendable status value
  have hpass : ((d.producing mediaType).passed request s).result.result = .ok response := by
    have hpassed := (handles.producing mediaType).pass
    rw [ht] at hpassed
    refine hpassed.trans ?_
    simp [afterHandler, writes.shape, hresponse, afterShaping, unhooked, polish]
  have hresponded : ((d.producing mediaType).responded request s).result = .ok response := by
    rw [responded, respond, hpass]
    rfl
  obtain ⟨given, hgiven, hsettled⟩ := outcome_eq_ok.mp (dispatch_eq_ok.mp replied).1
  obtain rfl := Except.ok.inj (hresponded.symm.trans hgiven)
  rw [settled_eq_ok hsettled, if_neg (hstatus ▸ bodied)]
  exact hbody

/-- What the spelling of a media type changes in the answers of a dispatcher whose route produces it
in a first spelling and in a second one, whenever both dispatches give a reply. -/
structure Respelled (d : Dispatcher σ κ ν) (first second : String) : Prop where
  /-- Nothing but the type itself, if both spellings or neither are taken for JSON. -/
  agreeing : (MediaType.IsJson first ↔ MediaType.IsJson second) →
    (∀ hook ∈ d.responseHooks, hook.IgnoresType) → ∀ request s reply reply',
      ((d.producing first).dispatch request s).result = .ok reply →
      ((d.producing second).dispatch request s).result = .ok reply' →
        reply.response.LikeButType reply'.response
  /-- Else a text or null is written in two ways, and all other answers are alike. -/
  disagreeing : d.responseHooks = [] → ∀ request s reply reply',
    ((d.producing first).dispatch request s).result = .ok reply →
    ((d.producing second).dispatch request s).result = .ok reply' →
      Response.Respelled first second reply.response reply'.response
  /-- A value that is accepted has the same body in these cases only. -/
  written : d.responseHooks = [] → ∀ request s status value, d.Yields first request s status value →
    ∀ reply reply', ((d.producing first).dispatch request s).result = .ok reply →
    ((d.producing second).dispatch request s).result = .ok reply' →
      (reply.response.body = reply'.response.body ↔
        (MediaType.IsJson first ↔ MediaType.IsJson second) ∨ ¬ value.IsBare)
  /-- `application/json` is taken for JSON in letters of either case if there are no blanks around
  the slash, and an ending `+json` in small letters. -/
  taken : ∀ text ∈ [first, second], ∀ kind subtype,
    Text.cut '/' (MediaType.essence text) = some (kind, subtype) →
      (MediaType.IsJson text ↔
        (Text.lowerAscii kind = "application" ∧ Text.lowerAscii subtype = "json") ∨
          "+json".toList <:+ subtype.toList)
  /-- What is taken for JSON stands for JSON. -/
  denoted : ∀ text ∈ [first, second], ∀ media, MediaType.read? text = some media →
    MediaType.IsJson text → media.DenotesJson

/-- Routes that produce a media type in two spellings answer alike up to the type they state, unless
one spelling alone is taken for JSON and the body is a text or null. -/
theorem dispatch_respelled (d : Dispatcher σ κ ν) {first second : String}
    (same : MediaType.read? first = MediaType.read? second)
    (sendable : MediaType.IsSendable first) (sendable' : MediaType.IsSendable second) :
    d.Respelled first second where
  agreeing := by
    intro agree ignore request s reply reply' replied replied'
    -- types that agree in being JSON or not write the same body
    have carries : d.Carries first second Response.LikeButType :=
      { same := Response.LikeButType.refl
        typed := by
          intro status value r r' hr hr'
          rw [bodyText_eq_iff.mpr (.inl agree)] at hr
          exact .of_typed hr hr'
        hooks := ignore }
    obtain ⟨given, given', related, hsettled, hsettled'⟩ :=
      replies_related carries same sendable sendable' replied replied'
    exact related.settled hsettled hsettled'
  disagreeing := by
    intro unhooked request s reply reply' replied replied'
    -- else the bodies may differ, and the relation says no more than the claim itself
    have carries : d.Carries first second fun r r' => ∀ response response',
        settled r = .ok response → settled r' = .ok response' →
          Response.Respelled first second response response' :=
      { same := fun r response response' hr hr' => by
          obtain rfl := Except.ok.inj (hr.symm.trans hr')
          exact .alike (.refl _)
        typed := fun h h' _ _ => .of_typed h h'
        hooks := by simp [unhooked] }
    obtain ⟨given, given', related, hsettled, hsettled'⟩ :=
      replies_related carries same sendable sendable' replied replied'
    exact related _ _ hsettled hsettled'
  written := by
    intro unhooked request s status value yields reply reply' replied replied'
    rw [yields.body sendable unhooked replied,
      (yields.respelled same).body sendable' unhooked replied', ResponseBody.text.injEq]
    exact bodyText_eq_iff
  taken := fun _ _ _ _ hcut => MediaType.isJson_iff_of_cut hcut
  denoted := fun _ _ _ hread hjson => MediaType.denotesJson_of_isJson hread hjson

/-- A dispatcher whose handler answers a text. -/
def noteDispatcher : Dispatcher Unit Unit Unit :=
  constantDispatcher "text/plain" (.value (.str "lost"))

/-- The body in which the text is sent. -/
def noteBody (mediaType : String) : Except Panic ResponseBody :=
  ((noteDispatcher.producing mediaType).dispatch (.new "GET" "/") ⟨(), (), []⟩).result.map
    fun reply => reply.response.body

/-- Capital letters and a parameter make no difference to `application/json`. -/
theorem json_respelled :
    MediaType.read? "application/json" = MediaType.read? "Application/JSON; charset=utf-8" ∧
      MediaType.IsSendable "application/json" ∧
      MediaType.IsSendable "Application/JSON; charset=utf-8" ∧
      noteDispatcher.Respelled "application/json" "Application/JSON; charset=utf-8" ∧
      noteBody "application/json" = .ok (.text "\"lost\"") ∧
      noteBody "Application/JSON; charset=utf-8" = .ok (.text "\"lost\"") := by
  have same : MediaType.read? "application/json" =
      MediaType.read? "Application/JSON; charset=utf-8" := by decide +kernel
  have sendable : MediaType.IsSendable "application/json" := ⟨_, rfl⟩
  have sendable' : MediaType.IsSendable "Application/JSON; charset=utf-8" := ⟨_, rfl⟩
  exact ⟨same, sendable, sendable', dispatch_respelled noteDispatcher same sendable sendable',
    by decide +kernel, by decide +kernel⟩

/-- An ending `+json` in capital letters is the same type, but the text is not written as JSON. -/
theorem note_unquoted_in_capitals :
    MediaType.read? "application/problem+json" = MediaType.read? "application/problem+JSON" ∧
      MediaType.IsSendable "application/problem+json" ∧
      MediaType.IsSendable "application/problem+JSON" ∧
      noteBody "application/problem+json" = .ok (.text "\"lost\"") ∧
      noteBody "application/problem+JSON" = .ok (.text "lost") :=
  ⟨by decide +kernel, ⟨_, rfl⟩, ⟨_, rfl⟩, by decide +kernel, by decide +kernel⟩

end Dispatcher

/-- Blanks around the slash do the same to `application/json`. -/
example : MediaType.read? "application / json" = MediaType.read? "application/json" ∧
    bodyText "application / json" (.str "lost") = "lost" := by decide +kernel

end RequestDispatch
