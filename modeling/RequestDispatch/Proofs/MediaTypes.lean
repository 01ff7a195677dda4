import RequestDispatch.Config.Check
import RequestDispatch.Proofs.Headers
import RequestDispatch.Proofs.Text

/-!
# Media types that a configuration lists

A listed media type is read three times: the check of the configuration cuts it at its first slash
and compares the parts as they stand, negotiation leaves out what follows a semicolon and trims the
parts, and a header value has no control characters. The three agree on a type without semicolon,
blanks and control characters. `Config.check_offers` says what is left of an accepted type for the
other two readers, and what a dispatcher under the configuration answers.
-/

namespace RequestDispatch

namespace MediaType

/-! ## Reading -/

/-- Whether negotiation reads a text as a type and a subtype, neither of them the wildcard. -/
def IsConcrete (text : String) : Prop :=
  ∃ media, read? text = some media ∧ media.kind ≠ "*" ∧ media.subtype ≠ "*"

/-- Whether a text is a valid `content-type`. -/
def IsSendable (text : String) : Prop := ∃ value, headerValue? (contentType text) = some value

/-- What stands before a semicolon, by the side of the slash on which the first one is. -/
theorem cut_essence {text kind subtype : String} (h : Text.cut '/' text = some (kind, subtype)) :
    Text.cut '/' (essence text) =
      if ';' ∈ kind.toList then none
      else
        some (String.ofList (kind.toList.dropWhile Text.isBlank),
          String.ofList ((subtype.toList.takeWhile (· != ';')).rdropWhile Text.isBlank)) := by
  obtain ⟨htext, hkind⟩ := Text.cut_eq_some.mp h
  have hslash : ¬ Text.isBlank '/' := by decide
  by_cases hsemi : ';' ∈ kind.toList
  · -- the parameters begin before the slash, which goes with them
    obtain ⟨before, after, hparts, hbefore⟩ := List.eq_append_cons_of_mem hsemi
    have hgone : '/' ∉ (essence text).toList := by
      intro hmem
      rw [essence, Text.trim, String.toList_ofList, String.toList_ofList] at hmem
      have hmem := Text.mem_of_mem_trimChars hmem
      have hkept : ∀ c ∈ before, (c != ';') = true := fun c hc =>
        bne_iff_ne.mpr fun heq => hbefore (heq ▸ hc)
      rw [htext, hparts, List.append_assoc, List.cons_append, List.takeWhile_append_of_pos hkept,
        List.takeWhile_cons_of_neg (by decide), List.append_nil] at hmem
      exact hkind (hparts ▸ List.mem_append_left _ hmem)
    rw [if_pos hsemi, Text.cut, Text.cutChars_eq_none hgone]
    rfl
  · have hbefore : ∀ c ∈ kind.toList, (c != ';') = true := fun c hc =>
      bne_iff_ne.mpr fun heq => hsemi (heq ▸ hc)
    rw [if_neg hsemi, Text.cut_eq_some, essence, Text.trim]
    simp only [String.toList_ofList]
    rw [htext, List.takeWhile_append_of_pos hbefore, List.takeWhile_cons_of_pos (by decide),
      Text.trimChars_append_cons hslash]
    exact ⟨rfl, fun hmem => hkind ((List.dropWhile_suffix _).subset hmem)⟩

/-- How negotiation reads a media type: the slash must stand before any semicolon, and neither part
may be blank. -/
theorem read?_of_cut {text kind subtype : String} (h : Text.cut '/' text = some (kind, subtype)) :
    read? text =
      if ';' ∉ kind.toList ∧ Text.trim kind ≠ "" ∧ essence subtype ≠ "" then
        some ⟨Text.lowerAscii (Text.trim kind), Text.lowerAscii (essence subtype)⟩
      else none := by
  have hkind : Text.trim (String.ofList (kind.toList.dropWhile Text.isBlank)) = Text.trim kind := by
    rw [Text.trim, String.toList_ofList, Text.trimChars_dropWhile]
    rfl
  have hsubtype :
      Text.trim (String.ofList ((subtype.toList.takeWhile (· != ';')).rdropWhile Text.isBlank)) =
        essence subtype := by
    rw [Text.trim, String.toList_ofList, Text.trimChars_rdropWhile, essence, Text.trim,
      String.toList_ofList]
  rw [read?, cut_essence h]
  by_cases hsemi : ';' ∈ kind.toList
  · rw [if_pos hsemi, if_neg fun hall => hall.1 hsemi]
    rfl
  · rw [if_neg hsemi]
    simp only [Option.bind_some, hkind, hsubtype, hsemi, not_false_eq_true, true_and,
      Bool.or_eq_true, String.isEmpty_iff]
    by_cases hblank : Text.trim kind = "" ∨ essence subtype = ""
    · rw [if_pos hblank, if_neg fun hall => hblank.elim hall.1 hall.2]
    · rw [if_neg hblank, if_pos (not_or.mp hblank)]

/-- Without semicolon and blanks a subtype is its own essence. -/
theorem essence_of_forall {text : String}
    (h : ∀ c ∈ text.toList, c ≠ ';' ∧ ¬ Text.isBlank c) : essence text = text := by
  have hall : text.toList.takeWhile (· != ';') = text.toList :=
    List.takeWhile_eq_self_iff.mpr fun c hc => bne_iff_ne.mpr (h c hc).1
  rw [essence, hall, String.ofList_toList, Text.trim_of_forall fun c hc => (h c hc).2]

/-! ## Sending -/

/-- A media type is sent unless it has a control character: what may be added to it has none. -/
theorem isSendable_iff {text : String} : IsSendable text ↔ ∀ c ∈ text.toList, isHeaderChar c := by
  have hadded : ∀ c ∈ "; charset=utf-8".toList, isHeaderChar c := List.all_eq_true.mp (by decide)
  simp only [IsSendable, headerValue?_eq_some, exists_eq_left]
  rw [contentType]
  split
  · simp only [String.toList_append, List.mem_append]
    exact ⟨fun h c hc => h c (.inl hc), fun h c hc => hc.elim (h c) (hadded c)⟩
  · rfl

end MediaType

/-! ## Negotiation -/

/-- The range that a caller without preferences sends. -/
theorem parseAccept_any : parseAccept "*/*" = [⟨⟨"*", "*"⟩, MediaRange.fullQuality⟩] := by
  decide +kernel

/-- Any type has full quality for such a caller. -/
theorem qualityFor_any (media : MediaType) :
    qualityFor (parseAccept "*/*") media = MediaRange.fullQuality := by
  rw [parseAccept_any]
  rfl

/-- Nothing is better than the best type so far. -/
theorem foldl_betterType_any (best : String) (supported : List String) :
    supported.foldl (betterType (parseAccept "*/*")) (some (best, MediaRange.fullQuality)) =
      some (best, MediaRange.fullQuality) := by
  have hlt : MediaRange.fullQuality.lt MediaRange.fullQuality = false := by decide
  induction supported with
  | nil => rfl
  | cons candidate supported ih =>
    have hkept : betterType (parseAccept "*/*") (some (best, MediaRange.fullQuality)) candidate =
        some (best, MediaRange.fullQuality) := by
      rw [betterType]
      split
      · rfl
      · simp [qualityFor_any, hlt]
    rw [List.foldl_cons, hkept, ih]

/-- A caller who takes anything gets the first type that can be read. -/
theorem negotiate_any (supported : List String) :
    negotiate (some "*/*") supported =
      supported.find? fun text => (MediaType.read? text).isSome := by
  have hpositive : MediaRange.noQuality.lt MediaRange.fullQuality = true := by decide
  have hranges : negotiate (some "*/*") supported =
      (supported.foldl (betterType (parseAccept "*/*")) none).map (·.1) := by
    rw [negotiate]
    simp only [Option.map_some, Option.getD_some, parseAccept_any]
  rw [hranges]
  clear hranges
  induction supported with
  | nil => rfl
  | cons text supported ih =>
    rw [List.foldl_cons, List.find?_cons, betterType]
    cases hread : MediaType.read? text with
    | none => exact ih
    | some media => simp [qualityFor_any, hpositive, foldl_betterType_any]

/-- The better of two types is one of them. -/
theorem betterType_mem {ranges : List MediaRange} {best : Option (String × BinaryFloat)}
    {candidate : String} {chosen : String × BinaryFloat}
    (h : betterType ranges best candidate = some chosen) :
    chosen.1 = candidate ∨ best = some chosen := by
  grind [betterType]

/-- Negotiation chooses one of the supported types. -/
theorem negotiate_mem {accept : Option String} {supported : List String} {text : String}
    (h : negotiate accept supported = some text) : text ∈ supported := by
  have hfold {ranges : List MediaRange} : ∀ {types : List String}
      {best : Option (String × BinaryFloat)} {chosen : String × BinaryFloat},
      types.foldl (betterType ranges) best = some chosen →
        chosen.1 ∈ types ∨ best = some chosen := by
    intro types
    induction types with
    | nil => exact fun h => .inr h
    | cons candidate types ih =>
      intro best chosen h
      rw [List.foldl_cons] at h
      rcases ih h with hmem | hbest
      · exact .inl (List.mem_cons_of_mem _ hmem)
      · rcases betterType_mem hbest with rfl | hbest
        · exact .inl List.mem_cons_self
        · exact .inr hbest
  rw [negotiate] at h
  split at h
  · exact List.mem_of_head? h
  · obtain ⟨chosen, hchosen, rfl⟩ := Option.map_eq_some_iff.mp h
    exact (hfold hchosen).resolve_right (by simp)

/-! ## Answers in a media type -/

theorem typedResponse_eq_error {status : Status} {text : String} {body : ResponseBody}
    {e : DispatchError} :
    typedResponse status text body = .error e ↔
      ¬ MediaType.IsSendable text ∧ e = .internal (.invalidMediaType text) := by
  rw [typedResponse, MediaType.IsSendable]
  split
  · next hvalue => simp [hvalue]
  · next hvalue => simp [hvalue, eq_comm]

/-- An answer in a media type is not the bare status that says there is none. -/
theorem typedResponse_ne_ofStatus (status other : Status) (text : String) (body : ResponseBody) :
    typedResponse status text body ≠ .ok (.ofStatus other) := by
  intro h
  rw [typedResponse] at h
  split at h
  · next value _ =>
    have hvalues := congrArg (·.headers.getAll "content-type") (Except.ok.inj h)
    rw [Response.setHeader, Headers.getAll_set, if_pos (by rfl)] at hvalues
    cases hvalues
  · cases h

namespace Config

/-! ## Accepted configurations -/

/-- What the check leaves of a media type. -/
theorem mediaTypeFault?_eq_none {text : String} :
    mediaTypeFault? text = none ↔
      ∃ kind subtype, Text.cut '/' text = some (kind, subtype) ∧ Text.trim kind ≠ "" ∧
        Text.trim subtype ≠ "" ∧ '/' ∉ subtype.toList ∧ kind ≠ "*" ∧ subtype ≠ "*" := by
  rw [mediaTypeFault?]
  split
  · next hcut => simp [hcut]
  · next kind subtype hcut =>
    simp only [hcut, Option.some.injEq, Prod.mk.injEq]
    grind

/-- An accepted configuration lists media types, and none of them is at fault. -/
theorem mediaTypes_of_check {c : Config} (h : c.check = .ok ()) :
    c.dispatch.mediaTypes ≠ [] ∧ ∀ text ∈ c.dispatch.mediaTypes, mediaTypeFault? text = none := by
  have hfault : c.fault? = none := by
    rw [check] at h
    split at h
    · cases h
    · assumption
  rw [fault?, Option.or_eq_none_iff, Option.or_eq_none_iff] at hfault
  have hdispatch := hfault.2.1
  rw [Dispatch.fault?] at hdispatch
  split at hdispatch
  · cases hdispatch
  · split at hdispatch
    · cases hdispatch
    · next hsome =>
      refine ⟨fun hnil => hsome (by rw [hnil]; rfl), fun text hmem => ?_⟩
      simpa using List.findSome?_eq_none_iff.mp hdispatch text hmem

/-- How negotiation and the header take the listed media type `kind/subtype`. -/
structure Listed (text kind subtype : String) : Prop where
  cut : Text.cut '/' text = some (kind, subtype)
  /-- Negotiation reads it unless a semicolon cuts the slash or the subtype off. -/
  readable : (MediaType.read? text).isSome ↔
    ';' ∉ kind.toList ∧ MediaType.essence subtype ≠ ""
  /-- Neither part is a wildcard unless one is laid bare: by blanks around it or by a semicolon. -/
  concrete : MediaType.IsConcrete text ↔
    (';' ∉ kind.toList ∧ MediaType.essence subtype ≠ "") ∧
      Text.trim kind ≠ "*" ∧ MediaType.essence subtype ≠ "*"
  sendable : MediaType.IsSendable text ↔ ∀ c ∈ text.toList, isHeaderChar c
  /-- Without semicolon, blanks and control characters all is well. -/
  plain : (∀ c ∈ text.toList, c ≠ ';' ∧ ¬ Text.isBlank c ∧ isHeaderChar c) →
    MediaType.IsConcrete text ∧ MediaType.IsSendable text

/-- What the dispatchers under a configuration make of its media types. -/
structure Offers (c : Config) : Prop where
  listed : ∀ text ∈ c.dispatch.mediaTypes, ∃ kind subtype, Listed text kind subtype
  /-- A value is refused only in a listed type that is no header value. -/
  refused : ∀ {σ κ ν : Type} (d : Dispatcher σ κ ν) (view : RequestView) (status : Status)
    (value : Json) (e : DispatchError), d.settings = c.settings → d.route.mediaTypes = none →
      (negotiated d.supported view status value = .error e ↔
        ∃ text ∈ c.dispatch.mediaTypes,
          negotiate (view.header? "accept") c.dispatch.mediaTypes = some text ∧
            ¬ MediaType.IsSendable text ∧ e = .internal (.invalidMediaType text))
  /-- A caller who takes anything is told that there is nothing only where no listed type can be
  read. -/
  unacceptable : ∀ {σ κ ν : Type} (d : Dispatcher σ κ ν) (view : RequestView) (status : Status)
    (value : Json), d.settings = c.settings → d.route.mediaTypes = none →
      view.header? "accept" = some "*/*" →
        (negotiated d.supported view status value = .ok (.ofStatus 406) ↔
          ∀ text ∈ c.dispatch.mediaTypes, MediaType.read? text = none)

/-- A media type without fault, as the other readers take it. -/
theorem listed_of_fault? {text : String} (h : mediaTypeFault? text = none) :
    ∃ kind subtype, Listed text kind subtype := by
  obtain ⟨kind, subtype, hcut, hkind, hsubtype, -, hnamed⟩ := mediaTypeFault?_eq_none.mp h
  have hread := MediaType.read?_of_cut hcut
  -- the accepted text is readable up to a semicolon or a blank subtype
  have hreadable : (MediaType.read? text).isSome ↔
      ';' ∉ kind.toList ∧ MediaType.essence subtype ≠ "" := by
    rw [hread]
    simp [hkind]
  have hconcrete : MediaType.IsConcrete text ↔
      (';' ∉ kind.toList ∧ MediaType.essence subtype ≠ "") ∧
        Text.trim kind ≠ "*" ∧ MediaType.essence subtype ≠ "*" := by
    rw [MediaType.IsConcrete, hread]
    by_cases hreads : ';' ∉ kind.toList ∧ MediaType.essence subtype ≠ ""
    · rw [if_pos ⟨hreads.1, hkind, hreads.2⟩]
      simp [hreads, Text.lowerAscii_eq_star]
    · rw [if_neg fun hall => hreads ⟨hall.1, hall.2.2⟩]
      simp [hreads]
  refine ⟨kind, subtype, hcut, hreadable, hconcrete, MediaType.isSendable_iff, fun hplain => ?_⟩
  -- a plain text has nothing to be trimmed or cut off
  have htext := (Text.cut_eq_some.mp hcut).1
  have hleft : ∀ c ∈ kind.toList, c ≠ ';' ∧ ¬ Text.isBlank c ∧ isHeaderChar c := fun c hc =>
    hplain c (htext ▸ List.mem_append_left _ hc)
  have hright : ∀ c ∈ subtype.toList, c ≠ ';' ∧ ¬ Text.isBlank c ∧ isHeaderChar c := fun c hc =>
    hplain c (htext ▸ List.mem_append_right _ (List.mem_cons_of_mem _ hc))
  have hown : Text.trim kind = kind := Text.trim_of_forall fun c hc => (hleft c hc).2.1
  have hwhole : Text.trim subtype = subtype := Text.trim_of_forall fun c hc => (hright c hc).2.1
  have hessence : MediaType.essence subtype = subtype :=
    MediaType.essence_of_forall fun c hc => ⟨(hright c hc).1, (hright c hc).2.1⟩
  refine ⟨hconcrete.mpr ⟨⟨fun hmem => (hleft _ hmem).1 rfl, ?_⟩, ?_, ?_⟩,
    MediaType.isSendable_iff.mpr fun c hc => (hplain c hc).2.2⟩
  · rw [hessence, ← hwhole]
    exact hsubtype
  · rw [hown]
    exact hnamed.1
  · rw [hessence]
    exact hnamed.2

theorem supported_of_settings {σ κ ν : Type} {c : Config} {d : Dispatcher σ κ ν}
    (hsettings : d.settings = c.settings) (hroute : d.route.mediaTypes = none) :
    d.supported = c.dispatch.mediaTypes := by
  rw [Dispatcher.supported, hroute, hsettings]
  rfl

/-- What an accepted configuration promises of its media types. -/
theorem check_offers (c : Config) (h : c.check = .ok ()) : c.Offers where
  listed := fun text hmem => listed_of_fault? ((mediaTypes_of_check h).2 text hmem)
  refused := by
    intro σ κ ν d view status value e hsettings hroute
    rw [supported_of_settings hsettings hroute, negotiated]
    cases hchosen : negotiate (view.header? "accept") c.dispatch.mediaTypes with
    | none => simp
    | some text =>
      have hmem := negotiate_mem hchosen
      simp only [typedResponse_eq_error, Option.some.injEq]
      constructor
      · exact fun ⟨hsend, he⟩ => ⟨text, hmem, rfl, hsend, he⟩
      · rintro ⟨_, _, rfl, hsend, he⟩
        exact ⟨hsend, he⟩
  unacceptable := by
    intro σ κ ν d view status value hsettings hroute haccept
    rw [supported_of_settings hsettings hroute, negotiated, haccept, negotiate_any]
    cases hfirst : c.dispatch.mediaTypes.find? fun text => (MediaType.read? text).isSome with
    | none =>
      simpa using hfirst
    | some text =>
      have hread := List.find?_some hfirst
      have hmem := List.mem_of_find?_eq_some hfirst
      refine iff_of_false (typedResponse_ne_ofStatus _ _ _ _) fun hnone => ?_
      rw [hnone text hmem] at hread
      cases hread

/-- The configuration in force where no source says anything keeps the promise. -/
theorem standard_offers : ({} : Config).check = .ok () ∧ ({} : Config).Offers :=
  have accepted : ({} : Config).check = .ok () := by decide +kernel
  ⟨accepted, check_offers {} accepted⟩

/-- The configuration that lists these media types. -/
def listing (mediaTypes : List String) : Config := { dispatch := { mediaTypes } }

/-- Media types that are accepted and cannot be produced: one whose wildcard the check overlooks
for the blank after it, one that negotiation cannot read, so that a caller who takes anything is
told there is nothing, and one that is no header value. -/
theorem accepted_unproducible :
    ((listing ["* /plain"]).check = .ok () ∧ ¬ MediaType.IsConcrete "* /plain") ∧
      ((listing ["a;b/c"]).check = .ok () ∧ negotiate (some "*/*") ["a;b/c"] = none) ∧
      ((listing ["text/\x07bell"]).check = .ok () ∧ ¬ MediaType.IsSendable "text/\x07bell") := by
  have hblank : MediaType.read? "* /plain" = some ⟨"*", "plain"⟩ := by decide +kernel
  refine ⟨⟨by decide +kernel, ?_⟩, ⟨by decide +kernel, by decide +kernel⟩, by decide +kernel, ?_⟩
  · rintro ⟨media, hmedia, hkind, -⟩
    obtain rfl := Option.some.inj (hblank.symm.trans hmedia)
    exact hkind rfl
  · intro hsend
    have hbell := MediaType.isSendable_iff.mp hsend '\x07' (by simp)
    cases hbell

end Config

end RequestDispatch
