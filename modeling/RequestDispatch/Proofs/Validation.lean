import RequestDispatch.Proofs.Checked
import RequestDispatch.Proofs.Fields

/-!
# Validating parameters together and alone

Validating a list of parameters comes to validating each of them alone: the request is accepted if
every parameter is, the values are those that the parameters get alone, and the errors are theirs
one after the other. Only a body that is no JSON object is told once and last, for all the
parameters that are read from it. `validate_alone` says so, and how the errors of one parameter are
those of its parts in turn.
-/

namespace RequestDispatch

open Checked

/-! ## One parameter -/

namespace Param

variable (p : Param) (view : RequestView)

/-- The parameter is read with this value. -/
def Reads (value : Json) : Prop := p.read view (readBody view.request.body) = some (.ok value)

/-- The value that a parameter is read with, if it is. -/
def value? : Option Json := (p.read view (readBody view.request.body)).bind Except.toOption

/-- The errors of a parameter, none if the body it is read from is no object. -/
def ownErrors : List FieldError :=
  ((p.read view (readBody view.request.body)).map Checked.errors).getD []

variable {p view}

theorem Reads.value? {value : Json} (h : p.Reads view value) : p.value? view = some value := by
  rw [Param.value?, h]
  rfl

theorem Reads.ownErrors {value : Json} (h : p.Reads view value) : p.ownErrors view = [] := by
  rw [Param.ownErrors, h]
  rfl

/-- The texts of a parameter are brought into its shape, unless it is read from the body. -/
theorem read_texts (h : p.source ≠ .body) (body : Except FieldError Json) :
    p.read view body = some (coerceTexts p.field p.location (p.texts view)) := by
  unfold Param.read
  split
  · next hbody => exact absurd hbody h
  · rfl

/-- A parameter of the body is a field of the object that the body is. -/
theorem read_field (h : p.source = .body) (entries : List (String × Json)) :
    p.read view (.ok (.obj entries)) =
      some ((coerceField p.field [.key "body"] (.obj entries)).map (·.2)) := by
  simp only [Param.read, h]

/-- A parameter of the body is not read from anything but an object. -/
theorem read_eq_none {e : FieldError} {body : Except FieldError Json} (h : p.source = .body)
    (hbody : bodyError? body = some e) : p.read view body = none := by
  simp only [Param.read, h]
  -- the one case with a result is the one without a body error
  split
  · cases hbody
  · rfl

end Param

/-- A body without an error of its own is an object. -/
theorem eq_obj_of_bodyError? {body : Except FieldError Json} (h : bodyError? body = none) :
    ∃ entries, body = .ok (.obj entries) := by
  unfold bodyError? at h
  split at h
  · cases h
  · next value =>
    cases value with
    | obj entries => exact ⟨entries, rfl⟩
    | null | bool _ | int _ | float _ | str _ | arr _ => cases h

theorem coerceTexts_explained (field : Field) (location : List LocItem) (texts : List String) :
    Explained (coerceTexts field location texts) := by
  unfold coerceTexts
  split
  · exact absent_explained _ _ _
  · split
    · refine (Explained.collect fun result hmem => ?_).map _
      obtain ⟨i, hi, rfl⟩ := List.mem_mapIdx.mp hmem
      exact coerceText_explained _ _ _
    · exact coerceText_explained _ _ _

/-- What a parameter is read as is a value, unless there is an error to show. -/
theorem Param.read_explained {p : Param} {view : RequestView} {body : Except FieldError Json}
    {result : Checked Json} (h : p.read view body = some result) : Explained result := by
  by_cases hsource : p.source = .body
  · cases hbody : bodyError? body with
    | some e => cases (p.read_eq_none hsource hbody).symm.trans h
    | none =>
      obtain ⟨entries, rfl⟩ := eq_obj_of_bodyError? hbody
      obtain rfl := Option.some.inj ((p.read_field hsource entries).symm.trans h)
      exact (coerceField_explained _ _ _).map _
  · obtain rfl := Option.some.inj ((p.read_texts hsource body).symm.trans h)
    exact coerceTexts_explained _ _ _

/-! ## All parameters -/

section All

variable (params : List Param) (view : RequestView)

/-- The error of the body, if a parameter is read from it. -/
def bodyErrors : List FieldError :=
  if params.any fun p => p.source == .body then (bodyError? (readBody view.request.body)).toList
  else []

/-- The values of the parameters under their names, in the order of the parameters. -/
def readings : List (String × Json) :=
  params.filterMap fun p => (p.value? view).map fun value => (p.name, value)

/-- The errors of the parameters in order, then that of the body. -/
def allErrors : List FieldError :=
  params.flatMap (fun p => p.ownErrors view) ++ bodyErrors params view

/-- A validation gives the values of the parameters, unless there is an error. -/
theorem validate_eq :
    validate params view =
      if (allErrors params view).isEmpty then .ok (Fields.ofList (readings params view))
      else .error (allErrors params view) := by
  -- parameters that are not read, since the body has an error of its own, have no errors
  have herrors : (params.filterMap fun p => (p.read view (readBody view.request.body)).map
      fun result => (p.name, result)).flatMap (fun read => Checked.errors read.2) =
      params.flatMap fun p => p.ownErrors view := by
    induction params with
    | nil => rfl
    | cons p params ih =>
      rw [List.flatMap_cons, ← ih, Param.ownErrors]
      cases h : p.read view (readBody view.request.body) with
      | none => rw [List.filterMap_cons_none (by rw [h]; rfl)]; rfl
      | some result => rw [List.filterMap_cons_some (by rw [h]; rfl)]; rfl
  have hreadings : (params.filterMap fun p => (p.read view (readBody view.request.body)).map
      fun result => (p.name, result)).filterMap (fun read =>
        (Except.toOption read.2).map fun value => (read.1, value)) = readings params view := by
    rw [List.filterMap_filterMap, readings]
    congr 1
    funext p
    rw [Param.value?]
    cases p.read view (readBody view.request.body) <;> rfl
  rw [allErrors, ← herrors, ← hreadings]
  rfl

theorem errors_validate : (validate params view).errors = allErrors params view := by
  rw [validate_eq]
  split
  · next h => exact (List.isEmpty_iff.mp h).symm
  · rfl

variable {params view}

/-- The body has no error that matters where it is an object or no parameter is read from it. -/
theorem bodyErrors_eq_nil (h : (∀ p ∈ params, p.source ≠ .body) ∨
    bodyError? (readBody view.request.body) = none) : bodyErrors params view = [] := by
  unfold bodyErrors
  split
  · next hany =>
    obtain ⟨p, hp, hsource⟩ := List.any_eq_true.mp hany
    rcases h with h | h
    · exact absurd (beq_iff_eq.mp hsource) (h p hp)
    · rw [h, Option.toList_none]
  · rfl

/-- Where all parameters are read there is no error. -/
theorem errors_of_reads (h : ∀ p ∈ params, ∃ value, p.Reads view value) :
    (validate params view).errors = [] := by
  rw [errors_validate, allErrors, List.append_eq_nil_iff, List.flatMap_eq_nil_iff]
  refine ⟨fun p hp => ?_, ?_⟩
  · obtain ⟨value, hvalue⟩ := h p hp
    exact hvalue.ownErrors
  · refine bodyErrors_eq_nil ?_
    cases hbody : bodyError? (readBody view.request.body) with
    | none => exact .inr rfl
    | some e =>
      -- a parameter that is read is not one of the body, which is no object
      refine .inl fun p hp hsource => ?_
      obtain ⟨value, hvalue⟩ := h p hp
      cases (p.read_eq_none hsource hbody).symm.trans hvalue

/-- Without an error all parameters are read. -/
theorem reads_of_errors (h : (validate params view).errors = []) :
    ∀ p ∈ params, ∃ value, p.Reads view value := by
  rw [errors_validate, allErrors, List.append_eq_nil_iff, List.flatMap_eq_nil_iff] at h
  obtain ⟨hown, hbody⟩ := h
  intro p hp
  have herrors := hown p hp
  cases hread : p.read view (readBody view.request.body) with
  | some result =>
    rw [Param.ownErrors, hread] at herrors
    obtain ⟨value, rfl⟩ := Param.read_explained hread herrors
    exact ⟨value, hread⟩
  | none =>
    -- only a parameter of the body is not read, and that is the error of the body
    by_cases hsource : p.source = .body
    · have hany : (params.any fun p => p.source == .body) = true :=
        List.any_eq_true.mpr ⟨p, hp, beq_iff_eq.mpr hsource⟩
      rw [bodyErrors, if_pos hany, Option.toList_eq_nil_iff] at hbody
      obtain ⟨entries, hentries⟩ := eq_obj_of_bodyError? hbody
      rw [hentries, p.read_field hsource] at hread
      cases hread
    · cases (p.read_texts hsource _).symm.trans hread

/-- A request is accepted with the values of the parameters, if each of them is read. -/
theorem validate_eq_ok {values : Fields Json} :
    validate params view = .ok values ↔
      (∀ p ∈ params, ∃ value, p.Reads view value) ∧
        values = Fields.ofList (readings params view) := by
  constructor
  · intro h
    have hnil : (validate params view).errors = [] := by rw [h]; rfl
    refine ⟨reads_of_errors hnil, ?_⟩
    rw [validate_eq, ← errors_validate, hnil] at h
    exact (Except.ok.inj h).symm
  · rintro ⟨h, rfl⟩
    rw [validate_eq, ← errors_validate, errors_of_reads h]
    rfl

/-- The values of parameters that are all read stand under the names of the parameters. -/
theorem names_readings (h : ∀ p ∈ params, ∃ value, p.Reads view value) :
    (readings params view).map Prod.fst = params.map Param.name := by
  induction params with
  | nil => rfl
  | cons p params ih =>
    obtain ⟨value, hvalue⟩ := h p List.mem_cons_self
    have hrest := ih fun p hp => h p (List.mem_cons_of_mem _ hp)
    rw [readings, List.filterMap_cons_some (by rw [hvalue.value?]; rfl), List.map_cons,
      List.map_cons]
    exact congrArg _ hrest

theorem mem_readings {p : Param} {value : Json} (hp : p ∈ params) (h : p.Reads view value) :
    (p.name, value) ∈ readings params view :=
  List.mem_filterMap.mpr ⟨p, hp, by rw [h.value?]; rfl⟩

/-! ## A parameter alone -/

/-- A parameter that is read is accepted alone, with its value under its name. -/
theorem validate_singleton_eq_ok {p : Param} {values : Fields Json} :
    validate [p] view = .ok values ↔ ∃ value, p.Reads view value ∧
      values = .ofList [(p.name, value)] := by
  rw [validate_eq_ok, List.forall_mem_singleton]
  constructor
  · rintro ⟨⟨value, h⟩, rfl⟩
    refine ⟨value, h, ?_⟩
    rw [readings, List.filterMap_cons_some (by rw [h.value?]; rfl)]
    rfl
  · rintro ⟨value, h, rfl⟩
    refine ⟨⟨value, h⟩, ?_⟩
    rw [readings, List.filterMap_cons_some (by rw [h.value?]; rfl)]
    rfl

/-- The errors of a parameter alone are its own, if the body has none. -/
theorem errors_singleton {p : Param} (h : p.source ≠ .body ∨
    bodyError? (readBody view.request.body) = none) :
    (validate [p] view).errors = p.ownErrors view := by
  have hbody : bodyErrors [p] view = [] := by
    rw [bodyErrors, List.any_cons, List.any_nil, Bool.or_false]
    rcases h with h | h
    · rw [if_neg fun hsource => h (beq_iff_eq.mp hsource)]
    · rw [h, Option.toList_none, ite_self]
  rw [errors_validate, allErrors, hbody, List.append_nil, List.flatMap_singleton]

/-- The errors of a parameter of the body are those of an object with this field alone. -/
theorem errors_singleton_field {p : Param} {entries : List (String × Json)} (h : p.source = .body)
    (hbody : readBody view.request.body = .ok (.obj entries)) :
    (validate [p] view).errors =
      (coerce (.object [p.field]) [.key "body"] (.obj entries)).errors := by
  have hnone : bodyError? (readBody view.request.body) = none := by rw [hbody]; rfl
  rw [errors_singleton (.inr hnone), Param.ownErrors, hbody, p.read_field h, errors_coerce_object,
    List.flatMap_singleton, Option.map_some, Option.getD_some, errors_map]

/-- The errors of a parameter of another source are those of bringing its texts into its shape. -/
theorem errors_singleton_texts {p : Param} (h : p.source ≠ .body) :
    (validate [p] view).errors = (coerceTexts p.field p.location (p.texts view)).errors := by
  rw [errors_singleton (.inl h), Param.ownErrors, p.read_texts h, Option.map_some, Option.getD_some]

/-! ## Parameters with and without the body -/

/-- Where the body has an error of its own, only parameters of other sources have errors. -/
theorem ownErrors_of_bodyError {e : FieldError}
    (hbody : bodyError? (readBody view.request.body) = some e) :
    params.flatMap (fun p => p.ownErrors view) =
      (params.filter fun p => p.source != .body).flatMap fun p => (validate [p] view).errors := by
  induction params with
  | nil => rfl
  | cons p params ih =>
    rw [List.flatMap_cons, ih]
    by_cases hsource : p.source = .body
    · have hnone : p.ownErrors view = [] := by
        rw [Param.ownErrors, p.read_eq_none hsource hbody]
        rfl
      rw [hnone, List.filter_cons_of_neg (by simp [hsource]), List.nil_append]
    · rw [List.filter_cons_of_pos (by simp [hsource]), List.flatMap_cons,
        errors_singleton (.inl hsource)]

/-- Without a parameter of the body, requests with the same texts are validated alike. -/
theorem validate_congr {view' : RequestView} (h : ∀ p ∈ params, p.source ≠ .body)
    (htexts : ∀ p ∈ params, p.texts view' = p.texts view) :
    validate params view' = validate params view := by
  have hread : ∀ p ∈ params, p.read view' (readBody view'.request.body) =
      p.read view (readBody view.request.body) := by
    intro p hp
    rw [p.read_texts (h p hp), p.read_texts (h p hp), htexts p hp]
  have hown : ∀ p ∈ params, p.ownErrors view' = p.ownErrors view := by
    intro p hp
    rw [Param.ownErrors, hread p hp, Param.ownErrors]
  have hvalue : ∀ p ∈ params, p.value? view' = p.value? view := by
    intro p hp
    rw [Param.value?, hread p hp, Param.value?]
  have hall : allErrors params view' = allErrors params view := by
    rw [allErrors, allErrors, bodyErrors_eq_nil (.inl h), bodyErrors_eq_nil (.inl h),
      List.flatMap_def, List.flatMap_def, List.map_congr_left hown]
  have hreadings : readings params view' = readings params view :=
    List.filterMap_congr fun p hp => by rw [hvalue p hp]
  rw [validate_eq, validate_eq, hall, hreadings]

end All

/-! ## Together and alone -/

/-- What validating parameters together has to do with validating each of them alone. -/
structure ValidatesAlone (params : List Param) (view : RequestView) : Prop where
  /-- All are accepted exactly if each of them is. -/
  accepted : (∃ values, validate params view = .ok values) ↔
    ∀ p ∈ params, ∃ values, validate [p] view = .ok values
  /-- Accepted values stand under the names of the parameters and are those they get alone. -/
  values : ∀ values, validate params view = .ok values →
    values.names.Perm (params.map Param.name) ∧
      ∀ p ∈ params, ∃ value, validate [p] view = .ok (.ofList [(p.name, value)]) ∧
        values.get? p.name = some value
  /-- The errors are those of each alone, one after the other, unless the body has one of
  its own. -/
  errors : (∀ p ∈ params, p.source ≠ .body) ∨ bodyError? (readBody view.request.body) = none →
    (validate params view).errors = params.flatMap fun p => (validate [p] view).errors
  /-- The error of the body stands last, instead of all that its parameters would have. -/
  bodyError : ∀ e, bodyError? (readBody view.request.body) = some e →
    (∃ p ∈ params, p.source = .body) →
      validate params view = .error ((params.filter fun p => p.source != .body).flatMap
        (fun p => (validate [p] view).errors) ++ [e])
  /-- Without a parameter that is read from it, the body does not matter. -/
  unjudged : (∀ p ∈ params, p.source ≠ .body) → ∀ body,
    validate params { view with request := { view.request with body } } = validate params view
  /-- The errors of a list of texts are those of its items by index. -/
  texts : ∀ p ∈ params, p.source ≠ .body → p.texts view ≠ [] → ∀ inner,
    p.field.shape = .list inner → (validate [p] view).errors =
      ((p.texts view).mapIdx fun i text =>
        (coerceText inner (p.location ++ [.index i]) text).errors).flatten
  /-- The errors of a parameter of the body are those of an object with this field alone. -/
  field : ∀ p ∈ params, p.source = .body → ∀ entries,
    readBody view.request.body = .ok (.obj entries) → (validate [p] view).errors =
      (coerce (.object [p.field]) [.key "body"] (.obj entries)).errors
  /-- The errors of a list are those of its items by index. -/
  items : ∀ inner location items, (coerce (.list inner) location (.arr items)).errors =
    (items.mapIdx fun i item => (coerce inner (location ++ [.index i]) item).errors).flatten
  /-- The errors of an object are those of its fields alone, in the order of their declaration. -/
  fields : ∀ fields location entries, (coerce (.object fields) location (.obj entries)).errors =
    fields.flatMap fun field => (coerce (.object [field]) location (.obj entries)).errors
  /-- A value of any shape is refused exactly if there is an error. -/
  refused : ∀ shape location value, (coerce shape location value).errors = [] ↔
    ∃ coerced, coerce shape location value = .ok coerced

/-- Validating parameters with distinct names comes to validating each of them alone. -/
theorem validate_alone (params : List Param) (view : RequestView)
    (distinct : (params.map Param.name).Nodup) : ValidatesAlone params view where
  accepted := by
    have hone : ∀ p, (∃ values, validate [p] view = .ok values) ↔ ∃ value, p.Reads view value := by
      intro p
      constructor
      · rintro ⟨values, h⟩
        obtain ⟨value, hvalue, -⟩ := validate_singleton_eq_ok.mp h
        exact ⟨value, hvalue⟩
      · rintro ⟨value, hvalue⟩
        exact ⟨_, validate_singleton_eq_ok.mpr ⟨value, hvalue, rfl⟩⟩
    constructor
    · rintro ⟨values, h⟩ p hp
      exact (hone p).mpr ((validate_eq_ok.mp h).1 p hp)
    · intro h
      exact ⟨_, validate_eq_ok.mpr ⟨fun p hp => (hone p).mp (h p hp), rfl⟩⟩
  values := by
    intro values hvalues
    obtain ⟨hreads, rfl⟩ := validate_eq_ok.mp hvalues
    have hnames := names_readings hreads
    have hdistinct : ((readings params view).map Prod.fst).Nodup := hnames ▸ distinct
    refine ⟨hnames ▸ Fields.names_ofList hdistinct, fun p hp => ?_⟩
    obtain ⟨value, hvalue⟩ := hreads p hp
    exact ⟨value, validate_singleton_eq_ok.mpr ⟨value, hvalue, rfl⟩,
      Fields.get?_ofList hdistinct (mem_readings hp hvalue)⟩
  errors := by
    intro h
    have halone : ∀ p ∈ params, p.ownErrors view = (validate [p] view).errors := fun p hp =>
      (errors_singleton (h.imp (fun h => h p hp) id)).symm
    rw [errors_validate, allErrors, bodyErrors_eq_nil h, List.append_nil, List.flatMap_def,
      List.flatMap_def, List.map_congr_left halone]
  bodyError := by
    intro e hbody ⟨p, hp, hsource⟩
    have hany : (params.any fun p => p.source == .body) = true :=
      List.any_eq_true.mpr ⟨p, hp, beq_iff_eq.mpr hsource⟩
    have hall : allErrors params view = (params.filter fun p => p.source != .body).flatMap
        (fun p => (validate [p] view).errors) ++ [e] := by
      rw [allErrors, ownErrors_of_bodyError hbody, bodyErrors, if_pos hany, hbody,
        Option.toList_some]
    rw [validate_eq, hall, if_neg]
    simp
  unjudged := by
    intro h body
    refine validate_congr h fun p _ => ?_
    -- a text is looked up in the path, the query or the headers
    unfold Param.texts
    cases p.source <;> rfl
  texts := by
    intro p _ hsource htexts inner hshape
    rw [errors_singleton_texts hsource, errors_coerceTexts hshape _ htexts]
  field := fun p _ hsource entries hbody => errors_singleton_field hsource hbody
  items := errors_coerce_list
  fields := by
    intro fields location entries
    simp only [errors_coerce_object, List.flatMap_singleton]
  refused := fun shape location value => (coerce_explained shape location value).errors_eq_nil

/-- What an order is made of: a number in the path, tags in the query, and two fields of
the body. -/
def orderParams : List Param :=
  [⟨.path, .required "id" .int⟩, ⟨.query, .required "tag" (.list .int)⟩,
    ⟨.body, .required "city" .str⟩,
    ⟨.body, .required "lines" (.list (.object [.required "count" .int]))⟩]

/-- An order whose number is no number and whose body is a list. -/
def brokenOrder : RequestView :=
  .bind { Request.new "POST" "/orders/seven" with pathValues := ["seven"], body := [91, 93] } ["id"]

theorem order_validates_alone :
    (orderParams.map Param.name).Nodup ∧ ValidatesAlone orderParams brokenOrder :=
  ⟨by decide, validate_alone orderParams brokenOrder (by decide)⟩

end RequestDispatch
