import RequestDispatch.Proofs.NumberWidths
import RequestDispatch.Proofs.Validation

/-!
# What accepted values are

A handler gets the values of a request as they are declared. `Shape.Conforms` says what a shape
makes of an input: a number, truth value or text is of its kind, a list is conformed item by item,
and an object has the declared fields and no others. `coerce_conforms` shows it of every value that
coercion gives, by going down the shape, and `validate_conforms` of every parameter of an accepted
request.
-/

namespace RequestDispatch

/-! ## Conformance -/

/-- The field that counts of those that are declared under a name: the last of them. -/
def Field.declared? (fields : List Field) (name : String) : Option Field :=
  fields.reverse.find? fun field => field.name == name

mutual

/-- What a value is that an input is brought into a shape as. An input that is of its kind already
is kept. -/
inductive Shape.Conforms : Shape → Json → Json → Prop where
  | int {input : Json} {n : Int} (low : Json.minInt ≤ n) (high : n ≤ Json.maxUnsigned)
      (kept : ∀ m, input = .int m → m = n) : Shape.Conforms .int input (.int n)
  | float {input : Json} {x : BinaryFloat} (double : x.InFormat .double)
      (kept : ∀ y, input = .float y → y = x) : Shape.Conforms .float input (.float x)
  | bool {input : Json} {b : Bool} (kept : ∀ c, input = .bool c → c = b) :
      Shape.Conforms .bool input (.bool b)
  | str (text : String) : Shape.Conforms .str (.str text) (.str text)
  | any (input : Json) : Shape.Conforms .any input input
  /-- A list has an item for each item of the input. -/
  | list {inner : Shape} {inputs items : List Json} (length : inputs.length = items.length)
      (each : ∀ input item, (input, item) ∈ inputs.zip items → Shape.Conforms inner input item) :
      Shape.Conforms (.list inner) (.arr inputs) (.arr items)
  /-- An object has the declared fields, each name once, whatever else the input has. -/
  | object {fields : List Field} {inputs entries : List (String × Json)}
      (keys : Entries.Ascending entries)
      (names : ∀ name, name ∈ entries.map Prod.fst ↔ name ∈ fields.map Field.name)
      (each : ∀ field value, Field.declared? fields field.name = some field →
        Entries.get? entries field.name = some value →
          Field.Conforms field (Entries.get? inputs field.name) value) :
      Shape.Conforms (.object fields) (.obj inputs) (.obj entries)

/-- What the value of a declared field is, by the input there is for it. -/
inductive Field.Conforms : Field → Option Json → Json → Prop where
  /-- An optional field that is not there is its fallback. -/
  | absent (name : String) (shape : Shape) (fallback : Json) :
      Field.Conforms (.mk name shape (.optional fallback)) none fallback
  /-- An optional field may be null. -/
  | null (name : String) (shape : Shape) (fallback : Json) :
      Field.Conforms (.mk name shape (.optional fallback)) (some .null) .null
  | value {name : String} {shape : Shape} {presence : Presence} {input value : Json}
      (conforms : Shape.Conforms shape input value) :
      Field.Conforms (.mk name shape presence) (some input) value

end

namespace Ensures

variable {α β : Type} {P : α → Prop} {Q : β → Prop}

theorem reject (d : Defect) (location : List LocItem) (input : Json) :
    Ensures P (reject d location input) := nofun

theorem both {first : Checked α} {second : Checked β} (h : Ensures P first)
    (h' : Ensures Q second) :
    Ensures (fun pair => P pair.1 ∧ Q pair.2) (RequestDispatch.both first second) := by
  rintro ⟨a, b⟩ hpair
  cases first with
  | error errors => cases second <;> cases hpair
  | ok a =>
    cases second with
    | error errors => cases hpair
    | ok b =>
      cases hpair
      exact ⟨h a rfl, h' b rfl⟩

/-- Results by index are values that go with the items one by one, if each of them does. -/
theorem collect {R : α → β → Prop} {f : Nat → α → Checked β} {items : List α}
    (h : ∀ i, ∀ item ∈ items, Ensures (R item) (f i item)) :
    Ensures (List.Forall₂ R items) (RequestDispatch.collect (items.mapIdx f)) := by
  induction items generalizing f with
  | nil => exact ok .nil
  | cons item items ih =>
    have hfirst := h 0 item List.mem_cons_self
    have hrest := ih fun i item hitem => h (i + 1) item (List.mem_cons_of_mem _ hitem)
    rw [List.mapIdx_cons, RequestDispatch.collect]
    exact (hfirst.both hrest).map fun _ hpair => .cons hpair.1 hpair.2

end Ensures

/-- A list of values that go with the inputs one by one is conformed. -/
theorem Shape.Conforms.of_forall₂ {inner : Shape} {inputs items : List Json}
    (h : List.Forall₂ inner.Conforms inputs items) :
    (Shape.list inner).Conforms (.arr inputs) (.arr items) :=
  .list (List.forall₂_iff_zip.mp h).1 fun _ _ hmem => (List.forall₂_iff_zip.mp h).2 hmem

/-! ## Single values -/

/-- A float that is read as an integer is in the range of signed 64-bit numbers. -/
theorem wholeInt_range {x : BinaryFloat} {n : Int} (h : wholeInt x = .ok n) :
    Json.minInt ≤ n ∧ n ≤ Json.maxSigned := by
  unfold wholeInt at h
  split at h
  · cases h
  · split at h
    · next hrange =>
      cases h
      exact hrange
    · cases h

/-- A text that is read as an integer is in this range too. -/
theorem readIntText_range {text : String} {n : Int} (h : readIntText text = .ok n) :
    Json.minInt ≤ n ∧ n ≤ Json.maxSigned := by
  unfold readIntText at h
  dsimp only at h
  split at h
  · split at h
    · next hrange =>
      cases h
      exact hrange
    · split at h
      · exact wholeInt_range h
      · cases h
  · split at h
    · exact wholeInt_range h
    · cases h

/-- A signed integer is an integer of 64 bits. -/
theorem Shape.Conforms.signed {input : Json} {n : Int}
    (h : Json.minInt ≤ n ∧ n ≤ Json.maxSigned) (kept : ∀ m, input = .int m → m = n) :
    Shape.int.Conforms input (.int n) :=
  .int h.1 (h.2.trans (by decide)) kept

/-- A text that is coerced to a shape conforms to it. -/
theorem coerceText_conforms (shape : Shape) (location : List LocItem) (text : String) :
    Ensures (shape.Conforms (.str text)) (coerceText shape location text) := by
  cases shape with
  | str => exact .ok (.str text)
  | any => exact .ok (.any _)
  | list _ | object _ => exact .reject _ _ _
  | int =>
    simp only [coerceText]
    split
    · next hread => exact .ok (.signed (readIntText_range hread) (by simp))
    · exact .reject _ _ _
  | float =>
    simp only [coerceText]
    split
    · next hread => exact .ok (.float (readFloatText_inFormat hread) (by simp))
    · exact .reject _ _ _
  | bool =>
    simp only [coerceText]
    split
    · exact .ok (.bool (by simp))
    · exact .reject _ _ _

/-- What is read of a scalar shape is of its kind. -/
theorem coerceScalar_conforms {shape : Shape}
    (scalar : shape = .int ∨ shape = .float ∨ shape = .bool ∨ shape = .str)
    (location : List LocItem) {input : Json} (fits : input.Fits) :
    Ensures (shape.Conforms input) (coerceScalar shape location input) := by
  unfold coerceScalar
  split
  case h_1 text => exact .ok (.str text)
  case h_2 | h_6 | h_9 | h_12 | h_13 => exact .reject _ _ _
  case h_3 => exact coerceText_conforms _ _ _
  case h_4 =>
    cases fits with
    | int low high => exact .ok (.int low high fun _ h => (Json.int.inj h).symm)
  case h_5 =>
    split
    · next hint => exact .ok (.signed (wholeInt_range hint) (by simp))
    · exact .reject _ _ _
    · exact .reject _ _ _
  case h_7 =>
    cases fits with
    | float double => exact .ok (.float double fun _ h => (Json.float.inj h).symm)
  case h_8 =>
    split
    · next hx => exact .ok (.float (BinaryFloat.ofInt_inFormat hx) (by simp))
    · exact .reject _ _ _
  case h_10 b => exact .ok (.bool fun _ h => (Json.bool.inj h).symm)
  case h_11 =>
    split
    · exact .ok (.bool (by simp))
    · split
      · exact .ok (.bool (by simp))
      · exact .reject _ _ _
  -- no other shape is left
  case h_14 => simp_all

/-! ## Objects -/

/-- The field that an object gets for a declared field. -/
structure Field.Gives (inputs : List (String × Json)) (field : Field) (entry : String × Json) :
    Prop where
  name : entry.1 = field.name
  conforms : field.Conforms (Entries.get? inputs field.name) entry.2

/-- Where every entry has the name of its field, the names are those of the fields in order. -/
theorem names_of_forall₂ {R : Field → String × Json → Prop}
    (named : ∀ {field entry}, R field entry → entry.1 = field.name) {fields : List Field}
    {entries : List (String × Json)} (h : List.Forall₂ R fields entries) :
    entries.map Prod.fst = fields.map Field.name := by
  induction h with
  | nil => rfl
  | cons hfield _ ih => rw [List.map_cons, List.map_cons, named hfield, ih]

/-- The first entry of a name is the one of the first field of this name. -/
theorem gives_of_find? {fields : List Field} {inputs entries : List (String × Json)}
    (h : List.Forall₂ (Field.Gives inputs) fields entries) {name : String} {field : Field}
    {value : Json} (hfield : fields.find? (fun field => field.name == name) = some field)
    (hvalue : Entries.get? entries name = some value) : field.Gives inputs (name, value) := by
  induction h with
  | nil => cases hfield
  | @cons first entry fields entries hfirst _ ih =>
    obtain ⟨n, v⟩ := entry
    have hname : n = first.name := hfirst.name
    rw [Entries.get?_cons] at hvalue
    by_cases hn : name = n
    · rw [List.find?_cons_of_pos (by simp [hn, hname])] at hfield
      rw [if_pos hn] at hvalue
      cases hfield
      cases hvalue
      exact hn ▸ hfirst
    · rw [List.find?_cons_of_neg (by simpa [← hname] using Ne.symm hn)] at hfield
      rw [if_neg hn] at hvalue
      exact ih hfield hvalue

/-- The object that is made of the fields for the declared ones is conformed. -/
theorem Shape.Conforms.of_gives {fields : List Field} {inputs entries : List (String × Json)}
    (h : List.Forall₂ (Field.Gives inputs) fields entries) :
    (Shape.object fields).Conforms (.obj inputs) (Json.object entries) := by
  refine .object (Entries.ascending_ofList entries) (fun name => ?_)
    fun field value hfield hvalue => ?_
  · rw [← Entries.isSome_get?, Entries.isSome_get?_ofList, names_of_forall₂ Field.Gives.name h]
  · -- the last entry of a name stands, and the last field of a name counts
    rw [Entries.get?_ofList_eq_lookup] at hvalue
    exact (gives_of_find? (List.forall₂_reverse_iff.mpr h) hfield hvalue).conforms

/-! ## Values of any shape -/

mutual

/-- A value that is coerced to a shape conforms to it. -/
theorem coerce_conforms (shape : Shape) (location : List LocItem) {input : Json}
    (fits : input.Fits) : Ensures (shape.Conforms input) (coerce shape location input) := by
  cases shape with
  | any => exact .ok (.any input)
  | int | float | bool | str => exact coerceScalar_conforms (by simp) location fits
  | list inner =>
    cases fits with
    | arr items_fit =>
      have hitems : Ensures (List.Forall₂ inner.Conforms _) _ :=
        .collect fun i item hitem =>
          coerce_conforms inner (location ++ [.index i]) (items_fit item hitem)
      exact hitems.map fun _ h => .of_forall₂ h
    | null | bool _ | int _ _ | float _ | str _ | obj _ => exact .reject _ _ _
  | object fields =>
    cases fits with
    | obj values_fit =>
      exact (coerceFields_conforms fields location values_fit).map fun _ h => .of_gives h
    | null | bool _ | int _ _ | float _ | str _ | arr _ => exact .reject _ _ _

/-- The fields of an object are coerced to values that conform, each in its own place. -/
theorem coerceFields_conforms (fields : List Field) (location : List LocItem)
    {inputs : List (String × Json)} (fit : ∀ input ∈ inputs, input.2.Fits) :
    Ensures (List.Forall₂ (Field.Gives inputs) fields)
      (coerceFields fields location (.obj inputs)) := by
  cases fields with
  | nil => exact .ok .nil
  | cons field fields =>
    have hfield := coerceField_conforms field location fit
    have hfields := coerceFields_conforms fields location fit
    exact (hfield.both hfields).map fun _ h => .cons h.1 h.2

/-- A field is coerced to its fallback, to null or to a value that conforms. -/
theorem coerceField_conforms (field : Field) (location : List LocItem)
    {inputs : List (String × Json)} (fit : ∀ input ∈ inputs, input.2.Fits) :
    Ensures (field.Gives inputs) (coerceField field location (.obj inputs)) := by
  obtain ⟨name, shape, presence⟩ := field
  rcases coerceField_cases name shape presence location (.obj inputs) with
    ⟨hget, h⟩ | ⟨hget, ⟨fallback, rfl⟩, h⟩ | ⟨value, hget, h⟩
  · rw [h]
    have hnone : Entries.get? inputs name = none := hget
    cases presence with
    | required => exact nofun
    | optional fallback =>
      refine .ok ⟨rfl, ?_⟩
      rw [Field.name, hnone]
      exact .absent name shape fallback
  · rw [h]
    have hnull : Entries.get? inputs name = some .null := hget
    refine .ok ⟨rfl, ?_⟩
    rw [Field.name, hnull]
    exact .null name shape fallback
  · rw [h]
    have hvalue : Entries.get? inputs name = some value := hget
    have hfits : value.Fits := fit _ (Entries.mem_of_get? hvalue)
    refine (coerce_conforms shape (location ++ [.key name]) hfits).map fun result hconforms => ?_
    refine ⟨rfl, ?_⟩
    rw [Field.name, hvalue]
    exact .value hconforms

end

/-! ## Parameters -/

/-- The input that texts are for a shape: all of them for a list, else the last. -/
def Shape.inputOf? (shape : Shape) (texts : List String) : Option Json :=
  texts.getLast?.map fun last =>
    match shape with
    | .list _ => .arr (texts.map .str)
    | _ => .str last

/-- The input that a request has for a parameter. -/
def Param.input? (p : Param) (view : RequestView) : Option Json :=
  match p.source with
  | .body => (readBody view.request.body).toOption.bind fun body => body.get? p.name
  | _ => p.field.shape.inputOf? (p.texts view)

/-- Repeated texts are coerced to a value that conforms. -/
theorem coerceTexts_conforms (field : Field) (location : List LocItem) (texts : List String) :
    Ensures (field.Conforms (field.shape.inputOf? texts)) (coerceTexts field location texts) := by
  obtain ⟨name, shape, presence⟩ := field
  simp only [coerceTexts, Shape.inputOf?, Field.shape, Field.presence]
  cases texts.getLast? with
  | none =>
    cases presence with
    | required => exact .reject _ _ _
    | optional fallback => exact .ok (.absent name shape fallback)
  | some last =>
    cases shape with
    | list inner =>
      have hitems : Ensures (List.Forall₂ (fun text item => inner.Conforms (.str text) item) texts)
          (collect (texts.mapIdx fun i text => coerceText inner (location ++ [.index i]) text)) :=
        .collect fun i text _ => coerceText_conforms inner _ text
      refine hitems.map fun items hconform => .value (.of_forall₂ ?_)
      exact List.forall₂_map_left_iff.mpr hconform
    | int | float | bool | str | any | object _ =>
      exact fun value hvalue => .value (coerceText_conforms _ location last value hvalue)

/-- What a parameter is read with conforms. -/
theorem Param.Reads.conforms {p : Param} {view : RequestView} {value : Json}
    (h : p.Reads view value) : p.field.Conforms (p.input? view) value := by
  -- a parameter of the body is a field of the whole body, any other one is read from its texts
  by_cases hsource : p.source = .body
  · cases hbody : bodyError? (readBody view.request.body) with
    | some e => cases (p.read_eq_none hsource hbody).symm.trans h
    | none =>
      obtain ⟨entries, hentries⟩ := eq_obj_of_bodyError? hbody
      have hfits : (Json.obj entries).Fits := fits_readBody hentries
      have hinput : p.input? view = Entries.get? entries p.name := by
        rw [Param.input?, hsource, hentries]
        rfl
      rw [Param.Reads, hentries, p.read_field hsource] at h
      have hconforms : Ensures (p.field.Conforms (p.input? view))
          ((coerceField p.field [.key "body"] (.obj entries)).map (·.2)) := by
        refine (coerceField_conforms p.field [.key "body"] ?_).map fun entry hgives => ?_
        · cases hfits with
          | obj values_fit => exact values_fit
        · rw [hinput]
          exact hgives.conforms
      exact hconforms value (Option.some.inj h)
  · have hinput : p.input? view = p.field.shape.inputOf? (p.texts view) := by
      unfold Param.input?
      split
      · next hbody => exact absurd hbody hsource
      · rfl
    rw [Param.Reads, p.read_texts hsource] at h
    rw [hinput]
    exact coerceTexts_conforms _ _ _ value (Option.some.inj h)

/-- The values of parameters that are brought into their shapes. -/
structure Conforming (params : List Param) (view : RequestView) (values : Fields Json) : Prop where
  names : values.names.Perm (params.map Param.name)
  each : ∀ p ∈ params, ∃ value, values.get? p.name = some value ∧
    p.field.Conforms (p.input? view) value

/-- Every value of an accepted request conforms to the shape of its parameter. -/
theorem validate_conforms {params : List Param} {view : RequestView} {values : Fields Json}
    (names : (params.map Param.name).Nodup) (h : validate params view = .ok values) :
    Conforming params view values := by
  obtain ⟨hreads, rfl⟩ := validate_eq_ok.mp h
  have hnames := names_readings hreads
  have hdistinct : ((readings params view).map Prod.fst).Nodup := hnames ▸ names
  constructor
  case names => exact hnames ▸ Fields.names_ofList hdistinct
  case each =>
    intro p hp
    obtain ⟨value, hvalue⟩ := hreads p hp
    exact ⟨value, Fields.get?_ofList hdistinct (mem_readings hp hvalue), hvalue.conforms⟩

/-- An item in the body, with a size if it has one, and the shelves it lies on in the query. -/
def stockParams : List Param :=
  [⟨.body, .required "item" (.object
      [.required "name" .str, .mk "size" .int (.optional (.int 1))])⟩,
    ⟨.query, .required "shelf" (.list .int)⟩]

/-- An item without a size, with something else that is not declared. -/
def stockView : RequestView :=
  .bind { Request.new "POST" "/stock" with
    query := Utf8.encode "shelf=3&shelf=4"
    body := [123, 34, 105, 116, 101, 109, 34, 58, 123, 34, 110, 97, 109, 101, 34, 58, 34, 112, 101,
      110, 34, 44, 34, 111, 102, 34, 58, 49, 125, 125] } []

/-- The values of the request. -/
def stockValues : Fields Json :=
  .ofList
    [("item", .obj [("name", .str "pen"), ("size", .int 1)]), ("shelf", .arr [.int 3, .int 4])]

/-- The values of an item and its shelves conform. -/
theorem stock_conforms : (stockParams.map Param.name).Nodup ∧
    validate stockParams stockView = .ok stockValues ∧
      Conforming stockParams stockView stockValues := by
  have names : (stockParams.map Param.name).Nodup := by decide
  have accepted : validate stockParams stockView = .ok stockValues := by decide +kernel
  exact ⟨names, accepted, validate_conforms names accepted⟩

end RequestDispatch
