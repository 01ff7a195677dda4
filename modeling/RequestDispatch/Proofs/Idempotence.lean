import RequestDispatch.Proofs.Conformance

/-!
# Values that are in their shape already

Coercion reads numbers and truth values from texts, drops keys that are not declared and puts
defaults where nothing is. One pass does all of it: `Shape.Keeps` says of a value that coercion
gives it back as it is, and `coerce_idempotent` that every value coercion gives is such a value. Two
things are asked of the shape: the fields of an object have distinct names, since of one name only
the last value stands, and a default is kept by the shape it stands in for, or is null.
-/

namespace RequestDispatch

/-! ## Kept values -/

/-- The value is accepted as it is, wherever it stands. -/
def Shape.Keeps (shape : Shape) (value : Json) : Prop :=
  ∀ location, coerce shape location value = .ok value

/-- The value is accepted as it is in every object that has it under the name of the field. -/
def Field.Keeps (field : Field) (value : Json) : Prop :=
  ∀ location container, container.get? field.name = some value →
    coerceField field location container = .ok (field.name, value)

mutual

/-- The fields of each object have distinct names, and each default stands in a form that coercion
keeps. -/
inductive Shape.IsDeclaredWell : Shape → Prop where
  | int : Shape.IsDeclaredWell .int
  | float : Shape.IsDeclaredWell .float
  | bool : Shape.IsDeclaredWell .bool
  | str : Shape.IsDeclaredWell .str
  | any : Shape.IsDeclaredWell .any
  | list {inner : Shape} (items : Shape.IsDeclaredWell inner) : Shape.IsDeclaredWell (.list inner)
  | object {fields : List Field} (names : (fields.map Field.name).Nodup)
      (each : ∀ field ∈ fields, Field.IsDeclaredWell field) : Shape.IsDeclaredWell (.object fields)

/-- The shape is declared well, and a default is null or accepted as it is. -/
inductive Field.IsDeclaredWell : Field → Prop where
  | required (name : String) {shape : Shape} (values : Shape.IsDeclaredWell shape) :
      Field.IsDeclaredWell (.mk name shape .required)
  | optional (name : String) {shape : Shape} {fallback : Json}
      (values : Shape.IsDeclaredWell shape)
      (kept : fallback = .null ∨ ∃ location, coerce shape location fallback = .ok fallback) :
      Field.IsDeclaredWell (.mk name shape (.optional fallback))

end

/-- The shape of a field that is declared well is declared well. -/
theorem Field.IsDeclaredWell.shape {name : String} {shape : Shape} {presence : Presence}
    (h : Field.IsDeclaredWell (.mk name shape presence)) : shape.IsDeclaredWell := by
  cases h with
  | required _ values => exact values
  | optional _ values _ => exact values

/-! ## Lists and fields -/

/-- Results by index have a property, if each of them does. -/
theorem Ensures.collect_all {α β : Type} {P : β → Prop} {f : Nat → α → Checked β} {items : List α}
    (h : ∀ i, ∀ item ∈ items, Ensures P (f i item)) :
    Ensures (fun results => ∀ result ∈ results, P result)
      (RequestDispatch.collect (items.mapIdx f)) := by
  intro results hresults
  have hpairs : List.Forall₂ (fun _ => P) items results := Ensures.collect h results hresults
  clear h hresults
  induction hpairs with
  | nil => exact List.forall_mem_nil _
  | cons hresult _ ih => exact List.forall_mem_cons.mpr ⟨hresult, ih⟩

/-- Items that are all given back make up the list they came from. -/
theorem collect_eq_ok {α : Type} {f : Nat → α → Checked α} {items : List α}
    (h : ∀ i, ∀ item ∈ items, f i item = .ok item) : collect (items.mapIdx f) = .ok items := by
  induction items generalizing f with
  | nil => rfl
  | cons item items ih =>
    have hfirst : f 0 item = .ok item := h 0 item List.mem_cons_self
    have hrest : collect (items.mapIdx fun i => f (i + 1)) = .ok items := by
      apply ih
      intro i item hitem
      exact h (i + 1) item (List.mem_cons_of_mem _ hitem)
    rw [List.mapIdx_cons, collect, hfirst, hrest]
    rfl

/-- A list of values that stay stays. -/
theorem Shape.Keeps.list {inner : Shape} {items : List Json}
    (h : ∀ item ∈ items, inner.Keeps item) : (Shape.list inner).Keeps (.arr items) := by
  intro location
  have hitems : collect (items.mapIdx fun i item => coerce inner (location ++ [.index i]) item) =
      .ok items := collect_eq_ok fun i item hitem => h item hitem _
  rw [coerce, hitems]
  rfl

/-- A field keeps what its shape keeps: null, if it may be null, is accepted anyway. -/
theorem Field.Keeps.of_shape {name : String} {shape : Shape} {presence : Presence} {value : Json}
    (h : shape.Keeps value) : (Field.mk name shape presence).Keeps value := by
  intro location container hget
  rw [Field.name] at hget
  rcases coerceField_cases name shape presence location container with
    ⟨hnone, -⟩ | ⟨hnull, -, hresult⟩ | ⟨value', hvalue, hresult⟩
  · rw [hget] at hnone
    cases hnone
  · obtain rfl : value = .null := Option.some.inj (hget.symm.trans hnull)
    exact hresult
  · obtain rfl : value = value' := Option.some.inj (hget.symm.trans hvalue)
    rw [hresult, h]
    rfl

/-- An explicit null stays where a field is optional. -/
theorem Field.Keeps.null (name : String) (shape : Shape) (fallback : Json) :
    (Field.mk name shape (.optional fallback)).Keeps .null := by
  intro location container hget
  rw [Field.name] at hget
  unfold coerceField
  rw [hget]
  rfl

/-- The entry that a declared field makes has its name, and a value that the field keeps. -/
structure Field.Settles (field : Field) (entry : String × Json) : Prop where
  name : entry.1 = field.name
  keeps : field.Keeps entry.2

/-- Entries that an object has are found by the fields that keep them. -/
theorem coerceFields_eq_ok {fields : List Field} {entries : List (String × Json)}
    (h : List.Forall₂ Field.Settles fields entries) {container : Json}
    (found : ∀ entry ∈ entries, container.get? entry.1 = some entry.2) (location : List LocItem) :
    coerceFields fields location container = .ok entries := by
  induction h with
  | nil => rfl
  | @cons field entry fields entries hfield _ ih =>
    obtain ⟨name, value⟩ := entry
    obtain rfl : name = field.name := hfield.name
    have hfirst : coerceField field location container = .ok (field.name, value) :=
      hfield.keeps location container (found _ List.mem_cons_self)
    have hrest := ih fun entry hentry => found entry (List.mem_cons_of_mem _ hentry)
    rw [coerceFields, hfirst, hrest]
    rfl

/-- An object of distinct fields is kept, if each field keeps its value. -/
theorem Shape.Keeps.object {fields : List Field} {entries : List (String × Json)}
    (names : (fields.map Field.name).Nodup) (h : List.Forall₂ Field.Settles fields entries) :
    (Shape.object fields).Keeps (Json.object entries) := by
  intro location
  have hdistinct : (entries.map Prod.fst).Nodup := names_of_forall₂ Field.Settles.name h ▸ names
  have found : ∀ entry ∈ entries, (Json.object entries).get? entry.1 = some entry.2 := by
    intro entry hentry
    exact Entries.get?_ofList hdistinct hentry
  have hfields : coerceFields fields location (Json.object entries) = .ok entries :=
    coerceFields_eq_ok h found location
  show (coerceFields fields location (Json.object entries)).map Json.object = _
  rw [hfields]
  rfl

/-! ## What coercion gives -/

/-- A text that is read is kept as what it is read as. -/
theorem coerceText_keeps (shape : Shape) (location : List LocItem) (text : String) :
    Ensures shape.Keeps (coerceText shape location text) := by
  cases shape with
  | str | any => exact .ok fun _ => rfl
  | list _ | object _ => exact .reject _ _ _
  | int | float | bool =>
    simp only [coerceText]
    split
    · exact .ok fun _ => rfl
    · exact .reject _ _ _

/-- A single value that was coerced stays under another coercion. -/
theorem coerceScalar_keeps {shape : Shape}
    (scalar : shape = .int ∨ shape = .float ∨ shape = .bool ∨ shape = .str)
    (location : List LocItem) (value : Json) :
    Ensures shape.Keeps (coerceScalar shape location value) := by
  unfold coerceScalar
  -- by the shape and the kind of the value: what is made of it is of the kind of the shape
  split
  case h_1 | h_4 | h_7 | h_10 => exact .ok fun _ => rfl
  case h_2 | h_6 | h_9 | h_12 | h_13 => exact .reject _ _ _
  case h_3 => exact coerceText_keeps _ _ _
  case h_5 =>
    split
    · exact .ok fun _ => rfl
    · exact .reject _ _ _
    · exact .reject _ _ _
  case h_8 =>
    split
    · exact .ok fun _ => rfl
    · exact .reject _ _ _
  case h_11 =>
    split
    · exact .ok fun _ => rfl
    · split
      · exact .ok fun _ => rfl
      · exact .reject _ _ _
  case h_14 => simp_all

mutual

/-- A value that was coerced stays under another coercion. -/
theorem coerce_keeps {shape : Shape} (declared : shape.IsDeclaredWell) (location : List LocItem)
    (value : Json) : Ensures shape.Keeps (coerce shape location value) := by
  cases shape with
  | any => exact .ok fun _ => rfl
  | int | float | bool | str => exact coerceScalar_keeps (by simp) location value
  | list inner =>
    cases declared with
    | list items_declared =>
      cases value with
      | arr items =>
        have hitems : Ensures (fun results => ∀ result ∈ results, inner.Keeps result)
            (collect (items.mapIdx fun i item => coerce inner (location ++ [.index i]) item)) :=
          .collect_all fun i item _ => coerce_keeps items_declared (location ++ [.index i]) item
        exact hitems.map fun _ hkept => .list hkept
      | null | bool _ | int _ | float _ | str _ | obj _ => exact .reject _ _ _
  | object fields =>
    cases declared with
    | object names each =>
      cases value with
      | obj entries =>
        exact (coerceFields_keeps each location (.obj entries)).map fun _ h => .object names h
      | null | bool _ | int _ | float _ | str _ | arr _ => exact .reject _ _ _

/-- The fields of an object that was coerced settle. -/
theorem coerceFields_keeps {fields : List Field} (declared : ∀ field ∈ fields, field.IsDeclaredWell)
    (location : List LocItem) (container : Json) :
    Ensures (List.Forall₂ Field.Settles fields) (coerceFields fields location container) := by
  cases fields with
  | nil => exact .ok .nil
  | cons field fields =>
    have hfield := coerceField_keeps (declared field List.mem_cons_self) location container
    have hfields := coerceFields_keeps (fun field hfield =>
      declared field (List.mem_cons_of_mem _ hfield)) location container
    exact (hfield.both hfields).map fun _ h => .cons h.1 h.2

/-- A field that was coerced settles. -/
theorem coerceField_keeps {field : Field} (declared : field.IsDeclaredWell)
    (location : List LocItem) (container : Json) :
    Ensures field.Settles (coerceField field location container) := by
  obtain ⟨name, shape, presence⟩ := field
  rcases coerceField_cases name shape presence location container with
    ⟨-, hresult⟩ | ⟨-, ⟨fallback, rfl⟩, hresult⟩ | ⟨value, -, hresult⟩
  · rw [hresult]
    cases declared with
    | required _ values => exact nofun
    | @optional _ _ fallback values kept =>
      refine .ok ⟨rfl, ?_⟩
      rcases kept with rfl | ⟨place, hkept⟩
      · exact .null name shape .null
      · -- what is accepted as it is somewhere is a value that coercion gives
        exact .of_shape (coerce_keeps values place fallback fallback hkept)
  · rw [hresult]
    exact .ok ⟨rfl, .null name shape fallback⟩
  · rw [hresult]
    refine (coerce_keeps declared.shape (location ++ [.key name]) value).map fun result hkept => ?_
    exact ⟨rfl, .of_shape hkept⟩

end

/-- Coercion gives back what it gave, wherever that stands now. -/
theorem coerce_idempotent {shape : Shape} (declared : shape.IsDeclaredWell)
    {location location' : List LocItem} {value result : Json}
    (h : coerce shape location value = .ok result) : coerce shape location' result = .ok result :=
  coerce_keeps declared location value result h location'

/-- Lines of an order: how many of a thing, one unless it says more, at what price, and whether it
is a gift. -/
def basketShape : Shape :=
  .object [.required "lines" (.list (.object
    [.required "thing" .str, .mk "number" .int (.optional (.int 1)), .required "price" .float,
      .mk "gift" .bool (.optional .null)]))]

theorem basketShape_declared : basketShape.IsDeclaredWell := by
  refine .object (by decide) (List.forall_mem_singleton.mpr (.required _ (.list (.object
    (by decide) ?_))))
  refine List.forall_mem_cons.mpr ⟨.required _ .str, List.forall_mem_cons.mpr ⟨?_,
    List.forall_mem_cons.mpr ⟨.required _ .float, List.forall_mem_singleton.mpr ?_⟩⟩⟩
  · exact .optional _ .int (.inr ⟨[], rfl⟩)
  · exact .optional _ .bool (.inl rfl)

/-- A basket with texts for numbers, an integer for a price and something that is not declared. -/
def basket : Json :=
  .obj [("lines", .arr
    [.obj [("gift", .str "yes"), ("number", .str " 2 "), ("price", .int 3), ("thing", .str "pen")],
      .obj [("price", .str "1.5"), ("shelf", .int 7), ("thing", .str "cup")]])]

/-- What coercion makes of it. -/
def settledBasket : Json :=
  .obj [("lines", .arr
    [.obj [("gift", .bool true), ("number", .int 2),
        ("price", .float ⟨false, 6755399441055744, -51⟩), ("thing", .str "pen")],
      .obj [("gift", .null), ("number", .int 1),
        ("price", .float ⟨false, 6755399441055744, -52⟩), ("thing", .str "cup")]])]

/-- A basket that was coerced stays when it is coerced again. -/
theorem settledBasket_stays : basketShape.IsDeclaredWell ∧
    coerce basketShape [.key "body"] basket = .ok settledBasket ∧
      coerce basketShape [.key "body"] settledBasket = .ok settledBasket := by
  have accepted : coerce basketShape [.key "body"] basket = .ok settledBasket := rfl
  exact ⟨basketShape_declared, accepted, coerce_idempotent basketShape_declared accepted⟩

end RequestDispatch
