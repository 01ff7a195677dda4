import RequestDispatch.Validation.Validate

/-!
# The errors of coercion

What is put together from parts has the errors of its parts, in their order: the two of `both`, the
list of `collect`, the items of a list and the declared fields of an object. A refusal always has an
error to show: `Checked.Explained` says so of one result, and `coerce_explained` of coercion in
every shape, so that a value is refused exactly if some part of it has an error.
-/

namespace RequestDispatch

/-! ## Results and their errors -/

namespace Checked

variable {α β : Type}

@[simp] theorem errors_ok (a : α) : Checked.errors (.ok a) = [] := rfl

@[simp] theorem errors_error (errors : List FieldError) :
    Checked.errors (.error errors : Checked α) = errors := rfl

@[simp] theorem errors_map (f : α → β) (result : Checked α) :
    Checked.errors (result.map f) = result.errors := by
  cases result <;> rfl

@[simp] theorem errors_both (first : Checked α) (second : Checked β) :
    (both first second).errors = first.errors ++ second.errors := by
  cases first <;> cases second <;> simp [both]

/-- The errors of several results, in order. -/
theorem errors_collect (results : List (Checked α)) :
    (collect results).errors = results.flatMap Checked.errors := by
  induction results with
  | nil => rfl
  | cons result results ih => rw [collect, errors_map, errors_both, ih, List.flatMap_cons]

/-- The errors of results numbered by index. -/
theorem errors_collect_mapIdx (f : Nat → α → Checked β) (items : List α) :
    (collect (items.mapIdx f)).errors = (items.mapIdx fun i item => (f i item).errors).flatten := by
  rw [errors_collect, List.flatMap_def, List.mapIdx_eq_zipIdx_map, List.mapIdx_eq_zipIdx_map,
    List.map_map]
  rfl

/-- A result that is a value, unless there is an error to show. -/
def Explained (result : Checked α) : Prop := result.errors = [] → ∃ a, result = .ok a

namespace Explained

theorem ok (a : α) : Explained (.ok a : Checked α) := fun _ => ⟨a, rfl⟩

/-- A defect is an error to show. -/
theorem reject (d : Defect) (location : List LocItem) (input : Json) :
    Explained (reject d location input : Checked α) := fun h => absurd h (List.cons_ne_nil _ _)

/-- Mapping a value shows no error and hides none. -/
theorem map {result : Checked α} (h : Explained result) (f : α → β) :
    Explained (result.map f : Checked β) := by
  intro hnil
  rw [errors_map] at hnil
  obtain ⟨a, rfl⟩ := h hnil
  exact ⟨f a, rfl⟩

/-- Two results are both values, unless one of them has an error to show. -/
theorem both {first : Checked α} {second : Checked β} (h : Explained first)
    (h' : Explained second) : Explained (RequestDispatch.both first second) := by
  intro hnil
  rw [errors_both, List.append_eq_nil_iff] at hnil
  obtain ⟨a, rfl⟩ := h hnil.1
  obtain ⟨b, rfl⟩ := h' hnil.2
  exact ⟨(a, b), rfl⟩

/-- Several results are all values, unless one of them has an error to show. -/
theorem collect {results : List (Checked α)} (h : ∀ result ∈ results, Explained result) :
    Explained (RequestDispatch.collect results) := by
  induction results with
  | nil => exact ok []
  | cons result results ih =>
    have hfirst : Explained result := h result List.mem_cons_self
    have hrest := ih fun result hmem => h result (List.mem_cons_of_mem _ hmem)
    exact (hfirst.both hrest).map _

/-- A result is a value exactly if there is no error to show. -/
theorem errors_eq_nil {result : Checked α} (h : Explained result) :
    result.errors = [] ↔ ∃ a, result = .ok a := by
  refine ⟨h, ?_⟩
  rintro ⟨a, rfl⟩
  rfl

end Explained

end Checked

open Checked

/-! ## Declared fields -/

/-- A declared field is not there, or is null and may be, or its value is brought into its shape. -/
theorem coerceField_cases (name : String) (shape : Shape) (presence : Presence)
    (location : List LocItem) (container : Json) :
    (container.get? name = none ∧ coerceField (.mk name shape presence) location container =
      (absent presence (location ++ [.key name]) container).map fun value => (name, value)) ∨
    (container.get? name = some .null ∧ (∃ fallback, presence = .optional fallback) ∧
      coerceField (.mk name shape presence) location container = .ok (name, .null)) ∨
    ∃ value, container.get? name = some value ∧
      coerceField (.mk name shape presence) location container =
        (coerce shape (location ++ [.key name]) value).map fun value => (name, value) := by
  unfold coerceField
  cases hget : container.get? name with
  | none => exact .inl ⟨rfl, rfl⟩
  | some value =>
    cases value with
    | null =>
      cases presence with
      | required => exact .inr (.inr ⟨.null, rfl, rfl⟩)
      | optional fallback => exact .inr (.inl ⟨rfl, ⟨fallback, rfl⟩, rfl⟩)
    | bool _ | int _ | float _ | str _ | arr _ | obj _ => exact .inr (.inr ⟨_, rfl, rfl⟩)

/-! ## The errors of the parts -/

/-- The errors of a list are those of its items by index. -/
theorem errors_coerce_list (inner : Shape) (location : List LocItem) (items : List Json) :
    (coerce (.list inner) location (.arr items)).errors =
      (items.mapIdx fun i item => (coerce inner (location ++ [.index i]) item).errors).flatten := by
  rw [coerce, errors_map, errors_collect_mapIdx]

/-- The errors of fields are those of each field, in order. -/
theorem errors_coerceFields (fields : List Field) (location : List LocItem) (container : Json) :
    (coerceFields fields location container).errors =
      fields.flatMap fun field => (coerceField field location container).errors := by
  induction fields with
  | nil => rfl
  | cons field fields ih => rw [coerceFields, errors_map, errors_both, ih, List.flatMap_cons]

/-- The errors of an object are those of the declared fields in order. -/
theorem errors_coerce_object (fields : List Field) (location : List LocItem)
    (entries : List (String × Json)) :
    (coerce (.object fields) location (.obj entries)).errors =
      fields.flatMap fun field => (coerceField field location (.obj entries)).errors := by
  rw [coerce, errors_map, errors_coerceFields]

/-- The errors of a list of texts are those of the texts by index. -/
theorem errors_coerceTexts {field : Field} {inner : Shape} (h : field.shape = .list inner)
    (location : List LocItem) {texts : List String} (hne : texts ≠ []) :
    (coerceTexts field location texts).errors = (texts.mapIdx fun i text =>
      (coerceText inner (location ++ [.index i]) text).errors).flatten := by
  have hlast := List.getLast?_eq_some_getLast hne
  simp only [coerceTexts, hlast, h]
  rw [errors_map, errors_collect_mapIdx]

/-! ## No refusal without an error -/

/-- A text is coerced, or there is an error to show. -/
theorem coerceText_explained (shape : Shape) (location : List LocItem) (text : String) :
    Explained (coerceText shape location text) := by
  cases shape with
  | str | any => exact .ok _
  | list _ | object _ => exact .reject _ _ _
  | int | float | bool =>
    simp only [coerceText]
    split
    · exact .ok _
    · exact .reject _ _ _

/-- A value is coerced to a shape without parts, or there is an error to show. -/
theorem coerceScalar_explained (shape : Shape) (location : List LocItem) (value : Json) :
    Explained (coerceScalar shape location value) := by
  unfold coerceScalar
  -- by the shape and the kind of the value; a number may still be out of reach of its shape
  split
  case h_1 | h_4 | h_7 | h_10 | h_14 => exact .ok _
  case h_2 | h_6 | h_9 | h_12 | h_13 => exact .reject _ _ _
  case h_3 => exact coerceText_explained _ _ _
  case h_5 =>
    split
    · exact .ok _
    · exact .reject _ _ _
    · exact .reject _ _ _
  case h_8 =>
    split
    · exact .ok _
    · exact .reject _ _ _
  case h_11 =>
    split
    · exact .ok _
    · split
      · exact .ok _
      · exact .reject _ _ _

/-- A missing value has a fallback, or there is an error to show. -/
theorem absent_explained (presence : Presence) (location : List LocItem) (container : Json) :
    Explained (absent presence location container) := by
  cases presence with
  | required => exact .reject _ _ _
  | optional fallback => exact .ok fallback

mutual

/-- A value is coerced, or there is an error to show. -/
theorem coerce_explained (shape : Shape) (location : List LocItem) (value : Json) :
    Explained (coerce shape location value) := by
  cases shape with
  | any => exact .ok value
  | int | float | bool | str => exact coerceScalar_explained _ location value
  | list inner =>
    cases value with
    | arr items =>
      have hitems :
          ∀ result ∈ items.mapIdx fun i item => coerce inner (location ++ [.index i]) item,
            Explained result := by
        intro result hmem
        obtain ⟨i, hi, rfl⟩ := List.mem_mapIdx.mp hmem
        exact coerce_explained inner _ _
      exact (Explained.collect hitems).map _
    | null | bool _ | int _ | float _ | str _ | obj _ => exact .reject _ _ _
  | object fields =>
    cases value with
    | obj entries => exact (coerceFields_explained fields location _).map _
    | null | bool _ | int _ | float _ | str _ | arr _ => exact .reject _ _ _

/-- Fields are coerced, or there is an error to show. -/
theorem coerceFields_explained (fields : List Field) (location : List LocItem) (container : Json) :
    Explained (coerceFields fields location container) := by
  cases fields with
  | nil => exact .ok []
  | cons field fields =>
    have hfield := coerceField_explained field location container
    exact (hfield.both (coerceFields_explained fields location container)).map _

/-- A field is coerced, or there is an error to show. -/
theorem coerceField_explained (field : Field) (location : List LocItem) (container : Json) :
    Explained (coerceField field location container) := by
  obtain ⟨name, shape, presence⟩ := field
  rcases coerceField_cases name shape presence location container with
    ⟨-, h⟩ | ⟨-, -, h⟩ | ⟨value, -, h⟩
  · rw [h]
    exact (absent_explained presence _ container).map _
  · rw [h]
    exact .ok _
  · rw [h]
    exact (coerce_explained shape _ value).map _

end

end RequestDispatch
