import Mathlib.Algebra.Order.SuccPred
import Mathlib.Data.List.Nodup
import Mathlib.Data.List.Permutation
import Mathlib.Data.Nat.SuccPred
import RequestDispatch.Proofs.Validation

/-!
# Where errors are located

An error of a body leads to what is wrong: the way in its location, followed from the body, ends at
the value that the error shows, and for a missing field at the object that it is missing in. No two
errors have the same location. `Located` says so of a list of errors, `coerce_located` shows it of
every shape by going down the shape, and `validate_locates` of the parameters of a body.
-/

namespace RequestDispatch

/-! ## Ways into a value -/

/-- The value that a way leads to: a key goes into an object, an index into a list. -/
def Json.follow : List LocItem → Json → Option Json
  | [], value => some value
  | .key name :: way, value => (value.get? name).bind (follow way)
  | .index i :: way, .arr items => items[i]?.bind (follow way)
  | .index _ :: _, _ => none

/-- A way is followed one item at a time. -/
theorem Json.follow_cons (item : LocItem) (way : List LocItem) (value : Json) :
    Json.follow (item :: way) value = (Json.follow [item] value).bind (Json.follow way) := by
  cases item with
  | key name => cases h : value.get? name <;> simp [Json.follow, h]
  | index i =>
    cases value with
    | arr items => cases h : items[i]? <;> simp [Json.follow, h]
    | null | bool _ | int _ | float _ | str _ | obj _ => rfl

/-! ## Names that are distinct at each level -/

mutual

/-- Whether the fields of every object in a shape have distinct names. -/
def Shape.distinct : Shape → Bool
  | .list inner => inner.distinct
  | .object fields => decide (fields.map Field.name).Nodup && Field.allDistinct fields
  | .int | .float | .bool | .str | .any => true

/-- Whether this holds of the shapes of all fields. -/
def Field.allDistinct : List Field → Bool
  | [] => true
  | .mk _ shape _ :: fields => shape.distinct && Field.allDistinct fields

end

/-! ## Located errors -/

/-- An error shows what is at its location, in a value that stands at a base. -/
inductive FieldError.Shows (root : Json) (base : List LocItem) (e : FieldError) : Prop where
  /-- The value that is wrong. -/
  | value (way : List LocItem) (kind : e.kind ≠ "missing") (location : e.location = base ++ way)
      (reached : root.follow way = some e.input)
  /-- The object that a field is missing in. -/
  | missing (way : List LocItem) (name : String) (kind : e.kind = "missing")
      (location : e.location = base ++ way ++ [.key name])
      (reached : root.follow way = some e.input)
      (absent : e.input.isObject ∧ e.input.get? name = none)

/-- Errors that show what is at their locations, no two at the same one. -/
structure Located (root : Json) (base : List LocItem) (errors : List FieldError) : Prop where
  shows : ∀ e ∈ errors, e.Shows root base
  distinct : (errors.map FieldError.location).Nodup

/-- Errors below a place. -/
def Below (base : List LocItem) (errors : List FieldError) : Prop :=
  ∀ e ∈ errors, base <+: e.location

theorem Below.nil {base : List LocItem} : Below base [] := nofun

namespace Located

variable {root : Json} {base : List LocItem} {errors : List FieldError}

theorem nil : Located root base [] := ⟨nofun, List.nodup_nil⟩

theorem singleton {e : FieldError} (h : e.Shows root base) : Located root base [e] :=
  ⟨List.forall_mem_singleton.mpr h, List.nodup_singleton _⟩

theorem ok {α : Type} (a : α) : Located root base (Checked.errors (.ok a)) := nil

/-- A value that is refused as a whole is shown as it is. -/
theorem reject {α : Type} {d : Defect} (h : d.kind ≠ "missing") :
    Located root base (reject d base root : Checked α).errors :=
  singleton (.value [] h (List.append_nil base).symm rfl)

/-- What is located below a place stands below it. -/
theorem below (h : Located root base errors) : Below base errors := by
  intro e he
  cases h.shows e he with
  | value way _ location _ => exact ⟨way, location.symm⟩
  | missing way name _ location _ _ =>
    exact ⟨way ++ [.key name], by rw [location, List.append_assoc]⟩

/-- What is located in a part is located in the whole. -/
theorem of_part {item : LocItem} {part : Json} (hpart : Json.follow [item] root = some part)
    (h : Located part (base ++ [item]) errors) : Located root base errors := by
  have hfollow : ∀ way, root.follow (item :: way) = part.follow way := by
    intro way
    rw [Json.follow_cons, hpart, Option.bind_some]
  refine ⟨fun e he => ?_, h.distinct⟩
  cases h.shows e he with
  | value way kind location reached =>
    refine .value (item :: way) kind ?_ (by rw [hfollow, reached])
    rw [location, List.append_assoc, List.singleton_append]
  | missing way name kind location reached absent =>
    refine .missing (item :: way) name kind ?_ (by rw [hfollow, reached]) absent
    rw [location, List.append_assoc base, List.singleton_append]

/-- The errors of parts below distinct items are located, if those of each part are. -/
theorem flatMap {ι : Type} {parts : List ι} {item : ι → LocItem} {errors : ι → List FieldError}
    (hitems : (parts.map item).Nodup) (h : ∀ i ∈ parts, Located root base (errors i))
    (hbelow : ∀ i ∈ parts, Below (base ++ [item i]) (errors i)) :
    Located root base (parts.flatMap errors) := by
  refine ⟨fun e he => ?_, ?_⟩
  · obtain ⟨i, hi, he⟩ := List.mem_flatMap.mp he
    exact (h i hi).shows e he
  · rw [List.map_flatMap, List.nodup_flatMap]
    refine ⟨fun i hi => (h i hi).distinct, ?_⟩
    -- locations below different items differ at the items
    have hpairs : parts.Pairwise fun i j => item i ≠ item j := List.pairwise_map.mp hitems
    refine hpairs.imp_of_mem fun {i j} hi hj hne location hl hl' => ?_
    obtain ⟨e, he, rfl⟩ := List.mem_map.mp hl
    obtain ⟨e', he', heq⟩ := List.mem_map.mp hl'
    obtain ⟨way, hway⟩ := hbelow i hi e he
    obtain ⟨way', hway'⟩ := hbelow j hj e' he'
    rw [heq, ← hway, List.append_assoc, List.append_assoc, List.append_cancel_left_eq] at hway'
    exact hne (List.cons.inj hway').1.symm

end Located

/-! ## Single values -/

/-- A number that is no integer is there. -/
theorem kind_wholeInt {x : BinaryFloat} {d : Defect} (h : wholeInt x = .error d) :
    d.kind ≠ "missing" := by
  unfold wholeInt at h
  split at h
  · cases h
    decide
  · split at h <;> cases h
    decide

/-- The second attempt at a text, as a number without fractional part. -/
theorem kind_wholeInt_readFloat {text : String} {d : Defect}
    (h : (match readFloat .double text with
      | some (.finite x) => wholeInt x
      | _ => .error .intText) = Except.error d) : d.kind ≠ "missing" := by
  split at h
  · exact kind_wholeInt h
  · cases h
    decide

/-- A text that is no integer is not told to be missing. -/
theorem kind_readIntText {text : String} {d : Defect} (h : readIntText text = .error d) :
    d.kind ≠ "missing" := by
  unfold readIntText at h
  dsimp only at h
  split at h
  · split at h
    · cases h
    · exact kind_wholeInt_readFloat h
  · exact kind_wholeInt_readFloat h

/-- What is wrong with a text is wrong at its place. -/
theorem coerceText_located (shape : Shape) (location : List LocItem) (text : String) :
    Located (.str text) location (coerceText shape location text).errors := by
  cases shape with
  | str | any => exact .ok _
  | list _ | object _ => exact .reject (by decide)
  | int =>
    simp only [coerceText]
    split
    · exact .ok _
    · next d h => exact .reject (kind_readIntText h)
  | float | bool =>
    simp only [coerceText]
    split
    · exact .ok _
    · exact .reject (by decide)

/-- What is wrong with a single value is wrong at its place. -/
theorem coerceScalar_located (shape : Shape) (location : List LocItem) (value : Json) :
    Located value location (coerceScalar shape location value).errors := by
  unfold coerceScalar
  split
  case h_1 | h_4 | h_7 | h_10 | h_14 => exact .ok _
  case h_2 | h_6 | h_9 | h_12 | h_13 => exact .reject (by decide)
  case h_3 => exact coerceText_located _ _ _
  case h_5 =>
    split
    · exact .ok _
    · exact .reject (by decide)
    · exact .reject (by decide)
  case h_8 =>
    split
    · exact .ok _
    · exact .reject (by decide)
  case h_11 =>
    split
    · exact .ok _
    · split
      · exact .ok _
      · exact .reject (by decide)

/-! ## Values of every shape -/

/-- The errors of a declared field of an object are located in the object, and below the field. -/
def FieldLocated (location : List LocItem) (entries : List (String × Json)) (field : Field) :
    Prop :=
  Located (.obj entries) location (coerceField field location (.obj entries)).errors ∧
    Below (location ++ [.key field.name]) (coerceField field location (.obj entries)).errors

/-- A field is located if its value is, wherever there is one. -/
theorem fieldLocated_of {field : Field} {location : List LocItem} {entries : List (String × Json)}
    (h : ∀ location value, Located value location (coerce field.shape location value).errors) :
    FieldLocated location entries field := by
  obtain ⟨name, shape, presence⟩ := field
  unfold FieldLocated
  rcases coerceField_cases name shape presence location (.obj entries) with
    ⟨hnone, heq⟩ | ⟨-, -, heq⟩ | ⟨value, hget, heq⟩
  · rw [heq, Checked.errors_map]
    cases presence with
    | optional fallback => exact ⟨.ok _, .nil⟩
    | required =>
      have hlocation : location ++ [LocItem.key name] = location ++ [] ++ [.key name] := by
        rw [List.append_nil]
      refine ⟨.singleton (.missing [] name rfl hlocation rfl ⟨rfl, hnone⟩), ?_⟩
      exact List.forall_mem_singleton.mpr (List.prefix_refl _)
  · rw [heq]
    exact ⟨.ok _, .nil⟩
  · have hpart : Json.follow [.key name] (.obj entries) = some value := by
      rw [Json.follow, hget]
      rfl
    have hvalue := h (location ++ [.key name]) value
    rw [heq, Checked.errors_map]
    exact ⟨hvalue.of_part hpart, hvalue.below⟩

mutual

/-- The errors of a value are located in it, whatever its shape. -/
theorem coerce_located (shape : Shape) (hdistinct : shape.distinct) (location : List LocItem)
    (value : Json) : Located value location (coerce shape location value).errors := by
  cases shape with
  | any => exact .ok value
  | int | float | bool | str => exact coerceScalar_located _ location value
  | list inner =>
    cases value with
    | null | bool _ | int _ | float _ | str _ | obj _ => exact .reject (by decide)
    | arr items =>
      have hinner := coerce_located inner (by simpa [Shape.distinct] using hdistinct)
      rw [errors_coerce_list, List.mapIdx_eq_zipIdx_map, ← List.flatMap_def]
      -- the items of a list are told apart by their indexes
      have hindexes : (items.zipIdx.map fun entry => LocItem.index entry.2).Nodup := by
        have hpositions : (items.zipIdx.map Prod.snd).Nodup := by
          rw [List.zipIdx_map_snd]
          exact List.nodup_range'
        have hinjective : Function.Injective LocItem.index := fun i j h => LocItem.index.inj h
        have := hpositions.map hinjective
        rwa [List.map_map] at this
      refine .flatMap hindexes (fun entry hentry => ?_) fun entry _ => (hinner _ entry.1).below
      have hitem : items[entry.2]? = some entry.1 := List.mk_mem_zipIdx_iff_getElem?.mp hentry
      exact .of_part (by simp [Json.follow, hitem]) (hinner _ entry.1)
  | object fields =>
    cases value with
    | null | bool _ | int _ | float _ | str _ | arr _ => exact .reject (by decide)
    | obj entries =>
      rw [Shape.distinct, Bool.and_eq_true, decide_eq_true_eq] at hdistinct
      have hfields := fields_located fields hdistinct.2 location entries
      -- the fields of an object are told apart by their names
      have hnames : (fields.map fun field => LocItem.key field.name).Nodup := by
        have hinjective : Function.Injective LocItem.key := fun a b h => LocItem.key.inj h
        have := hdistinct.1.map hinjective
        rwa [List.map_map] at this
      rw [errors_coerce_object]
      exact .flatMap hnames (fun field hfield => (hfields field hfield).1)
        fun field hfield => (hfields field hfield).2

/-- What is wrong with the fields of an object is wrong at their places. -/
theorem fields_located (fields : List Field) (hdistinct : Field.allDistinct fields)
    (location : List LocItem) (entries : List (String × Json)) :
    ∀ field ∈ fields, FieldLocated location entries field := by
  cases fields with
  | nil => exact nofun
  | cons first fields =>
    obtain ⟨name, shape, presence⟩ := first
    rw [Field.allDistinct, Bool.and_eq_true] at hdistinct
    intro field hmem
    rcases List.mem_cons.mp hmem with rfl | hmem
    · exact fieldLocated_of (coerce_located shape hdistinct.1)
    · exact fields_located fields hdistinct.2 location entries field hmem

end

/-! ## Parameters of a body -/

/-- Parameters of a body that is an object have the errors of an object with these fields. -/
theorem errors_validate_fields {params : List Param} {view : RequestView}
    {entries : List (String × Json)} (hsource : ∀ p ∈ params, p.source = .body)
    (hbody : readBody view.request.body = .ok (.obj entries)) :
    (validate params view).errors =
      (coerce (.object (params.map Param.field)) [.key "body"] (.obj entries)).errors := by
  have hnone : bodyError? (readBody view.request.body) = none := by rw [hbody]; rfl
  have hown : ∀ p ∈ params, p.ownErrors view =
      (coerceField p.field [.key "body"] (.obj entries)).errors := by
    intro p hp
    rw [Param.ownErrors, hbody, p.read_field (hsource p hp), Option.map_some, Option.getD_some,
      Checked.errors_map]
  rw [errors_validate, allErrors, bodyErrors_eq_nil (.inr hnone), List.append_nil, List.flatMap_def,
    List.map_congr_left hown, errors_coerce_object, List.flatMap_def, List.map_map]
  rfl

/-- Every error of parameters of a body leads to what is wrong in the body, no two to the same
place, if names are distinct at each level. -/
theorem validate_locates {params : List Param} {view : RequestView} {entries : List (String × Json)}
    (source : ∀ p ∈ params, p.source = .body)
    (distinct : (Shape.object (params.map Param.field)).distinct)
    (body : readBody view.request.body = .ok (.obj entries)) :
    Located (.obj entries) [.key "body"] (validate params view).errors := by
  rw [errors_validate_fields source body]
  exact coerce_located _ distinct _ _

/-- A list of order lines in a body. -/
def linesParams : List Param :=
  [⟨.body, .required "lines" (.list (.object [.required "count" .int]))⟩]

/-- Two order lines, of which one has a count that is no number and one has none. -/
def twoLines : List (String × Json) :=
  [("lines", .arr [.obj [("count", .bool true)], .obj []])]

/-- The two order lines as they are sent. -/
def linesView : RequestView :=
  .bind { Request.new "POST" "/orders" with
    body := [123, 34, 108, 105, 110, 101, 115, 34, 58, 91, 123, 34, 99, 111, 117, 110, 116, 34, 58,
      116, 114, 117, 101, 125, 44, 123, 125, 93, 125] } []

/-- A wrong count and a missing one are each located in their order line. -/
theorem lines_located :
    (∀ p ∈ linesParams, p.source = .body) ∧
      (Shape.object (linesParams.map Param.field)).distinct ∧
        readBody linesView.request.body = .ok (.obj twoLines) ∧
          (validate linesParams linesView).errors.map FieldError.location =
            [[.key "body", .key "lines", .index 0, .key "count"],
              [.key "body", .key "lines", .index 1, .key "count"]] ∧
          Located (.obj twoLines) [.key "body"] (validate linesParams linesView).errors := by
  have source : ∀ p ∈ linesParams, p.source = .body := by simp [linesParams]
  have distinct : (Shape.object (linesParams.map Param.field)).distinct := by decide
  have body : readBody linesView.request.body = .ok (.obj twoLines) := by decide +kernel
  refine ⟨source, distinct, body, ?_, validate_locates source distinct body⟩
  rw [errors_validate_fields source body]
  rfl

end RequestDispatch
