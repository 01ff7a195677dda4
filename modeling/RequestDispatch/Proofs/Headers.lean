import RequestDispatch.Http.Response

/-!
# Laws of header fields

What the values of a name are after a header map has changed. Two spellings of a name that differ in
letter case only are one name.
-/

namespace RequestDispatch

namespace Headers

/-- Two spellings of one header name. -/
def SameName (name other : String) : Prop := Text.lowerAscii name = Text.lowerAscii other

instance (name other : String) : Decidable (SameName name other) :=
  inferInstanceAs (Decidable (_ = _))

theorem getAll_eq (h : Headers) (name : String) :
    h.getAll name = (h.fields.filter fun field => field.1 == Text.lowerAscii name).map (·.2) := rfl

theorem fields_remove (h : Headers) (name : String) :
    (h.remove name).fields = h.fields.filter fun field => field.1 != Text.lowerAscii name := rfl

/-- An added value is the last one of its name. -/
theorem getAll_append (h : Headers) (name other : String) (value : Bytes) :
    (h.append name value).getAll other =
      h.getAll other ++ if SameName name other then [value] else [] := by
  rw [append, getAll_eq, getAll_eq, List.filter_append, List.map_append]
  congr 1
  by_cases same : SameName name other
  · have found : (Text.lowerAscii name == Text.lowerAscii other) = true := beq_iff_eq.mpr same
    simp [same, found]
  · have other : (Text.lowerAscii name == Text.lowerAscii other) = false :=
      beq_eq_false_iff_ne.mpr same
    simp [same, other]

/-- A name that was taken away has no values, and other names keep theirs. -/
theorem getAll_remove (h : Headers) (name other : String) :
    (h.remove name).getAll other = if SameName name other then [] else h.getAll other := by
  rw [getAll_eq, getAll_eq, fields_remove, List.filter_filter]
  by_cases same : SameName name other
  · -- no field has the name and has another name
    have none : ∀ field ∈ h.fields,
        ¬ (field.1 == Text.lowerAscii other && field.1 != Text.lowerAscii name) := by
      intro field _
      rw [show Text.lowerAscii name = Text.lowerAscii other from same]
      simp
    rw [if_pos same, List.filter_eq_nil_iff.mpr none]
    rfl
  · -- a field of the one name has not the other
    have also (field : String × Bytes) :
        (field.1 == Text.lowerAscii other && field.1 != Text.lowerAscii name) =
          (field.1 == Text.lowerAscii other) := by
      by_cases hfield : field.1 = Text.lowerAscii other
      · simpa [hfield] using Ne.symm same
      · simp [hfield]
    rw [if_neg same, List.filter_congr fun field _ => also field]

/-- A name has the value it was set to, and other names keep theirs. -/
theorem getAll_set (h : Headers) (name other : String) (value : Bytes) :
    (h.set name value).getAll other = if SameName name other then [value] else h.getAll other := by
  rw [set, getAll_append, getAll_remove]
  by_cases same : SameName name other
  · rw [if_pos same, if_pos same, if_pos same, List.nil_append]
  · rw [if_neg same, if_neg same, if_neg same, List.append_nil]

end Headers

end RequestDispatch
