/-!
# Values by name

`Fields` are named values in ascending order of the names, each name once. A JSON object and a table
of settings are made of values of their own type, and an inductive type cannot stand in a proof
about itself, so these hold the bare entries. What puts values at their places is therefore said of
lists of entries first, in `Entries`, and keeps their order.
-/

namespace RequestDispatch

namespace Entries

variable {α β : Type}

/-- The names stand in ascending order, each of them once. -/
def Ascending (entries : List (String × α)) : Prop := entries.Pairwise fun a b => a.1 < b.1

instance (entries : List (String × α)) : Decidable (Ascending entries) :=
  inferInstanceAs (Decidable (entries.Pairwise fun a b => a.1 < b.1))

/-- The value of a name. -/
def get? (entries : List (String × α)) (name : String) : Option α := entries.lookup name

/-- Puts a value at its place; a name that is there gets the new value. -/
def set (name : String) (value : α) : List (String × α) → List (String × α)
  | [] => [(name, value)]
  | (n, v) :: rest =>
    if name < n then (name, value) :: (n, v) :: rest
    else if name = n then (name, value) :: rest
    else (n, v) :: set name value rest

/-- The values in ascending order of their names; of a repeated name the last value counts. -/
def ofList (values : List (String × α)) : List (String × α) :=
  values.foldl (fun done (name, value) => set name value done) []

/-- What is there after setting a value is the new entry or was there before. -/
theorem mem_set {entries : List (String × α)} {name : String} {value : α} {entry : String × α}
    (h : entry ∈ set name value entries) : entry = (name, value) ∨ entry ∈ entries := by
  induction entries with
  | nil => exact .inl (List.mem_singleton.mp h)
  | cons first rest ih =>
    obtain ⟨n, v⟩ := first
    simp only [set] at h
    split at h
    · exact List.mem_cons.mp h
    · split at h
      · exact (List.mem_cons.mp h).imp id (List.mem_cons_of_mem _)
      · rcases List.mem_cons.mp h with rfl | h
        · exact .inr List.mem_cons_self
        · exact (ih h).imp id (List.mem_cons_of_mem _)

theorem Ascending.set {entries : List (String × α)} (h : Ascending entries) (name : String)
    (value : α) : Ascending (set name value entries) := by
  induction entries with
  | nil => exact List.pairwise_singleton _ _
  | cons entry rest ih =>
    obtain ⟨n, v⟩ := entry
    obtain ⟨hfirst, hrest⟩ := List.pairwise_cons.mp h
    simp only [Entries.set]
    split
    · next hlt =>
      refine List.pairwise_cons.mpr ⟨fun other hother => ?_, h⟩
      rcases List.mem_cons.mp hother with rfl | hother
      · exact hlt
      · exact String.lt_trans hlt (hfirst other hother)
    · next hle =>
      split
      · next heq => exact List.pairwise_cons.mpr ⟨heq ▸ hfirst, hrest⟩
      · next hne =>
        refine List.pairwise_cons.mpr ⟨fun other hother => ?_, ih hrest⟩
        rcases mem_set hother with rfl | hother
        · exact String.not_le.mp fun hge => hne (String.le_antisymm hge (String.not_lt.mp hle))
        · exact hfirst other hother

/-- Changing the values does not change the order. -/
theorem Ascending.map {entries : List (String × α)} (h : Ascending entries) (f : α → β) :
    Ascending (entries.map fun (n, v) => (n, f v)) :=
  List.pairwise_map.mpr h

end Entries

/-- Named values in ascending order of their names. -/
@[ext]
structure Fields (α : Type) where
  entries : List (String × α)
  ascending : Entries.Ascending entries
  deriving DecidableEq, Repr

namespace Fields

variable {α β : Type}

/-- No values. -/
def empty : Fields α := ⟨[], .nil⟩

/-- Puts a value at its place; a name that is there gets the new value. -/
def set (name : String) (value : α) (fields : Fields α) : Fields α :=
  ⟨Entries.set name value fields.entries, fields.ascending.set name value⟩

/-- The values of a list; of a repeated name the last one counts. -/
def ofList (values : List (String × α)) : Fields α :=
  values.foldl (fun done (name, value) => done.set name value) empty

/-- The value of a name. -/
def get? (fields : Fields α) (name : String) : Option α := Entries.get? fields.entries name

/-- Takes a name away. -/
def erase (fields : Fields α) (name : String) : Fields α :=
  ⟨fields.entries.filter fun (n, _) => n != name, fields.ascending.filter _⟩

/-- The values changed, under the same names. -/
def map (f : α → β) (fields : Fields α) : Fields β := ⟨_, fields.ascending.map f⟩

/-- The names, in ascending order. -/
def names (fields : Fields α) : List String := fields.entries.map Prod.fst

instance : Membership (String × α) (Fields α) := ⟨fun fields entry => entry ∈ fields.entries⟩

end Fields

end RequestDispatch
