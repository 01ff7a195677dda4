import Mathlib.Data.List.Induction
import Mathlib.Data.List.Nodup
import RequestDispatch.Fields

/-!
# Laws of named values

Reading after writing, mapping the values, which keeps them at their names, and what stands in the
values that are put together from a list. All of it is proved of entries, and then said of fields.
-/

namespace RequestDispatch

namespace Entries

variable {α β : Type}

theorem get?_cons (n key : String) (v : α) (rest : List (String × α)) :
    get? ((n, v) :: rest) key = if key = n then some v else get? rest key := by
  rw [get?, List.lookup_cons]
  by_cases h : key = n
  · simp [h]
  · simp [get?, h, beq_eq_false_iff_ne.mpr h]

theorem mem_of_get? {entries : List (String × α)} {name : String} {value : α}
    (h : get? entries name = some value) : (name, value) ∈ entries := by
  induction entries with
  | nil => cases h
  | cons entry rest ih =>
    obtain ⟨n, v⟩ := entry
    rw [get?_cons] at h
    split at h
    · next hname =>
      cases h
      exact hname ▸ List.mem_cons_self
    · exact List.mem_cons_of_mem _ (ih h)

theorem get?_map (f : α → β) (entries : List (String × α)) (name : String) :
    get? (entries.map fun (n, v) => (n, f v)) name = (get? entries name).map f := by
  induction entries with
  | nil => rfl
  | cons entry rest ih =>
    obtain ⟨n, v⟩ := entry
    rw [List.map_cons, get?_cons, get?_cons, ih]
    split <;> rfl

/-- A name that was set has its new value, and every other name keeps its own. -/
theorem get?_set (entries : List (String × α)) (name key : String) (value : α) :
    get? (set name value entries) key = if key = name then some value else get? entries key := by
  induction entries with
  | nil => exact get?_cons name key value []
  | cons entry rest ih =>
    obtain ⟨n, v⟩ := entry
    simp only [set]
    split
    · exact get?_cons name key value _
    · split
      · next hn =>
        subst hn
        rw [get?_cons, get?_cons]
        split <;> rfl
      · next hn =>
        rw [get?_cons, get?_cons, ih]
        by_cases h : key = n
        · simp [h, Ne.symm hn]
        · simp [h]

/-- Setting a value and mapping all is mapping all and setting the mapped value. -/
theorem map_set (f : α → β) (entries : List (String × α)) (name : String) (value : α) :
    (set name value entries).map (fun (n, v) => (n, f v)) =
      set name (f value) (entries.map fun (n, v) => (n, f v)) := by
  induction entries with
  | nil => rfl
  | cons entry rest ih =>
    obtain ⟨n, v⟩ := entry
    simp only [set, List.map_cons]
    split
    · rfl
    · split
      · rfl
      · rw [List.map_cons, ih]

/-- Values of two names may be set in either order. -/
theorem set_comm {name other : String} (hne : name ≠ other) (value value' : α)
    (entries : List (String × α)) :
    set other value' (set name value entries) = set name value (set other value' entries) := by
  induction entries with
  | nil => grind [set]
  | cons entry rest ih => grind [set]

/-- A value stands under a name exactly if the name is one of them. -/
theorem isSome_get? {entries : List (String × α)} {name : String} :
    (get? entries name).isSome ↔ name ∈ entries.map Prod.fst := by
  induction entries with
  | nil => simp [get?]
  | cons entry rest ih =>
    obtain ⟨n, v⟩ := entry
    rw [get?_cons, List.map_cons, List.mem_cons, ← ih]
    by_cases h : name = n <;> simp [h]

/-! ## Values from a list -/

/-- The last of a list of entries is set last. -/
theorem ofList_concat (entries : List (String × α)) (entry : String × α) :
    ofList (entries ++ [entry]) = set entry.1 entry.2 (ofList entries) := by
  rw [ofList, List.foldl_append]
  rfl

/-- A name that was not there is the only one that setting its value adds. -/
theorem names_set {entries : List (String × α)} {name : String} (value : α)
    (h : name ∉ entries.map Prod.fst) :
    ((set name value entries).map Prod.fst).Perm (name :: entries.map Prod.fst) := by
  induction entries with
  | nil => exact .refl _
  | cons entry rest ih =>
    obtain ⟨n, v⟩ := entry
    rw [List.map_cons, List.mem_cons, not_or] at h
    simp only [set]
    split
    · exact .refl _
    · rw [if_neg h.1]
      have hrest := (ih h.2).cons n
      exact hrest.trans (.swap name n _)

/-- The names of values from a list, each given once. -/
theorem names_ofList {entries : List (String × α)} (h : (entries.map Prod.fst).Nodup) :
    ((ofList entries).map Prod.fst).Perm (entries.map Prod.fst) := by
  -- by the entry that is set last
  induction entries using List.reverseRecOn with
  | nil => exact .refl _
  | append_singleton entries entry ih =>
    rw [List.map_append, List.map_singleton, List.nodup_append_comm, List.singleton_append,
      List.nodup_cons] at h
    have hnames := ih h.2
    have hnew : entry.1 ∉ (ofList entries).map Prod.fst := fun hmem => h.1 (hnames.mem_iff.mp hmem)
    rw [ofList_concat, List.map_append, List.map_singleton]
    have hset := names_set entry.2 hnew
    have hentries := (hnames.cons entry.1).trans (List.perm_append_singleton _ _).symm
    exact hset.trans hentries

/-- Each value from a list stands under its name, if each name is given once. -/
theorem get?_ofList {entries : List (String × α)} (h : (entries.map Prod.fst).Nodup)
    {name : String} {value : α} (hmem : (name, value) ∈ entries) :
    get? (ofList entries) name = some value := by
  induction entries using List.reverseRecOn with
  | nil => exact absurd hmem List.not_mem_nil
  | append_singleton entries entry ih =>
    rw [List.map_append, List.map_singleton, List.nodup_append_comm, List.singleton_append,
      List.nodup_cons] at h
    rw [ofList_concat, get?_set]
    rcases List.mem_append.mp hmem with hmem | hmem
    · have hne : name ≠ entry.1 := by
        rintro rfl
        exact h.1 (List.mem_map.mpr ⟨_, hmem, rfl⟩)
      rw [if_neg hne, ih h.2 hmem]
    · obtain rfl := List.mem_singleton.mp hmem
      rw [if_pos rfl]

/-- Of a name that is given several times the last value stands. -/
theorem get?_ofList_eq_lookup (entries : List (String × α)) (name : String) :
    get? (ofList entries) name = entries.reverse.lookup name := by
  induction entries using List.reverseRecOn with
  | nil => rfl
  | append_singleton entries entry ih =>
    obtain ⟨n, v⟩ := entry
    rw [ofList_concat, get?_set, List.reverse_append, ih]
    exact (get?_cons n name v entries.reverse).symm

/-- A value from a list stands under each name that is given. -/
theorem isSome_get?_ofList {entries : List (String × α)} {name : String} :
    (get? (ofList entries) name).isSome ↔ name ∈ entries.map Prod.fst := by
  have h : (entries.reverse.lookup name).isSome ↔ name ∈ entries.reverse.map Prod.fst := isSome_get?
  rw [get?_ofList_eq_lookup, h, List.map_reverse, List.mem_reverse]

/-- The order of entries with different names does not matter. -/
theorem ofList_perm {entries entries' : List (String × α)} (h : entries.Perm entries')
    (names : (entries.map Prod.fst).Nodup) : ofList entries = ofList entries' := by
  refine h.foldl_eq' (fun first hfirst second hsecond done => ?_) []
  by_cases hname : first.1 = second.1
  · rw [List.inj_on_of_nodup_map names hfirst hsecond hname]
  · exact set_comm hname _ _ done

/-! ## Ascending names -/

theorem ascending_of_names {entries : List (String × α)} (names : List String)
    (hnames : entries.map Prod.fst = names) (h : names.Pairwise (· < ·)) : Ascending entries := by
  subst hnames
  exact List.pairwise_map.mp h

/-- Changing the values does not make the order. -/
theorem Ascending.of_map {entries : List (String × α)} {f : α → β}
    (h : Ascending (entries.map fun (n, v) => (n, f v))) : Ascending entries := by
  rwa [Ascending, List.pairwise_map] at h

/-- A name below all others is not there. -/
theorem get?_eq_none_of_forall_lt {entries : List (String × α)} {name : String}
    (h : ∀ entry ∈ entries, name < entry.1) : get? entries name = none := by
  induction entries with
  | nil => rfl
  | cons entry rest ih =>
    obtain ⟨n, v⟩ := entry
    have hne : name ≠ n := fun heq =>
      String.lt_irrefl name (heq ▸ h (n, v) List.mem_cons_self)
    rw [get?_cons, if_neg hne, ih fun other hother => h other (List.mem_cons_of_mem _ hother)]

theorem ascending_ofList (entries : List (String × α)) : Ascending (ofList entries) := by
  induction entries using List.reverseRecOn with
  | nil => exact List.Pairwise.nil
  | append_singleton entries entry ih =>
    rw [ofList_concat]
    exact ih.set entry.1 entry.2

theorem mem_ofList {entries : List (String × α)} {entry : String × α}
    (h : entry ∈ ofList entries) : entry ∈ entries := by
  induction entries using List.reverseRecOn with
  | nil => cases h
  | append_singleton entries last ih =>
    rw [ofList_concat] at h
    rcases mem_set h with rfl | h
    · exact List.mem_append_right _ (List.mem_singleton_self _)
    · exact List.mem_append_left _ (ih h)

/-- A name above all others is set at the end. -/
theorem set_of_forall_lt {entries : List (String × α)} {name : String}
    (h : ∀ entry ∈ entries, entry.1 < name) (value : α) :
    set name value entries = entries ++ [(name, value)] := by
  induction entries with
  | nil => rfl
  | cons entry rest ih =>
    obtain ⟨n, v⟩ := entry
    have hlt : n < name := h (n, v) List.mem_cons_self
    have hne : name ≠ n := fun heq => String.lt_irrefl name (heq ▸ hlt)
    rw [set, if_neg (String.lt_asymm hlt), if_neg hne,
      ih fun entry hentry => h entry (List.mem_cons_of_mem _ hentry), List.cons_append]

/-- Entries in ascending order of their names stay as they are. -/
theorem ofList_of_ascending {entries : List (String × α)} (h : Ascending entries) :
    ofList entries = entries := by
  induction entries using List.reverseRecOn with
  | nil => rfl
  | append_singleton entries entry ih =>
    obtain ⟨hfirst, -, hlast⟩ := List.pairwise_append.mp h
    rw [ofList_concat, ih hfirst,
      set_of_forall_lt fun other hother => hlast other hother entry (List.mem_singleton_self entry)]

end Entries

/-! ## The same of fields -/

namespace Fields

variable {α β : Type} {fields : Fields α} {name : String} {value : α}

theorem mem_of_get? (h : fields.get? name = some value) : (name, value) ∈ fields :=
  Entries.mem_of_get? h

/-- A name that was set has its new value, and every other name keeps its own. -/
theorem get?_set (fields : Fields α) (name key : String) (value : α) :
    (fields.set name value).get? key = if key = name then some value else fields.get? key :=
  Entries.get?_set fields.entries name key value

/-- What is there after setting a value is the new entry or was there before. -/
theorem mem_set {entry : String × α} (h : entry ∈ fields.set name value) :
    entry = (name, value) ∨ entry ∈ fields :=
  Entries.mem_set h

/-- Setting a value and mapping all is mapping all and setting the mapped value. -/
theorem map_set (f : α → β) (fields : Fields α) (name : String) (value : α) :
    (fields.set name value).map f = (fields.map f).set name (f value) :=
  Fields.ext (Entries.map_set f fields.entries name value)

/-- A value stands under a name exactly if the name is one of them. -/
theorem isSome_get? : (fields.get? name).isSome ↔ name ∈ fields.names := Entries.isSome_get?

variable {entries entries' : List (String × α)}

@[simp] theorem entries_map (f : α → β) (fields : Fields α) :
    (fields.map f).entries = fields.entries.map fun (n, v) => (n, f v) := rfl

/-- Changing the values does not change the names. -/
@[simp] theorem names_map (f : α → β) (fields : Fields α) :
    (fields.map f).names = fields.names := by
  simp [names]

/-- Values of a list are the entries of the list in order. -/
@[simp] theorem entries_ofList (entries : List (String × α)) :
    (ofList entries).entries = Entries.ofList entries :=
  (List.foldl_hom Fields.entries fun _ _ => rfl).symm

/-- The names of values from a list, each given once. -/
theorem names_ofList (h : (entries.map Prod.fst).Nodup) :
    (ofList entries).names.Perm (entries.map Prod.fst) := by
  rw [names, entries_ofList]
  exact Entries.names_ofList h

/-- Each value from a list stands under its name, if each name is given once. -/
theorem get?_ofList (h : (entries.map Prod.fst).Nodup) (hmem : (name, value) ∈ entries) :
    (ofList entries).get? name = some value := by
  rw [get?, entries_ofList]
  exact Entries.get?_ofList h hmem

/-- Of a name that is given several times the last value stands. -/
theorem get?_ofList_eq_lookup (entries : List (String × α)) (name : String) :
    (ofList entries).get? name = entries.reverse.lookup name := by
  rw [get?, entries_ofList]
  exact Entries.get?_ofList_eq_lookup entries name

/-- A value from a list stands under each name that is given. -/
theorem isSome_get?_ofList :
    ((ofList entries).get? name).isSome ↔ name ∈ entries.map Prod.fst := by
  rw [get?, entries_ofList]
  exact Entries.isSome_get?_ofList

/-- The order of entries with different names does not matter. -/
theorem ofList_perm (h : entries.Perm entries') (names : (entries.map Prod.fst).Nodup) :
    ofList entries = ofList entries' := by
  ext1
  rw [entries_ofList, entries_ofList]
  exact Entries.ofList_perm h names

end Fields

end RequestDispatch
