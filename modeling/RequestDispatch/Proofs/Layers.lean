import RequestDispatch.Config.Setting
import RequestDispatch.Proofs.Fields

/-!
# Layers of settings

What layers that are merged have at a way of keys is what they have there one by one, merged. So
unless tables meet there, it is the value of the highest layer that has one, as long as no layer has
anything but tables on the way. `Setting.at?_foldl_merge` and `Setting.overlay_eq_highest?` say so.
-/

namespace RequestDispatch

namespace Setting

/-! ## Ways of keys -/

/-- A value that is a table. -/
def IsTable (s : Setting) : Prop := ∃ entries, s = .table entries

theorem isTable_table (entries : List (String × Setting)) : IsTable (.table entries) :=
  ⟨entries, rfl⟩

instance (s : Setting) : Decidable s.IsTable :=
  match s with
  | .table entries => isTrue (isTable_table entries)
  | .absent | .flag _ | .whole _ | .real _ | .text _ | .list _ => isFalse <| by
    rintro ⟨_, h⟩
    cases h

@[simp] theorem at?_nil (s : Setting) : at? [] s = some s := rfl

theorem at?_cons (key : String) (keys : List String) (entries : List (String × Setting)) :
    at? (key :: keys) (.table entries) = (Entries.get? entries key).bind (at? keys) := rfl

/-- Only tables have values at keys. -/
theorem isTable_of_at? {key : String} {keys : List String} {s v : Setting}
    (h : at? (key :: keys) s = some v) : s.IsTable := by
  cases s with
  | table entries => exact isTable_table entries
  | absent | flag | whole | real | text | list => cases h

/-- Whatever is on the way to the last of some keys is a table. -/
def Passes : List String → Setting → Prop
  | [], _ => True
  | key :: keys, s =>
    ∃ entries, s = .table entries ∧ ∀ v, Entries.get? entries key = some v → Passes keys v

/-- A way goes on past a table. -/
theorem Passes.concat {keys : List String} {s : Setting} (h : Passes keys s)
    (hlast : ∀ v, at? keys s = some v → v.IsTable) (key : String) : Passes (keys ++ [key]) s := by
  induction keys generalizing s with
  | nil =>
    obtain ⟨entries, rfl⟩ := hlast s rfl
    exact ⟨entries, rfl, fun _ _ => trivial⟩
  | cons first keys ih =>
    obtain ⟨entries, rfl, hentries⟩ := h
    refine ⟨entries, rfl, fun v hv => ih (hentries v hv) fun w hw => hlast w ?_⟩
    rw [at?_cons, hv, Option.bind_some, hw]

/-! ## Well-formed settings -/

/-- A value in which the keys of every table ascend. `gaps` says whether anything in it may say
nothing. -/
inductive Formed (gaps : Prop) : Setting → Prop where
  | absent (h : gaps) : Formed gaps .absent
  | flag (value : Bool) : Formed gaps (.flag value)
  | whole (value : Int) : Formed gaps (.whole value)
  | real (value : FloatReading) : Formed gaps (.real value)
  | text (text : String) : Formed gaps (.text text)
  | list {items : List Setting} (h : ∀ item ∈ items, Formed gaps item) : Formed gaps (.list items)
  | table {entries : List (String × Setting)} (keys : Entries.Ascending entries)
      (h : ∀ entry ∈ entries, Formed gaps entry.2) : Formed gaps (.table entries)

/-- A setting without gaps is one that may have them. -/
theorem Formed.mono {gaps gaps' : Prop} (himp : gaps → gaps') {s : Setting} (h : Formed gaps s) :
    Formed gaps' s := by
  induction h with
  | absent h => exact .absent (himp h)
  | flag value => exact .flag value
  | whole value => exact .whole value
  | real value => exact .real value
  | text text => exact .text text
  | list _ ih => exact .list ih
  | table keys _ ih => exact .table keys ih

section Formed

variable {gaps : Prop}

/-- A table without entries is formed. -/
theorem formed_empty : Formed gaps (.table []) :=
  .table List.Pairwise.nil fun _ h => absurd h List.not_mem_nil

/-- The keys of a formed table ascend. -/
theorem Formed.ascending {entries : List (String × Setting)} (h : Formed gaps (.table entries)) :
    Entries.Ascending entries := by
  cases h with
  | table keys _ => exact keys

/-- What stands in a formed table is formed. -/
theorem Formed.get? {entries : List (String × Setting)} (h : Formed gaps (.table entries))
    {key : String} {v : Setting} (hv : Entries.get? entries key = some v) : Formed gaps v := by
  cases h with
  | table _ values => exact values (key, v) (Entries.mem_of_get? hv)

/-- A formed value is set in a formed table. -/
theorem Formed.set {entries : List (String × Setting)} (h : Formed gaps (.table entries))
    (key : String) {v : Setting} (hv : Formed gaps v) :
    Formed gaps (.table (Entries.set key v entries)) := by
  cases h with
  | table keys values =>
    refine .table (keys.set key v) fun entry hentry => ?_
    rcases Entries.mem_set hentry with rfl | hentry
    · exact hv
    · exact values entry hentry

/-- A table of formed values is formed, in whatever order they come. -/
theorem formed_tableOf {entries : List (String × Setting)}
    (h : ∀ entry ∈ entries, Formed gaps entry.2) : Formed gaps (tableOf entries) :=
  .table (Entries.ascending_ofList entries) fun entry hentry => h entry (Entries.mem_ofList hentry)

/-- Everything on a path in a formed setting is formed. -/
theorem Formed.at? {keys : List String} {s v : Setting} (h : Formed gaps s)
    (hv : at? keys s = some v) : Formed gaps v := by
  induction keys generalizing s with
  | nil =>
    obtain rfl := Option.some.inj hv
    exact h
  | cons key keys ih =>
    obtain ⟨entries, rfl⟩ := isTable_of_at? hv
    rw [at?_cons, Option.bind_eq_some_iff] at hv
    obtain ⟨inner, hinner, hv⟩ := hv
    exact ih (h.get? hinner) hv

/-! ## Merging -/

/-- Anything else than two tables gives way. -/
theorem merge_of_not_isTable {lower upper : Setting} (h : ¬ (lower.IsTable ∧ upper.IsTable)) :
    lower.merge upper = upper := by
  cases upper with
  | table entries =>
    cases lower with
    | table others => exact absurd ⟨isTable_table others, isTable_table entries⟩ h
    | absent | flag | whole | real | text | list =>
      rw [merge]
      simp
  | absent | flag | whole | real | text | list =>
    rw [merge]
    simp

/-- A table over anything is a table. -/
theorem isTable_merge {lower upper : Setting} (h : upper.IsTable) :
    (lower.merge upper).IsTable := by
  by_cases hlower : lower.IsTable
  · obtain ⟨others, rfl⟩ := hlower
    obtain ⟨entries, rfl⟩ := h
    rw [merge]
    exact isTable_table _
  · rw [merge_of_not_isTable fun hboth => hlower hboth.1]
    exact h

/-- What one layer over another has at a key. -/
def cover : Option Setting → Option Setting → Option Setting
  | none, upper => upper
  | lower, none => lower
  | some lower, some upper => some (lower.merge upper)

@[simp] theorem cover_none_left (upper : Option Setting) : cover none upper = upper := rfl

@[simp] theorem cover_none_right (lower : Option Setting) : cover lower none = lower := by
  cases lower <;> rfl

@[simp] theorem cover_some (lower upper : Setting) :
    cover (some lower) (some upper) = some (lower.merge upper) := rfl

/-- The first of the upper entries covers what is below it, and the others follow. -/
theorem mergeEntries_cons (lower : List (String × Setting)) (key : String) (value : Setting)
    (upper : List (String × Setting)) : ∃ merged,
      cover (Entries.get? lower key) (some value) = some merged ∧
      mergeEntries lower ((key, value) :: upper) =
        mergeEntries (Entries.set key merged lower) upper := by
  rw [mergeEntries]
  cases Entries.get? lower key with
  | none => exact ⟨value, rfl, rfl⟩
  | some old => exact ⟨old.merge value, rfl, rfl⟩

/-- Merged tables have at a key what they have there, merged. -/
theorem get?_mergeEntries {lower upper : List (String × Setting)} (h : Entries.Ascending upper)
    (key : String) : Entries.get? (mergeEntries lower upper) key =
      cover (Entries.get? lower key) (Entries.get? upper key) := by
  induction upper generalizing lower with
  | nil =>
    rw [mergeEntries]
    cases Entries.get? lower key <;> rfl
  | cons entry upper ih =>
    obtain ⟨name, value⟩ := entry
    obtain ⟨hfirst, hrest⟩ := List.pairwise_cons.mp h
    obtain ⟨merged, hmerged, heq⟩ := mergeEntries_cons lower name value upper
    rw [heq, ih hrest, Entries.get?_set, Entries.get?_cons]
    split
    · next hkey =>
      subst hkey
      rw [Entries.get?_eq_none_of_forall_lt hfirst, hmerged]
      rfl
    · rfl

/-- Formed entries over a formed table give one, if values over values do. -/
theorem Formed.mergeEntries {lower upper : List (String × Setting)}
    (hlower : Formed gaps (.table lower)) (hupper : ∀ entry ∈ upper, Formed gaps entry.2)
    (hmerge : ∀ entry ∈ upper, ∀ old, Formed gaps old → Formed gaps (old.merge entry.2)) :
    Formed gaps (.table (mergeEntries lower upper)) := by
  induction upper generalizing lower with
  | nil =>
    rw [Setting.mergeEntries]
    exact hlower
  | cons entry upper ih =>
    obtain ⟨key, value⟩ := entry
    obtain ⟨merged, hmerged, heq⟩ := mergeEntries_cons lower key value upper
    rw [heq]
    refine ih (hlower.set key ?_) (fun other hother => hupper other (List.mem_cons_of_mem _ hother))
      fun other hother => hmerge other (List.mem_cons_of_mem _ hother)
    cases hold : Entries.get? lower key with
    | none =>
      obtain rfl : value = merged := by simpa [hold, cover] using hmerged
      exact hupper _ List.mem_cons_self
    | some old =>
      obtain rfl : old.merge value = merged := by simpa [hold, cover] using hmerged
      exact hmerge _ List.mem_cons_self old (hlower.get? hold)

/-- Formed settings merge into one, if values over values do. -/
theorem Formed.merge_of_entries {lower upper : Setting} (hlower : Formed gaps lower)
    (hupper : Formed gaps upper)
    (hmerge : ∀ entries, upper = .table entries → ∀ entry ∈ entries, ∀ old, Formed gaps old →
      Formed gaps (old.merge entry.2)) : Formed gaps (lower.merge upper) := by
  by_cases hboth : lower.IsTable ∧ upper.IsTable
  · obtain ⟨⟨others, rfl⟩, entries, rfl⟩ := hboth
    rw [Setting.merge]
    cases hupper with
    | table _ values => exact hlower.mergeEntries values (hmerge entries rfl)
  · rw [merge_of_not_isTable hboth]
    exact hupper

/-- A formed setting over a formed one is formed. -/
theorem Formed.merge {lower upper : Setting} (hlower : Formed gaps lower)
    (hupper : Formed gaps upper) : Formed gaps (lower.merge upper) := by
  induction hupper generalizing lower with
  | table keys values ih =>
    refine hlower.merge_of_entries (.table keys values) fun entries heq entry hentry old hold => ?_
    obtain rfl := Setting.table.inj heq
    exact ih entry hentry hold
  | absent h => exact hlower.merge_of_entries (.absent h) fun _ heq => by cases heq
  | flag value => exact hlower.merge_of_entries (.flag value) fun _ heq => by cases heq
  | whole value => exact hlower.merge_of_entries (.whole value) fun _ heq => by cases heq
  | real value => exact hlower.merge_of_entries (.real value) fun _ heq => by cases heq
  | text text => exact hlower.merge_of_entries (.text text) fun _ heq => by cases heq
  | list items _ => exact hlower.merge_of_entries (.list items) fun _ heq => by cases heq

/-! ## What layers have at a way of keys -/

/-- What holds of two values at a key and of them merged holds of what two layers have there. -/
theorem cover_induction {P Q R : Setting → Prop} {lower upper : Option Setting}
    (hlower : ∀ v, lower = some v → P v) (hupper : ∀ v, upper = some v → Q v)
    (left : ∀ v, P v → R v) (right : ∀ v, Q v → R v) (both : ∀ v w, P v → Q w → R (v.merge w)) :
    ∀ v, cover lower upper = some v → R v := by
  intro v hv
  cases lower with
  | none => exact right v (hupper v hv)
  | some old =>
    cases upper with
    | none => exact left v (hlower v hv)
    | some value =>
      obtain rfl := Option.some.inj hv
      exact both old value (hlower old rfl) (hupper value rfl)

/-- Layers without anything but tables on a way leave it so. -/
theorem Passes.merge {keys : List String} {lower upper : Setting} (hupper : Formed gaps upper)
    (lower_passes : Passes keys lower) (upper_passes : Passes keys upper) :
    Passes keys (lower.merge upper) := by
  induction keys generalizing lower upper with
  | nil => trivial
  | cons key keys ih =>
    obtain ⟨others, rfl, hothers⟩ := lower_passes
    obtain ⟨entries, rfl, hentries⟩ := upper_passes
    rw [Setting.merge]
    refine ⟨_, rfl, ?_⟩
    rw [get?_mergeEntries hupper.ascending]
    have hnew (v : Setting) (hv : Entries.get? entries key = some v) :
        Passes keys v ∧ Formed gaps v := ⟨hentries v hv, hupper.get? hv⟩
    exact cover_induction hothers hnew (fun _ h => h) (fun _ h => h.1)
      fun v w hv hw => ih hw.2 hv hw.1

/-- A layer over another has at a way of keys what the two have there, merged. -/
theorem at?_merge {keys : List String} {lower upper : Setting} (hupper : Formed gaps upper)
    (lower_passes : Passes keys lower) (upper_passes : Passes keys upper) :
    (lower.merge upper).at? keys = cover (lower.at? keys) (upper.at? keys) := by
  induction keys generalizing lower upper with
  | nil => rfl
  | cons key keys ih =>
    obtain ⟨others, rfl, hothers⟩ := lower_passes
    obtain ⟨entries, rfl, hentries⟩ := upper_passes
    rw [Setting.merge, at?_cons, at?_cons, at?_cons, get?_mergeEntries hupper.ascending]
    cases hold : Entries.get? others key with
    | none => simp
    | some old =>
      cases hnew : Entries.get? entries key with
      | none => simp
      | some value => exact ih (hupper.get? hnew) (hothers old hold) (hentries value hnew)

/-- Values that lie over each other at one key, the lowest one first. -/
def overlay (values : List (Option Setting)) : Option Setting := values.foldl cover none

/-- The last of several values covers the others. -/
theorem overlay_concat (values : List (Option Setting)) (value : Option Setting) :
    overlay (values ++ [value]) = cover (overlay values) value := by
  rw [overlay, List.foldl_append]
  rfl

/-- Merged layers have at a way of keys what they have there, merged, as long as they have nothing
but tables on the way. -/
theorem at?_foldl_merge {keys : List String} (hkeys : keys ≠ []) {layers : List Setting}
    (formed : ∀ layer ∈ layers, Formed gaps layer) (passes : ∀ layer ∈ layers, Passes keys layer) :
    (layers.foldl merge (.table [])).at? keys = overlay (layers.map (at? keys)) ∧
      Passes keys (layers.foldl merge (.table [])) := by
  -- by the layer that is merged last
  induction layers using List.reverseRecOn with
  | nil =>
    obtain ⟨key, keys, rfl⟩ := List.exists_cons_of_ne_nil hkeys
    exact ⟨rfl, [], rfl, fun v hv => by cases hv⟩
  | append_singleton layers layer ih =>
    have hlast : layer ∈ layers ++ [layer] :=
      List.mem_append_right _ (List.mem_singleton_self layer)
    obtain ⟨hmerged, hpasses⟩ := ih
      (fun other hother => formed other (List.mem_append_left _ hother))
      fun other hother => passes other (List.mem_append_left _ hother)
    rw [List.foldl_append, List.map_append, List.map_singleton, overlay_concat, ← hmerged]
    exact ⟨at?_merge (formed layer hlast) hpasses (passes layer hlast),
      hpasses.merge (formed layer hlast) (passes layer hlast)⟩

/-- Something lies there if any layer has something there. -/
theorem isSome_overlay {values : List (Option Setting)} (h : ∃ value ∈ values, value.isSome) :
    (overlay values).isSome := by
  induction values using List.reverseRecOn with
  | nil =>
    obtain ⟨value, hvalue, -⟩ := h
    exact absurd hvalue List.not_mem_nil
  | append_singleton values last ih =>
    obtain ⟨value, hvalue, hsome⟩ := h
    rw [overlay_concat]
    rcases List.mem_append.mp hvalue with hvalue | hvalue
    · obtain ⟨old, hold⟩ := Option.isSome_iff_exists.mp (ih ⟨value, hvalue, hsome⟩)
      rw [hold]
      cases last <;> rfl
    · obtain rfl := List.mem_singleton.mp hvalue
      obtain ⟨top, rfl⟩ := Option.isSome_iff_exists.mp hsome
      cases overlay values <;> rfl

/-- The value that the highest of some layers has at a way of keys, if any has one. -/
def highest? (layers : List Setting) (keys : List String) : Option Setting :=
  layers.reverse.findSome? (at? keys)

/-- The last of several layers is the highest one that has a value. -/
theorem highest?_concat (layers : List Setting) (layer : Setting) (keys : List String) :
    highest? (layers ++ [layer]) keys = (layer.at? keys).or (highest? layers keys) := by
  rw [highest?, List.reverse_append, List.reverse_singleton, List.singleton_append,
    List.findSome?_cons, highest?]
  cases layer.at? keys <;> rfl

/-- What lies over each other at a key is the highest value there, unless tables meet. -/
theorem overlay_eq_highest? (layers : List Setting) (keys : List String)
    (h : ∀ v, overlay (layers.map (at? keys)) = some v → ¬ v.IsTable) :
    overlay (layers.map (at? keys)) = highest? layers keys := by
  induction layers using List.reverseRecOn with
  | nil => rfl
  | append_singleton layers layer ih =>
    rw [List.map_append, List.map_singleton, overlay_concat] at h ⊢
    rw [highest?_concat]
    cases hlast : layer.at? keys with
    | none =>
      rw [hlast] at h
      simp only [cover_none_right] at h ⊢
      exact ih h
    | some value =>
      rw [hlast] at h
      cases hlower : overlay (layers.map (at? keys)) with
      | none => rfl
      | some old =>
        rw [hlower] at h
        have hvalue : ¬ value.IsTable := fun htable => h _ rfl (isTable_merge htable)
        rw [cover_some, merge_of_not_isTable fun hboth => hvalue hboth.2]
        rfl

/-- Well-formed values make a well-formed one. -/
theorem formed_overlay {values : List (Option Setting)}
    (h : ∀ value ∈ values, ∀ v, value = some v → Formed gaps v) :
    ∀ v, overlay values = some v → Formed gaps v := by
  induction values using List.reverseRecOn with
  | nil => exact fun _ hv => by cases hv
  | append_singleton values value ih =>
    rw [overlay_concat]
    exact cover_induction (ih fun other hother => h other (List.mem_append_left _ hother))
      (h value (List.mem_append_right _ (List.mem_singleton_self value))) (fun _ hv => hv)
      (fun _ hv => hv) fun _ _ hv hw => hv.merge hw

end Formed

end Setting

end RequestDispatch
