import RequestDispatch.Config.Environment
import RequestDispatch.Proofs.Layers
import RequestDispatch.Proofs.Text
import RequestDispatch.Toml.Document

/-!
# Settings that are read from text

A TOML document and the variables of an environment are read as well-formed settings in which
nothing is left unsaid, and both make a table.
-/

namespace RequestDispatch

namespace Setting

/-! ## Tables of written values -/

/-- The values of entries are written as settings that make a well-formed table. -/
def FormsTable {α : Type} (write : α → Setting) (entries : List (String × α)) : Prop :=
  Formed False (.table (entries.map fun p => (p.1, write p.2)))

section FormsTable

variable {α : Type} {write : α → Setting}

theorem formsTable_nil : FormsTable write [] := formed_empty

/-- A table stays formed when a formed value is set. -/
theorem FormsTable.set {entries : List (String × α)} (h : FormsTable write entries) (key : String)
    {value : α} (hvalue : Formed False (write value)) :
    FormsTable write (Entries.set key value entries) := by
  rw [FormsTable, Entries.map_set]
  exact Formed.set h key hvalue

/-- The values of a formed table are formed. -/
theorem FormsTable.get? {entries : List (String × α)} (h : FormsTable write entries) {key : String}
    {value : α} (hvalue : Entries.get? entries key = some value) : Formed False (write value) := by
  have hwritten :
      Entries.get? (entries.map fun p => (p.1, write p.2)) key = some (write value) := by
    rw [Entries.get?_map, hvalue]
    rfl
  exact Formed.get? h hwritten

end FormsTable

end Setting

open Setting (Formed FormsTable formed_empty formed_tableOf formsTable_nil)

namespace Toml

/-! ## Values -/

/-- A reader gives well-formed settings that say something. -/
def Tells (read : List Char → Reading Setting) : Prop :=
  ∀ cs v rest, read cs = some (v, rest) → Formed False v

theorem readWord_tells : Tells readWord := by
  intro cs v rest h
  simp only [readWord] at h
  split at h
  · cases h
    exact .flag true
  split at h
  · cases h
    exact .flag false
  split at h
  · cases h
    exact .table (List.pairwise_singleton _ _) (List.forall_mem_singleton.mpr (.text _))
  split at h
  · cases h
    exact .whole _
  · obtain ⟨x, -, hx⟩ := Option.map_eq_some_iff.mp h
    cases hx
    exact .real x

/-- The items of a list are formed if each of them is. -/
theorem readItems_tells {readItem : List Char → Reading Setting} (hread : Tells readItem)
    {rounds : Nat} {done items : List Setting} {cs rest : List Char}
    (hdone : ∀ item ∈ done, Formed False item)
    (h : readItems readItem rounds done cs = some (items, rest)) :
    ∀ item ∈ items, Formed False item := by
  induction rounds generalizing done cs with
  | zero => cases h
  | succ rounds ih =>
    simp only [readItems] at h
    split at h
    · cases h
      exact fun item hitem => hdone item (List.mem_reverse.mp hitem)
    split at h
    · cases h
    next item _ hitem =>
    have hmore : ∀ other ∈ item :: done, Formed False other :=
      List.forall_mem_cons.mpr ⟨hread _ _ _ hitem, hdone⟩
    split at h
    · exact ih hmore h
    · cases h
      exact fun other hother => hmore other (List.mem_reverse.mp hother)
    · cases h

/-- The settings of slots by key. -/
theorem Slot.settings_eq_map (slots : List (String × Slot)) :
    Slot.settings slots = slots.map fun p => (p.1, p.2.setting) := by
  induction slots with
  | nil => rfl
  | cons entry slots ih => rw [Slot.settings, ih, List.map_cons]

theorem Slot.formsTable_iff {slots : List (String × Slot)} :
    FormsTable Slot.setting slots ↔ Formed False (.table (Slot.settings slots)) := by
  rw [FormsTable, Slot.settings_eq_map]

/-- A value is inserted below a path of keys into tables that stay formed. -/
theorem insertSlot_formed {keys : List String} {value : Setting}
    {slots slots' : List (String × Slot)} (hvalue : Formed False value)
    (hslots : FormsTable Slot.setting slots) (h : insertSlot keys value slots = some slots') :
    FormsTable Slot.setting slots' := by
  induction keys generalizing slots slots' with
  | nil => cases h
  | cons key keys ih =>
    cases keys with
    | nil =>
      rw [insertSlot] at h
      split at h
      · cases h
      · cases h
        exact hslots.set key hvalue
    | cons next keys =>
      rw [insertSlot] at h
      split at h
      · cases h
      · next inner hinner =>
        obtain ⟨inner', hinner', rfl⟩ := Option.map_eq_some_iff.mp h
        exact hslots.set key (Slot.formsTable_iff.mp
          (ih (Slot.formsTable_iff.mpr (hslots.get? hinner)) hinner'))
      · obtain ⟨inner', hinner', rfl⟩ := Option.map_eq_some_iff.mp h
        exact hslots.set key (Slot.formsTable_iff.mp (ih formsTable_nil hinner'))
      · simp

/-- The entries of an inline table are formed, at whatever paths of keys they stand. -/
theorem readEntries_formed {readItem : List Char → Reading Setting} (hread : Tells readItem)
    {rounds : Nat} {done slots : List (String × Slot)} {cs rest : List Char}
    (hdone : FormsTable Slot.setting done)
    (h : readEntries readItem rounds done cs = some (slots, rest)) :
    FormsTable Slot.setting slots := by
  induction rounds generalizing done cs with
  | zero => cases h
  | succ rounds ih =>
    simp only [readEntries] at h
    split at h
    · split at h
      · cases h
      next hitem =>
      have hvalue := hread _ _ _ hitem
      split at h
      · next hinsert _ => exact ih (insertSlot_formed hvalue hdone hinsert) h
      · next hinsert _ =>
        cases h
        exact insertSlot_formed hvalue hdone hinsert
      · cases h
    · cases h

/-- A value of any depth is formed. -/
theorem readValue_tells (depth : Nat) : Tells (readValue depth) := by
  induction depth with
  | zero => exact fun _ _ _ h => by cases h
  | succ depth ih =>
    intro cs v rest h
    simp only [readValue] at h
    split at h
    · obtain ⟨⟨items, rest⟩, hitems, heq⟩ := Option.map_eq_some_iff.mp h
      cases heq
      exact .list (readItems_tells ih (fun _ hitem => absurd hitem List.not_mem_nil) hitems)
    · split at h
      · cases h
        exact formed_empty
      · obtain ⟨⟨slots, rest⟩, hslots, heq⟩ := Option.map_eq_some_iff.mp h
        cases heq
        exact Slot.formsTable_iff.mp (readEntries_formed ih formsTable_nil hslots)
    · obtain ⟨_, _, heq⟩ := Option.map_eq_some_iff.mp h
      cases heq
      exact .text _
    · obtain ⟨_, _, heq⟩ := Option.map_eq_some_iff.mp h
      cases heq
      exact .text _
    · exact readWord_tells _ _ _ h

/-! ## Documents -/

/-- The settings of nodes by key. -/
theorem Node.settings_eq_map (entries : Entries) :
    Node.settings entries = entries.map fun p => (p.1, p.2.setting) := by
  induction entries with
  | nil => rfl
  | cons entry entries ih => rw [Node.settings, ih, List.map_cons]

theorem Node.formsTable_iff {entries : Entries} :
    FormsTable Node.setting entries ↔ Formed False (.table (Node.settings entries)) := by
  rw [FormsTable, Node.settings_eq_map]

/-- A table of nodes is well-formed if its entries make a well-formed one. -/
theorem Node.formed_table {origin : Origin} {entries : Entries} :
    Formed False (Node.table origin entries).setting ↔ FormsTable Node.setting entries := by
  rw [Node.setting]
  exact Node.formsTable_iff.symm

/-- The settings of an array of tables. -/
theorem lists_eq_map (tables : List Entries) :
    Node.lists tables = tables.map fun entries => .table (Node.settings entries) := by
  induction tables with
  | nil => rfl
  | cons entries tables ih => rw [Node.lists, ih, List.map_cons]

/-- A list of tables is well-formed if each of them is. -/
theorem formed_tables {last : Entries} {earlier : List Entries} :
    Setting.Formed False (Node.tables last earlier).setting ↔
      FormsTable Node.setting last ∧ ∀ entries ∈ earlier, FormsTable Node.setting entries := by
  rw [Node.setting, lists_eq_map]
  constructor
  · intro h
    cases h with
    | list items =>
      refine ⟨Node.formsTable_iff.mpr (items _ (by simp)), fun entries hentries =>
        Node.formsTable_iff.mpr (items _ ?_)⟩
      exact List.mem_reverse.mpr
        (List.mem_cons_of_mem _ (List.mem_map.mpr ⟨entries, hentries, rfl⟩))
  · rintro ⟨hlast, hearlier⟩
    refine .list fun item hitem => ?_
    rcases List.mem_cons.mp (List.mem_reverse.mp hitem) with rfl | hitem
    · exact Node.formsTable_iff.mp hlast
    · obtain ⟨entries, hentries, rfl⟩ := List.mem_map.mp hitem
      exact Node.formsTable_iff.mp (hearlier entries hentries)

/-- A change keeps entries well-formed. -/
def Keeps (change : Entries → Option Entries) : Prop :=
  ∀ entries entries', FormsTable Node.setting entries → change entries = some entries' →
    FormsTable Node.setting entries'

/-- A change below a path of keys keeps tables formed if the change itself does. -/
theorem changeAt_keeps {made : Origin} {admits : Origin → Bool} {change : Entries → Option Entries}
    (hchange : Keeps change) (keys : List String) : Keeps (changeAt made admits change keys) := by
  induction keys with
  | nil => exact hchange
  | cons key keys ih =>
    intro entries entries' formed h
    rw [changeAt] at h
    cases hnode : Entries.get? entries key with
    -- a key that is not there yet becomes a table
    | none =>
      simp only [hnode] at h
      obtain ⟨inner, hinner, rfl⟩ := Option.map_eq_some_iff.mp h
      exact formed.set key (Node.formed_table.mpr (ih _ _ formsTable_nil hinner))
    | some node =>
      have hformed := formed.get? hnode
      cases node with
      | value setting => simp [hnode] at h
      -- a table is changed in place, if it may still be
      | table origin inner =>
        simp only [hnode] at h
        split at h
        · obtain ⟨inner', hinner, rfl⟩ := Option.map_eq_some_iff.mp h
          exact formed.set key
            (Node.formed_table.mpr (ih _ _ (Node.formed_table.mp hformed) hinner))
        · cases h
      -- of an array of tables the last one is changed
      | tables last earlier =>
        simp only [hnode] at h
        obtain ⟨last', hlast, rfl⟩ := Option.map_eq_some_iff.mp h
        obtain ⟨hold, hearlier⟩ := formed_tables.mp hformed
        exact formed.set key (formed_tables.mpr ⟨ih _ _ hold hlast, hearlier⟩)

/-- A header with single brackets opens a formed table. -/
theorem defineTable_keeps (key : String) : Keeps (defineTable key) := by
  intro entries entries' formed h
  rw [defineTable] at h
  split at h
  · cases h
    exact formed.set key (Node.formed_table.mpr formsTable_nil)
  · next hinner =>
    cases h
    exact formed.set key (Node.formed_table.mpr (Node.formed_table.mp (formed.get? hinner)))
  · cases h

/-- A header with double brackets adds a formed table to an array. -/
theorem addTable_keeps (key : String) : Keeps (addTable key) := by
  intro entries entries' formed h
  rw [addTable] at h
  split at h
  · cases h
    exact formed.set key (formed_tables.mpr
      ⟨formsTable_nil, fun _ hentries => absurd hentries List.not_mem_nil⟩)
  · next last earlier htables =>
    cases h
    obtain ⟨hlast, hearlier⟩ := formed_tables.mp (formed.get? htables)
    exact formed.set key (formed_tables.mpr
      ⟨formsTable_nil, List.forall_mem_cons.mpr ⟨hlast, hearlier⟩⟩)
  · cases h

/-- A key is given a formed value. -/
theorem defineValue_keeps (key : String) {value : Setting} (hvalue : Formed False value) :
    Keeps (defineValue key value) := by
  intro entries entries' formed h
  rw [defineValue] at h
  split at h
  · cases h
    exact formed.set key hvalue
  · cases h

/-- A header of either kind keeps the document formed. -/
theorem enterHeader_keeps (double : Bool) (keys : List String) :
    Keeps (enterHeader double keys) := by
  intro entries entries' formed h
  rw [enterHeader] at h
  split at h
  · cases h
  · next key _ =>
    cases double with
    | true => exact changeAt_keeps (addTable_keeps key) _ _ _ formed h
    | false => exact changeAt_keeps (defineTable_keeps key) _ _ _ formed h

/-- A pair below a header keeps the document formed. -/
theorem enterValue_keeps (place keys : List String) {value : Setting}
    (hvalue : Formed False value) : Keeps (enterValue place keys value) := by
  intro entries entries' formed h
  rw [enterValue] at h
  split at h
  · cases h
  · next key _ =>
    exact changeAt_keeps (changeAt_keeps (defineValue_keeps key hvalue) _) _ _ _ formed h

/-- What is read of a header keeps the document formed. -/
theorem readHeader_formed {cs rest : List Char} {p p' : Progress}
    (formed : FormsTable Node.setting p.root) (h : readHeader cs p = some (p', rest)) :
    FormsTable Node.setting p'.root := by
  simp only [readHeader] at h
  split at h
  · split at h
    · obtain ⟨root, hroot, heq⟩ := Option.map_eq_some_iff.mp h
      cases heq
      exact enterHeader_keeps true _ _ _ formed hroot
    · cases h
  · split at h
    · obtain ⟨root, hroot, heq⟩ := Option.map_eq_some_iff.mp h
      cases heq
      exact enterHeader_keeps false _ _ _ formed hroot
    · cases h

/-- What is read of a pair keeps the document formed. -/
theorem readPair_formed {cs rest : List Char} {p p' : Progress}
    (formed : FormsTable Node.setting p.root) (h : readPair cs p = some (p', rest)) :
    FormsTable Node.setting p'.root := by
  simp only [readPair] at h
  split at h
  · split at h
    · next hread =>
      obtain ⟨root, hroot, heq⟩ := Option.map_eq_some_iff.mp h
      cases heq
      exact enterValue_keeps _ _ (readValue_tells _ _ _ _ hread) _ _ formed hroot
    · cases h
  · cases h

/-- All lines of a document together keep it formed. -/
theorem readLines_formed {limit : Nat} {cs : List Char} {p : Progress} {entries : Entries}
    (formed : FormsTable Node.setting p.root) (h : readLines limit cs p = some entries) :
    FormsTable Node.setting entries := by
  induction limit generalizing cs p with
  | zero => cases h
  | succ limit ih =>
    simp only [readLines] at h
    split at h
    · cases h
      exact formed
    split at h
    · cases h
    next p' rest hread =>
    have hformed : FormsTable Node.setting p'.root := by
      split at hread
      · exact readHeader_formed formed hread
      · exact readPair_formed formed hread
    split at h
    · cases h
      exact hformed
    · split at h
      · exact ih hformed h
      · cases h

/-- A document is read as a table. -/
theorem parse_formed {text : String} {s : Setting} (h : parse text = some s) :
    s.IsTable ∧ Formed False s := by
  simp only [parse] at h
  obtain ⟨entries, hentries, rfl⟩ := Option.map_eq_some_iff.mp h
  exact ⟨Setting.isTable_table _,
    Node.formsTable_iff.mp (readLines_formed formsTable_nil hentries)⟩

end Toml

namespace Environment

/-! ## Variables -/

/-- A word without quotes is formed, whatever it stands for. -/
theorem bareWord_formed (word : String) : Formed False (bareWord word) := by
  rw [bareWord]
  split
  · exact .real _
  · split
    · split
      · exact .whole _
      · exact .text word
    · exact .text word

/-- What is read between the marks of a list or of a table is what its items are read as. -/
theorem readItems_forall {α : Type} {P : α → Prop} {readItem : List Char → Toml.Reading α}
    (hread : ∀ cs item rest, readItem cs = some (item, rest) → P item) {close : Char}
    {rounds : Nat} {done items : List α} {cs rest : List Char} (hdone : ∀ item ∈ done, P item)
    (h : readItems readItem close rounds done cs = some (items, rest)) :
    ∀ item ∈ items, P item := by
  induction rounds generalizing done cs with
  | zero => cases h
  | succ rounds ih =>
    simp only [readItems] at h
    split at h
    · cases h
      exact fun item hitem => hdone item (List.mem_reverse.mp hitem)
    split at h
    · cases h
    next item _ hitem =>
    have hmore : ∀ other ∈ item :: done, P other :=
      List.forall_mem_cons.mpr ⟨hread _ _ _ hitem, hdone⟩
    split at h
    · exact ih hmore h
    · split at h
      · cases h
        exact fun other hother => hmore other (List.mem_reverse.mp hother)
      · cases h

/-- An entry of a variable is formed if its value is. -/
theorem readEntry_tells {readItem : List Char → Toml.Reading Setting} (hread : Toml.Tells readItem)
    (cs : List Char) (entry : String × Setting) (rest : List Char)
    (h : readEntry readItem cs = some (entry, rest)) : Formed False entry.2 := by
  rw [readEntry] at h
  split at h
  · cases h
  · split at h
    · obtain ⟨⟨value, rest⟩, hvalue, heq⟩ := Option.map_eq_some_iff.mp h
      cases heq
      exact hread _ _ _ hvalue
    · cases h

/-- A value of a variable is formed, at any depth. -/
theorem readValue_tells (depth : Nat) : Toml.Tells (readValue depth) := by
  induction depth with
  | zero => exact fun _ _ _ h => by cases h
  | succ depth ih =>
    intro cs v rest h
    simp only [readValue] at h
    obtain ⟨⟨value, rest⟩, hread, heq⟩ := Option.map_eq_some_iff.mp h
    obtain rfl : value = v := (Prod.mk.inj heq).1
    split at hread
    · cases hread
      exact .flag true
    · cases hread
      exact .flag false
    · obtain ⟨⟨entries, rest⟩, hentries, heq⟩ := Option.map_eq_some_iff.mp hread
      cases heq
      exact formed_tableOf (readItems_forall (readEntry_tells ih)
        (fun _ hitem => absurd hitem List.not_mem_nil) hentries)
    · obtain ⟨⟨items, rest⟩, hitems, heq⟩ := Option.map_eq_some_iff.mp hread
      cases heq
      exact .list (readItems_forall ih (fun _ hitem => absurd hitem List.not_mem_nil) hitems)
    · obtain ⟨_, _, heq⟩ := Option.map_eq_some_iff.mp hread
      cases heq
      exact .text _
    · cases hread
      exact .text _
    · cases hread
    · obtain ⟨rfl, -⟩ := Prod.mk.inj (Option.some.inj hread)
      exact bareWord_formed _

/-- The whole text of a variable stands for something formed. -/
theorem settingOf_formed (text : String) : Formed False (settingOf text) := by
  rw [settingOf]
  split
  · next hread => exact readValue_tells _ _ _ _ hread
  · exact .text text

/-- A variable that sets something sets a key. -/
theorem keys?_ne_nil {name : String} {keys : List String} (h : keys? name = some keys) :
    keys ≠ [] := by
  simp only [keys?] at h
  split at h
  · split at h
    · cases h
    · obtain rfl := Option.some.inj h
      exact fun hnil => Text.splitChars_ne_nil _ _ (List.map_eq_nil_iff.mp hnil)
  · cases h

/-- A formed value is formed below keys as well. -/
theorem nest_formed {v : Setting} (hv : Formed False v) (keys : List String) :
    Formed False (Setting.nest keys v) := by
  induction keys with
  | nil => exact hv
  | cons key keys ih =>
    exact .table (List.pairwise_singleton _ _) (List.forall_mem_singleton.mpr ih)

/-- Below one key at least everything is a table. -/
theorem isTable_nest {keys : List String} (h : keys ≠ []) (v : Setting) :
    (Setting.nest keys v).IsTable := by
  obtain ⟨key, keys, rfl⟩ := List.exists_cons_of_ne_nil h
  exact Setting.isTable_table _

/-- The variables make a table. -/
theorem layer_formed (env : Environment) : (layer env).IsTable ∧ Formed False (layer env) := by
  rw [layer]
  -- by the variable that is read last
  induction env.entries using List.reverseRecOn with
  | nil => exact ⟨Setting.isTable_table [], formed_empty⟩
  | append_singleton entries entry ih =>
    obtain ⟨name, text⟩ := entry
    obtain ⟨htable, hformed⟩ := ih
    cases hkeys : keys? name with
    | none =>
      simp only [List.foldl_append, List.foldl_cons, List.foldl_nil, hkeys]
      exact ⟨htable, hformed⟩
    | some keys =>
      simp only [List.foldl_append, List.foldl_cons, List.foldl_nil, hkeys]
      exact ⟨Setting.isTable_merge (isTable_nest (keys?_ne_nil hkeys) _),
        hformed.merge (nest_formed (settingOf_formed text) keys)⟩

end Environment

end RequestDispatch
