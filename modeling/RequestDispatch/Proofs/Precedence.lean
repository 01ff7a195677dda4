import RequestDispatch.Config.Sources
import RequestDispatch.Proofs.ConfigKeys
import RequestDispatch.Proofs.Parsed

/-!
# Which source a setting comes from

Every key of a loaded configuration has the value of the highest layer that sets it, and the levels
of modules are those of all layers together. `ConfigSources.load_layered` says so, and which files
make layers: the base file of the first directory that has one and the overlay beside it, or the
file that is asked for.
-/

namespace RequestDispatch

namespace Except

variable {ε α β : Type}

theorem bind_eq_ok {r : Except ε α} {f : α → Except ε β} {b : β} :
    r.bind f = .ok b ↔ ∃ a, r = .ok a ∧ f a = .ok b := by
  cases r with
  | error e => simp [Except.bind]
  | ok a => simp [Except.bind]

theorem map_eq_ok {r : Except ε α} {f : α → β} {b : β} :
    r.map f = .ok b ↔ ∃ a, r = .ok a ∧ f a = b := by
  cases r with
  | error e => simp [Except.map]
  | ok a => simp [Except.map]

end Except

namespace Config

open Setting

/-! ## Layers that make a configuration -/

/-- What sources make: a table, in which only the log file may be set to nothing. -/
structure IsLayer (layer : Setting) : Prop where
  table : layer.IsTable
  formed : Formed True layer
  said : ∀ keys ∈ ["logging", "filters"] :: valueKeys, ∀ v, layer.at? keys = some v →
    Formed (keys = ["logging", "file_path"]) v

/-- A formed table has the layout of a layer. -/
theorem isLayer_of_formed {layer : Setting} (table : layer.IsTable) (formed : Formed False layer) :
    IsLayer layer where
  table := table
  formed := formed.mono False.elim
  said _ _ _ hv := (formed.at? hv).mono False.elim

/-- The setting of a configuration is a layer. -/
theorem setting_isLayer (c : Config) : IsLayer c.setting where
  table := isTable_table _
  formed := setting_formed c
  said keys hkeys v hv := by
    rcases List.mem_cons.mp hkeys with rfl | hkeys
    · obtain rfl := Option.some.inj ((at?_setting_filters c).symm.trans hv)
      exact (filtersSetting_formed _).mono False.elim
    · obtain ⟨w, hw, hsingle⟩ := c.exists_at?_setting hkeys
      obtain rfl := Option.some.inj (hw.symm.trans hv)
      exact hsingle.formed

/-- A layer has nothing but tables at the keys that lead to tables. -/
def KeepsTables (layer : Setting) : Prop :=
  ∀ keys ∈ tableKeys, ∀ v, layer.at? keys = some v → v.IsTable

/-- The last key of a way to a value stands in a table. -/
theorem exists_way_of_mem_valueKeys {keys : List String}
    (h : keys ∈ ["logging", "filters"] :: valueKeys) :
    ∃ way ∈ tableKeys, ∃ key, keys = way ++ [key] := by
  simp only [valueKeys, List.mem_cons, List.mem_append, List.mem_map] at h
  rcases h with rfl | ((⟨key, -, rfl⟩ | ⟨key, -, rfl⟩) | ⟨key, -, rfl⟩) | ⟨key, -, rfl⟩
  · exact ⟨["logging"], by decide, "filters", rfl⟩
  · exact ⟨["dispatch"], by decide, key, rfl⟩
  · exact ⟨["logging"], by decide, key, rfl⟩
  · exact ⟨["logging", "span_events"], by decide, key, rfl⟩
  · exact ⟨["observability"], by decide, key, rfl⟩

instance (layer : Setting) : Decidable (KeepsTables layer) :=
  inferInstanceAs (Decidable (∀ keys ∈ tableKeys, ∀ v ∈ layer.at? keys, v.IsTable))

/-- A layer that keeps tables passes every path to a setting. -/
theorem KeepsTables.passes {layer : Setting} (keeps : KeepsTables layer) (table : layer.IsTable)
    {way : List String} (hway : way ∈ tableKeys) (key : String) : Passes (way ++ [key]) layer := by
  have hempty : Passes [] layer := trivial
  have hroot (first : String) : Passes [first] layer :=
    hempty.concat (fun v hv => Option.some.inj hv ▸ table) first
  refine Passes.concat ?_ (keeps way hway) key
  simp only [tableKeys, List.mem_cons, List.not_mem_nil, or_false] at hway
  rcases hway with rfl | rfl | rfl | rfl | rfl
  · exact hroot "dispatch"
  · exact hroot "logging"
  · exact (hroot "logging").concat (keeps ["logging"] (by decide)) "filters"
  · exact (hroot "logging").concat (keeps ["logging"] (by decide)) "span_events"
  · exact hroot "observability"

section Merged

variable {layers : List Setting} {c : Config}

/-- Merged layers have at a key in a table what they have there, merged. -/
theorem at?_merged (isLayer : ∀ layer ∈ layers, IsLayer layer)
    (keeps : ∀ layer ∈ layers, KeepsTables layer) {way : List String} (hway : way ∈ tableKeys)
    (key : String) : (layers.foldl merge (.table [])).at? (way ++ [key]) =
      overlay (layers.map (at? (way ++ [key]))) :=
  (at?_foldl_merge (by simp) (fun layer hlayer => (isLayer layer hlayer).formed)
    fun layer hlayer => (keeps layer hlayer).passes (isLayer layer hlayer).table hway key).1

/-- A configuration that is read from merged layers has what lies there at the key of a single value
or a list, and for the levels of modules. -/
theorem at?_of_merged (h : ofSetting? (layers.foldl merge (.table [])) = some c)
    (isLayer : ∀ layer ∈ layers, IsLayer layer) (keeps : ∀ layer ∈ layers, KeepsTables layer)
    {keys : List String} (hkeys : keys ∈ ["logging", "filters"] :: valueKeys)
    (hset : ∃ layer ∈ layers, (layer.at? keys).isSome) :
    c.setting.at? keys = overlay (layers.map (at? keys)) := by
  obtain ⟨way, hway, key, rfl⟩ := exists_way_of_mem_valueKeys hkeys
  have hmerged := at?_merged isLayer keeps hway key
  obtain ⟨layer, hlayer, hsome⟩ := hset
  obtain ⟨v, hv⟩ := Option.isSome_iff_exists.mp
    (isSome_overlay ⟨layer.at? (way ++ [key]), List.mem_map.mpr ⟨layer, hlayer, rfl⟩, hsome⟩)
  have formed : Formed ((way ++ [key]) = ["logging", "file_path"]) v := by
    refine formed_overlay (fun value hvalue w hw => ?_) v hv
    obtain ⟨other, hother, rfl⟩ := List.mem_map.mp hvalue
    exact (isLayer other hother).said _ hkeys w hw
  rw [hv]
  exact at?_of_read h hkeys (hmerged.trans hv) formed

/-- It has the value of the highest layer at the key of a single value or a list. -/
theorem at?_eq_highest? (h : ofSetting? (layers.foldl merge (.table [])) = some c)
    (isLayer : ∀ layer ∈ layers, IsLayer layer) (keeps : ∀ layer ∈ layers, KeepsTables layer)
    {keys : List String} (hkeys : keys ∈ valueKeys)
    (hset : ∃ layer ∈ layers, (layer.at? keys).isSome) :
    c.setting.at? keys = highest? layers keys := by
  have hoverlay := at?_of_merged h isLayer keeps (List.mem_cons_of_mem _ hkeys) hset
  obtain ⟨w, hw, hsingle⟩ := c.exists_at?_setting hkeys
  rw [hoverlay]
  refine overlay_eq_highest? layers keys fun v hv => ?_
  obtain rfl := Option.some.inj (hw.symm.trans (hoverlay.trans hv))
  exact hsingle.single

/-- It has for each module the level of the highest layer that has one for it. -/
theorem filter_eq_highest? (h : ofSetting? (layers.foldl merge (.table [])) = some c)
    (isLayer : ∀ layer ∈ layers, IsLayer layer) (keeps : ∀ layer ∈ layers, KeepsTables layer)
    (hset : ∃ layer ∈ layers, (layer.at? ["logging", "filters"]).isSome) (target : String) :
    c.setting.at? ["logging", "filters", target] =
      highest? layers ["logging", "filters", target] := by
  have hfilters : c.setting.at? ["logging", "filters"] =
      (layers.foldl merge (.table [])).at? ["logging", "filters"] := by
    have hlogging : ["logging"] ∈ tableKeys := by decide
    rw [at?_of_merged h isLayer keeps List.mem_cons_self hset]
    exact (at?_merged isLayer keeps hlogging "filters").symm
  have hway : ["logging", "filters", target] = ["logging", "filters"] ++ [target] := rfl
  have hoverlay : c.setting.at? ["logging", "filters", target] =
      overlay (layers.map (at? ["logging", "filters", target])) := by
    have htable : ["logging", "filters"] ∈ tableKeys := by decide
    have hmerged := at?_merged isLayer keeps htable target
    rw [hway, at?_append, hfilters, ← at?_append, hmerged]
  rw [hoverlay]
  refine overlay_eq_highest? layers _ fun v hv => ?_
  rw [← hoverlay, at?_setting_filter, Option.map_eq_some_iff] at hv
  obtain ⟨level, -, rfl⟩ := hv
  exact (isSingle_text True level.name).single

end Merged

end Config

namespace ConfigSources

/-! ## Files -/

/-- A file is asked for by the caller, or else by a variable, unless the environment is left out. -/
inductive Names (s : ConfigSources) (host : Host) : String → Prop where
  | asked {path : String} (h : s.file? = some path) : Names s host path
  | byVariable {path : String} (unasked : s.file? = none) (enabled : s.environment)
      (h : host.environment.get? "CONDUIT_CONFIG" = some path) : Names s host path

/-- The explicit file is the one that is named. -/
theorem explicitFile?_eq_some {s : ConfigSources} {host : Host} {path : String} :
    s.explicitFile? host = some path ↔ s.Names host path := by
  rw [explicitFile?]
  cases hfile : s.file? with
  | some file =>
    constructor
    · intro h
      exact .asked (hfile.trans h)
    · rintro (h | ⟨unasked, -, -⟩)
      · rw [← h, hfile]
        rfl
      · cases hfile.symm.trans unasked
  | none =>
    constructor
    · intro h
      by_cases henabled : s.environment
      · exact .byVariable hfile henabled (by simpa [henabled] using h)
      · simp [henabled] at h
    · rintro (h | ⟨-, enabled, h⟩)
      · cases hfile.symm.trans h
      · simpa [enabled] using h

/-- The base file of a directory. -/
def baseFile (dir : String) : String := FilePath.join dir "conduit.toml"

/-- The overlay of a profile beside a base file. -/
def overlayFile (profile : Profile) (dir : String) : String :=
  FilePath.join dir ("conduit." ++ profile.name ++ ".toml")

/-- The files that make layers, the lowest one first. -/
inductive Chooses (s : ConfigSources) (host : Host) : List String → Prop where
  /-- A file that is asked for must be there and takes the place of all others. -/
  | named {path : String} (named : s.Names host path) (found : host.files.exists? path) :
      Chooses s host [path]
  /-- The first directory that has a base file has no overlay beside it. -/
  | base {dir : String} {before after : List String} (unnamed : ∀ path, ¬ s.Names host path)
      (dirs : s.directories host = before ++ dir :: after)
      (first : ∀ other ∈ before, ¬ host.files.exists? (baseFile other))
      (found : host.files.exists? (baseFile dir))
      (alone : ¬ host.files.exists? (overlayFile (s.profile host) dir)) :
      Chooses s host [baseFile dir]
  /-- It has one. -/
  | overlaid {dir : String} {before after : List String} (unnamed : ∀ path, ¬ s.Names host path)
      (dirs : s.directories host = before ++ dir :: after)
      (first : ∀ other ∈ before, ¬ host.files.exists? (baseFile other))
      (found : host.files.exists? (baseFile dir))
      (beside : host.files.exists? (overlayFile (s.profile host) dir)) :
      Chooses s host [baseFile dir, overlayFile (s.profile host) dir]
  /-- No directory has a base file. -/
  | nothing (unnamed : ∀ path, ¬ s.Names host path)
      (nowhere : ∀ dir ∈ s.directories host, ¬ host.files.exists? (baseFile dir)) :
      Chooses s host []

/-- Layers are made by the given files. -/
def Reads (files : FileSystem) (paths : List String) (layers : List Setting) : Prop :=
  List.Forall₂ (fun path layer => fileLayer files path = .ok layer) paths layers

theorem layersIn_eq (files : FileSystem) (profile : Profile) (dir : String) :
    layersIn files profile dir = (fileLayer files (baseFile dir)).bind fun base =>
      if files.exists? (overlayFile profile dir) then
        (fileLayer files (overlayFile profile dir)).bind fun overlay => .ok [base, overlay]
      else .ok [base] := rfl

/-- The files of a directory are read, the overlay over the base. -/
theorem layersIn_reads {files : FileSystem} {profile : Profile} {dir : String}
    {layers : List Setting} (h : layersIn files profile dir = .ok layers) :
    if files.exists? (overlayFile profile dir) then
      Reads files [baseFile dir, overlayFile profile dir] layers
    else Reads files [baseFile dir] layers := by
  rw [layersIn_eq] at h
  obtain ⟨base, hbase, h⟩ := Except.bind_eq_ok.mp h
  split
  · next hbeside =>
    rw [if_pos hbeside] at h
    obtain ⟨overlay, hoverlay, h⟩ := Except.bind_eq_ok.mp h
    cases h
    exact .cons hbase (.cons hoverlay .nil)
  · next halone =>
    rw [if_neg halone] at h
    cases h
    exact .cons hbase .nil

/-- The layers of files come from the files that are chosen. -/
theorem fileLayers_chooses {s : ConfigSources} {host : Host} {layers : List Setting}
    (h : s.fileLayers host = .ok layers) :
    ∃ paths, s.Chooses host paths ∧ Reads host.files paths layers := by
  rw [fileLayers] at h
  split at h
  -- a file that is named explicitly is the only one
  · next path hpath =>
    split at h
    · next hfound =>
      simp only at h
      split at h
      · obtain ⟨layer, hlayer, rfl⟩ := Except.map_eq_ok.mp h
        exact ⟨[path], .named (explicitFile?_eq_some.mp hpath) hfound, .cons hlayer .nil⟩
      · cases h
    · cases h
  -- else the files are those of the first directory that has one
  · next hpath =>
    have unnamed (path : String) : ¬ s.Names host path := fun hnames => by
      rw [explicitFile?_eq_some.mpr hnames] at hpath
      cases hpath
    split at h
    · next dir hdir =>
      obtain ⟨hfound, before, after, hdirs, hfirst⟩ := List.find?_eq_some_iff_append.mp hdir
      have first (other : String) (hother : other ∈ before) :
          ¬ host.files.exists? (baseFile other) := by simpa [baseFile] using hfirst other hother
      have hreads := layersIn_reads h
      split at hreads
      · next hbeside => exact ⟨_, .overlaid unnamed hdirs first hfound hbeside, hreads⟩
      · next halone => exact ⟨_, .base unnamed hdirs first hfound halone, hreads⟩
    · next hdir =>
      cases h
      exact ⟨[], .nothing unnamed (by simpa [baseFile] using hdir), .nil⟩

/-! ## Loading -/

/-- Every file is a layer. -/
theorem fileLayer_isLayer {files : FileSystem} {path : String} {layer : Setting}
    (h : fileLayer files path = .ok layer) : Config.IsLayer layer := by
  rw [fileLayer] at h
  split at h
  · cases h
    exact Config.isLayer_of_formed (Setting.isTable_table []) Setting.formed_empty
  · split at h
    · next hparse =>
      cases h
      obtain ⟨text, -, hparse⟩ := Option.bind_eq_some_iff.mp hparse
      obtain ⟨table, formed⟩ := Toml.parse_formed hparse
      exact Config.isLayer_of_formed table formed
    · cases h

/-- All files that are read are layers. -/
theorem Reads.isLayer {files : FileSystem} {paths : List String} {layers : List Setting}
    (h : Reads files paths layers) : ∀ layer ∈ layers, Config.IsLayer layer := by
  induction h with
  | nil => exact fun _ hlayer => absurd hlayer List.not_mem_nil
  | cons hpath _ ih => exact List.forall_mem_cons.mpr ⟨fileLayer_isLayer hpath, ih⟩

/-- The layers with those of files among them: the standard values, the files, the environment, and
the configurations that were added, the lowest one first. -/
def stack (s : ConfigSources) (host : Host) (files : List Setting) : List Setting :=
  [Config.setting {}] ++ files ++
    (if s.environment then [Environment.layer host.environment] else []) ++
    s.upper.map Config.setting

/-- The layers are the files that are chosen, with all else put below and above them. -/
theorem layers_eq (s : ConfigSources) (host : Host) :
    s.layers host = (s.fileLayers host).map (s.stack host) := by
  rw [layers]
  cases s.fileLayers host <;> rfl

/-- Loading reads all layers put over each other. -/
theorem load_eq (s : ConfigSources) (host : Host) :
    s.load host = (s.fileLayers host).bind fun files =>
      match Config.ofSetting? ((s.stack host files).foldl Setting.merge (.table [])) with
      | some c => .ok c
      | none => .error .unreadable := by
  rw [load, layers_eq]
  cases s.fileLayers host <;> rfl

/-- A configuration is read from the merged layers. -/
theorem load_eq_ok {s : ConfigSources} {host : Host} {c : Config} (h : s.load host = .ok c) :
    ∃ files, s.fileLayers host = .ok files ∧
      Config.ofSetting? ((s.stack host files).foldl Setting.merge (.table [])) = some c := by
  rw [load_eq] at h
  obtain ⟨files, hfiles, h⟩ := Except.bind_eq_ok.mp h
  refine ⟨files, hfiles, ?_⟩
  split at h
  · next hread =>
    cases h
    exact hread
  · cases h

/-- Everything that is put over each other is a layer. -/
theorem stack_isLayer (s : ConfigSources) (host : Host) {files : List Setting}
    (hfiles : ∀ layer ∈ files, Config.IsLayer layer) :
    ∀ layer ∈ s.stack host files, Config.IsLayer layer := by
  intro layer hlayer
  simp only [stack, List.mem_append, List.mem_singleton, List.mem_map] at hlayer
  rcases hlayer with ((rfl | hlayer) | hlayer) | ⟨upper, hupper, rfl⟩
  · exact Config.setting_isLayer {}
  · exact hfiles layer hlayer
  · split at hlayer
    · obtain rfl := List.mem_singleton.mp hlayer
      obtain ⟨table, formed⟩ := Environment.layer_formed host.environment
      exact Config.isLayer_of_formed table formed
    · cases hlayer
  · exact upper.setting_isLayer

/-! ## Without the environment -/

/-- The name of a variable that is meant for the configuration. -/
def IsOwn (name : String) : Prop :=
  Text.startsWith (Text.lowerAscii (Text.trim name)) "conduit_"

instance (name : String) : Decidable (IsOwn name) := inferInstanceAs (Decidable (_ = true))

/-- Two machines that differ in no more than variables meant for the configuration. -/
structure Alike (host other : Host) : Prop where
  files : other.files = host.files
  environment : ∀ name, ¬ IsOwn name →
    other.environment.get? name = host.environment.get? name

/-- The user's directory depends on no variable that is meant for the configuration. -/
theorem Alike.userDir? {host other : Host} (h : Alike host other) :
    other.userDir? = host.userDir? := by
  rw [Host.userDir?, Host.userDir?, h.environment "XDG_CONFIG_HOME" (by decide),
    h.environment "HOME" (by decide)]

/-- Files are chosen without the environment where it is left out. -/
theorem fileLayers_alike {s : ConfigSources} {host other : Host} (hleft : s.environment = false)
    (h : Alike host other) (hprofile : s.profile other = s.profile host) :
    s.fileLayers other = s.fileLayers host := by
  have hexplicit : s.explicitFile? other = s.explicitFile? host := by
    rw [explicitFile?, explicitFile?, hleft]
    rfl
  have hdirs : s.directories other = s.directories host := by
    rw [directories, directories, h.userDir?, Host.currentDir, Host.currentDir, h.files]
  rw [fileLayers, fileLayers, hexplicit, hdirs, hprofile, h.files]

/-- With the environment left out a configuration does not depend on variables that are meant for
it, but for the one that selects the profile. -/
theorem load_alike {s : ConfigSources} {host other : Host} (hleft : s.environment = false)
    (h : Alike host other) (hprofile : s.profile other = s.profile host) :
    s.load other = s.load host := by
  have hstack : s.stack other = s.stack host := by
    funext files
    rw [stack, stack, hleft]
    rfl
  rw [load_eq, load_eq, fileLayers_alike hleft h hprofile, hstack]

/-! ## Where a configuration comes from -/

/-- Where a configuration comes from. -/
structure Layered (s : ConfigSources) (host : Host) (c : Config) (paths : List String)
    (files : List Setting) : Prop where
  /-- The files are chosen in one of the ways there are. -/
  chosen : s.Chooses host paths
  read : Reads host.files paths files
  layers : s.layers host = .ok (s.stack host files)
  /-- A key with a single value or a list has the value of the highest layer that sets it. -/
  value : ∀ keys ∈ Config.valueKeys, ∃ v,
    Setting.highest? (s.stack host files) keys = some v ∧ c.setting.at? keys = some v
  /-- There are no other keys of single values and lists, but those of the levels of modules. -/
  nowhereElse : ∀ keys v, c.setting.at? keys = some v → ¬ v.IsTable →
    keys ∈ Config.valueKeys ∨ ∃ target, keys = ["logging", "filters", target]
  /-- The levels of modules are those of all layers, each module's of the highest that has it. -/
  filters : ∀ target, c.setting.at? ["logging", "filters", target] =
    Setting.highest? (s.stack host files) ["logging", "filters", target]
  /-- A configuration that was added sets every key. -/
  complete : ∀ upper ∈ s.upper, ∀ keys ∈ Config.valueKeys, (upper.setting.at? keys).isSome
  /-- With the environment left out only the profile depends on variables for the configuration. -/
  independent : s.environment = false → ∀ other : Host, Alike host other →
    s.profile other = s.profile host → s.load other = .ok c

/-- Every configuration that is loaded comes from its layers, as long as no layer has anything but a
table where a table belongs. -/
theorem load_layered (s : ConfigSources) (host : Host) {c : Config} (h : s.load host = .ok c)
    (tables : ∀ layers, s.layers host = .ok layers →
      ∀ layer ∈ layers, Config.KeepsTables layer) :
    ∃ paths files, s.Layered host c paths files := by
  obtain ⟨files, hfiles, hread⟩ := load_eq_ok h
  obtain ⟨paths, chosen, read⟩ := fileLayers_chooses hfiles
  have hlayers : s.layers host = .ok (s.stack host files) := by
    rw [layers_eq, hfiles]
    rfl
  have isLayer := s.stack_isLayer host read.isLayer
  have keeps := tables _ hlayers
  have hstandard : Config.setting {} ∈ s.stack host files := by simp [stack]
  refine ⟨paths, files, chosen, read, hlayers, fun keys hkeys => ?_,
    fun _ _ => c.mem_valueKeys_of_at?, fun target => ?_, ?_, ?_⟩
  · obtain ⟨v, hv, -⟩ := c.exists_at?_setting hkeys
    obtain ⟨w, hw, -⟩ := Config.exists_at?_setting {} hkeys
    have hset : ∃ layer ∈ s.stack host files, (layer.at? keys).isSome :=
      ⟨_, hstandard, Option.isSome_iff_exists.mpr ⟨w, hw⟩⟩
    exact ⟨v, (Config.at?_eq_highest? hread isLayer keeps hkeys hset).symm.trans hv, hv⟩
  · exact Config.filter_eq_highest? hread isLayer keeps ⟨_, hstandard, rfl⟩ target
  · intro upper _ keys hkeys
    obtain ⟨v, hv, -⟩ := upper.exists_at?_setting hkeys
    rw [hv]
    rfl
  · exact fun hleft other halike hprofile => (load_alike hleft halike hprofile).trans h

/-- A machine with a base file, the overlay of a profile beside it and a variable. -/
def productionHost : Host where
  files :=
    { entries :=
        [(["etc", "conduit.toml"],
            .file (Utf8.encode "[logging.filters]\na = \"warn\"\nb = \"warn\"\n")),
         (["etc", "conduit.production.toml"],
            .file (Utf8.encode "[logging.filters]\nb = \"debug\"\n"))]
      current := [] }
  environment := .ofList [("CONDUIT_LOGGING__FILTERS__C", "trace")]

/-- Sources with a configuration over all other layers, which sets one module's level. -/
def productionSources : ConfigSources where
  profile? := some .production
  search := ["/opt", "/etc"]
  upper := [{ logging := { level := .error, filters := .ofList [("a", .error)] } }]

/-- Of the levels of modules one comes from each layer. -/
theorem production_load_layered :
    let c : Config :=
      { logging :=
          { level := .error
            filters := .ofList [("a", .error), ("b", .debug), ("c", .trace)] } }
    productionSources.load productionHost = .ok c ∧
      ∃ paths files, productionSources.Layered productionHost c paths files := by
  intro c
  have h : productionSources.load productionHost = .ok c := by decide +kernel
  have keeps : ((productionSources.layers productionHost).toOption.getD []).all
      (fun layer => decide (Config.KeepsTables layer)) := by decide +kernel
  refine ⟨h, load_layered productionSources productionHost h fun layers hlayers layer hlayer => ?_⟩
  rw [hlayers] at keeps
  exact of_decide_eq_true (List.all_eq_true.mp keeps layer hlayer)

end ConfigSources

end RequestDispatch
