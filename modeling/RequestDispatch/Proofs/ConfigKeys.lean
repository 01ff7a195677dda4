import RequestDispatch.Config.Reading
import RequestDispatch.Proofs.Layers

/-!
# Keys of a configuration

A configuration that is read from a setting has at each of its keys what the setting has there,
written the same way. So the value at a key can be followed from the configuration back to the
setting: `Config.at?_of_read` does it for all keys but those of tables.
-/

namespace RequestDispatch

namespace Setting

/-- A path of keys is followed in two parts. -/
theorem at?_append (before after : List String) (s : Setting) :
    at? (before ++ after) s = (at? before s).bind (at? after) := by
  rw [at?, List.foldlM_append]
  rfl

theorem get?_of_at? {entries : List (String × Setting)} {key : String} {v : Setting}
    (h : at? [key] (.table entries) = some v) : Entries.get? entries key = some v := by
  simpa [at?_cons, Option.bind_eq_some_iff] using h

/-- The first key of a way leads on in a table. -/
theorem exists_of_at?_cons {key : String} {keys : List String} {s v : Setting}
    (h : at? (key :: keys) s = some v) : ∃ entries inner,
      s = .table entries ∧ Entries.get? entries key = some inner ∧ at? keys inner = some v := by
  obtain ⟨entries, rfl⟩ := isTable_of_at? h
  obtain ⟨inner, hinner, hv⟩ := Option.bind_eq_some_iff.mp h
  exact ⟨entries, inner, rfl, hinner, hv⟩

/-! ## What readers take -/

/-- A switch is read from itself only. -/
theorem readFlag_eq_some {s : Setting} {b : Bool} (h : readFlag s = some b) : s = .flag b := by
  cases s with
  | flag value =>
    cases h
    rfl
  | absent | whole | real | text | list | table => cases h

/-- A text is read from itself only. -/
theorem readText_eq_some {s : Setting} {t : String} (h : readText s = some t) : s = .text t := by
  cases s with
  | text text =>
    cases h
    rfl
  | absent | whole | real | flag | list | table => cases h

/-- An optional text is read from a text or from nothing. -/
theorem readTextOrAbsent_eq_some {s : Setting} {t : Option String}
    (h : readTextOrAbsent s = some t) : s = (t.map Setting.text).getD .absent := by
  cases s with
  | absent | text =>
    cases h
    rfl
  | whole | real | flag | list | table => cases h

/-- A count is read from its number only. -/
theorem readCount_eq_some {s : Setting} {n : Nat} (h : readCount s = some n) : s = .whole n := by
  cases s with
  | whole value =>
    simp only [readCount] at h
    split at h
    · next hrange =>
      cases h
      rw [Int.toNat_of_nonneg hrange.1]
    · cases h
  | absent | text | real | flag | list | table => cases h

/-- What is read item by item is known from what is read. -/
theorem eq_map_of_mapM {α β : Type} {read : α → Option β} {write : β → α} {items : List α}
    {values : List β} (hread : ∀ item ∈ items, ∀ value, read item = some value → item = write value)
    (h : items.mapM read = some values) : items = values.map write := by
  induction items generalizing values with
  | nil =>
    cases h
    rfl
  | cons item items ih =>
    simp only [List.mapM_cons, Option.bind_eq_bind, Option.bind_eq_some_iff] at h
    obtain ⟨value, hvalue, others, hothers, heq⟩ := h
    cases heq
    rw [List.map_cons, ← hread item List.mem_cons_self value hvalue,
      ← ih (fun other hother => hread other (List.mem_cons_of_mem _ hother)) hothers]

/-- Texts are read from a list of them. -/
theorem readTexts_eq_some {s : Setting} {texts : List String} (h : readTexts s = some texts) :
    s = .list (texts.map Setting.text) := by
  cases s with
  | list items => rw [eq_map_of_mapM (fun _ _ _ => readText_eq_some) h]
  | absent | text | real | flag | whole | table => cases h

/-- One of several values is written as its name, as long as nothing stands for nothing. -/
theorem readChoice_eq_some {α : Type} {all : List α} {name : α → String} {s : Setting} {a : α}
    (formed : Formed False s) (h : readChoice all name s = some a) : s = .text (name a) := by
  rw [readChoice.eq_def] at h
  split at h
  · have hname := List.find?_some h
    rw [beq_iff_eq.mp hname]
  · cases formed with
    | table _ values => cases values _ (List.mem_singleton_self _) with
      | absent h => exact h.elim
  · cases h

/-- The levels of targets are read from a table of their names, in the order of the table. -/
theorem readLevels_eq_some {s : Setting} {levels : Fields LogLevel} (formed : Formed False s)
    (h : readLevels s = some levels) :
    s = .table (levels.map fun level => .text level.name).entries := by
  cases s with
  | table entries =>
    cases formed with
    | table keys values =>
      obtain ⟨read, hread, rfl⟩ := Option.map_eq_some_iff.mp h
      have hentries : entries = read.map fun entry => (entry.1, .text entry.2.name) := by
        refine eq_map_of_mapM (fun entry hentry found hfound => ?_) hread
        obtain ⟨level, hlevel, rfl⟩ := Option.map_eq_some_iff.mp hfound
        exact congrArg (Prod.mk entry.1) (readChoice_eq_some (values _ hentry) hlevel)
      -- the levels stand in the order of the table
      have hkeys : Entries.Ascending read := by
        rw [hentries] at keys
        exact Entries.Ascending.of_map (f := fun level => text (LogLevel.name level)) keys
      rw [hentries, Fields.entries_map, Fields.entries_ofList, Entries.ofList_of_ascending hkeys]
  | absent | text | real | flag | whole | list => cases h

/-- A key that is there is read, and the standard value does not matter. -/
theorem readAt_of_get? {α : Type} {values : List (String × Setting)} {key : String} {v : Setting}
    (h : Entries.get? values key = some v) (standard : α) (read : Setting → Option α) :
    readAt values key standard read = read v := by
  rw [Entries.get?] at h
  rw [readAt, h]

/-- A value that is there is known from what is read at its key. -/
theorem eq_of_readAt {α : Type} {values : List (String × Setting)} {key : String} {v : Setting}
    (h : Entries.get? values key = some v) {standard value : α} {read : Setting → Option α}
    (hvalue : readAt values key standard read = some value) {written : Setting}
    (hread : read v = some value → v = written) : v = written := by
  rw [readAt_of_get? h] at hvalue
  exact hread hvalue

end Setting

namespace Config

open Setting

/-! ## Keys -/

/-- The keys that lead to tables. -/
def tableKeys : List (List String) :=
  [["dispatch"], ["logging"], ["logging", "filters"], ["logging", "span_events"],
    ["observability"]]

def Dispatch.keys : List String := ["max_dependency_depth", "media_types"]

def Logging.keys : List String :=
  ["file_location", "file_path", "format", "level", "output", "rotation", "thread_ids"]

def spanEventsKeys : List String := ["close", "enter", "exit", "new"]

def Observability.keys : List String := ["enabled", "span_prefix"]

/-- The keys that lead to single values and lists, but for the levels of modules. -/
def valueKeys : List (List String) :=
  Dispatch.keys.map (["dispatch", ·]) ++ Logging.keys.map (["logging", ·]) ++
    spanEventsKeys.map (["logging", "span_events", ·]) ++
    Observability.keys.map (["observability", ·])

/-! ## Reading -/

/-- Every key of the dispatch section is read back as it was written. -/
theorem Dispatch.at?_of_read {surplus : Bool} {s v : Setting} {d : Dispatch} {key : String}
    (h : Dispatch.read surplus s = some d) (hkey : key ∈ Dispatch.keys)
    (hv : s.at? [key] = some v) : d.setting.at? [key] = some v := by
  obtain ⟨entries, rfl⟩ := isTable_of_at? hv
  have hget := get?_of_at? hv
  simp only [Dispatch.read, record?, Option.bind_eq_bind, Option.bind_some,
    Option.bind_eq_some_iff] at h
  obtain ⟨depth, hdepth, types, htypes, hd⟩ := h
  cases hd
  simp only [keys, List.mem_cons, List.not_mem_nil, or_false] at hkey
  rcases hkey with rfl | rfl
  · rw [eq_of_readAt hget hdepth readCount_eq_some]
    rfl
  · rw [eq_of_readAt hget htypes readTexts_eq_some]
    rfl

/-- Every key of the observability section is read back as it was written. -/
theorem Observability.at?_of_read {surplus : Bool} {s v : Setting} {o : Observability}
    {key : String} (h : Observability.read surplus s = some o) (hkey : key ∈ Observability.keys)
    (hv : s.at? [key] = some v) : o.setting.at? [key] = some v := by
  obtain ⟨entries, rfl⟩ := isTable_of_at? hv
  have hget := get?_of_at? hv
  simp only [Observability.read, record?, Option.bind_eq_bind, Option.bind_some,
    Option.bind_eq_some_iff] at h
  obtain ⟨enabled, henabled, spanPrefix, hspanPrefix, ho⟩ := h
  cases ho
  simp only [keys, List.mem_cons, List.not_mem_nil, or_false] at hkey
  rcases hkey with rfl | rfl
  · rw [eq_of_readAt hget henabled readFlag_eq_some]
    rfl
  · rw [eq_of_readAt hget hspanPrefix readText_eq_some]
    rfl

/-- Every switch of span events is read back as it was written. -/
theorem spanEvents_at?_of_read {surplus : Bool} {s v : Setting} {e : SpanEvents} {key : String}
    (h : readSpanEvents surplus s = some e) (hkey : key ∈ spanEventsKeys)
    (hv : s.at? [key] = some v) : (spanEventsSetting e).at? [key] = some v := by
  obtain ⟨entries, rfl⟩ := isTable_of_at? hv
  have hget := get?_of_at? hv
  simp only [readSpanEvents, record?, Option.bind_eq_bind, Option.bind_some,
    Option.bind_eq_some_iff] at h
  obtain ⟨opened, hopened, entered, hentered, left, hleft, closed, hclosed, he⟩ := h
  cases he
  simp only [spanEventsKeys, List.mem_cons, List.not_mem_nil, or_false] at hkey
  rcases hkey with rfl | rfl | rfl | rfl
  · rw [eq_of_readAt hget hclosed readFlag_eq_some]
    rfl
  · rw [eq_of_readAt hget hentered readFlag_eq_some]
    rfl
  · rw [eq_of_readAt hget hleft readFlag_eq_some]
    rfl
  · rw [eq_of_readAt hget hopened readFlag_eq_some]
    rfl

/-- Every key of the logging section is read back as it was written, but that nothing may stand for
the path of the file only. -/
theorem Logging.at?_of_read {surplus : Bool} {s v : Setting} {l : Logging} {key : String}
    (h : Logging.read surplus s = some l) (hkey : key ∈ "filters" :: Logging.keys)
    (hv : s.at? [key] = some v) (formed : Formed (key = "file_path") v) :
    l.setting.at? [key] = some v := by
  obtain ⟨entries, rfl⟩ := isTable_of_at? hv
  have hget := get?_of_at? hv
  simp only [Logging.read, record?, Option.bind_eq_bind, Option.bind_some,
    Option.bind_eq_some_iff] at h
  obtain ⟨level, hlevel, format, hformat, output, houtput, filePath, hfilePath, rotation,
    hrotation, threadIds, hthreadIds, fileLocation, hfileLocation, spanEvents, hspanEvents,
    filters, hfilters, hl⟩ := h
  cases hl
  simp only [keys, List.mem_cons, List.not_mem_nil, or_false] at hkey
  rcases hkey with rfl | rfl | rfl | rfl | rfl | rfl | rfl | rfl
  · rw [eq_of_readAt hget hfilters (readLevels_eq_some (formed.mono (by decide)))]
    rfl
  · rw [eq_of_readAt hget hfileLocation readFlag_eq_some]
    rfl
  · rw [eq_of_readAt hget hfilePath readTextOrAbsent_eq_some]
    rfl
  · rw [eq_of_readAt hget hformat (readChoice_eq_some (formed.mono (by decide)))]
    rfl
  · rw [eq_of_readAt hget hlevel (readChoice_eq_some (formed.mono (by decide)))]
    rfl
  · rw [eq_of_readAt hget houtput (readChoice_eq_some (formed.mono (by decide)))]
    rfl
  · rw [eq_of_readAt hget hrotation (readChoice_eq_some (formed.mono (by decide)))]
    rfl
  · rw [eq_of_readAt hget hthreadIds readFlag_eq_some]
    rfl

/-- The span events of the logging section are read from its own table. -/
theorem Logging.spanEvents_of_read {surplus : Bool} {entries : List (String × Setting)}
    {l : Logging} (h : Logging.read surplus (.table entries) = some l) {v : Setting}
    (hv : Entries.get? entries "span_events" = some v) :
    readSpanEvents surplus v = some l.spanEvents := by
  simp only [Logging.read, record?, Option.bind_eq_bind, Option.bind_some,
    Option.bind_eq_some_iff] at h
  obtain ⟨_, _, _, _, _, _, _, _, _, _, _, _, _, _, spanEvents, hspanEvents, _, _, hl⟩ := h
  cases hl
  rwa [readAt_of_get? hv] at hspanEvents

/-- The sections of a configuration are read from its tables. -/
theorem sections_of_read {surplus : Bool} {entries : List (String × Setting)} {c : Config}
    (h : Config.read surplus (.table entries) = some c) :
    (∀ v, Entries.get? entries "logging" = some v → Logging.read surplus v = some c.logging) ∧
    (∀ v, Entries.get? entries "dispatch" = some v → Dispatch.read surplus v = some c.dispatch) ∧
    ∀ v, Entries.get? entries "observability" = some v →
      Observability.read surplus v = some c.observability := by
  simp only [Config.read, record?, Option.bind_eq_bind, Option.bind_some,
    Option.bind_eq_some_iff] at h
  obtain ⟨logging, hlogging, dispatch, hdispatch, observability, hobservability, hc⟩ := h
  cases hc
  refine ⟨fun v hv => ?_, fun v hv => ?_, fun v hv => ?_⟩
  · rwa [readAt_of_get? hv] at hlogging
  · rwa [readAt_of_get? hv] at hdispatch
  · rwa [readAt_of_get? hv] at hobservability

/-- A configuration has at the key of a single value or a list, and for the levels of modules, what
it was read from. -/
theorem at?_of_read {surplus : Bool} {s v : Setting} {c : Config} {keys : List String}
    (h : Config.read surplus s = some c) (hkeys : keys ∈ ["logging", "filters"] :: valueKeys)
    (hv : s.at? keys = some v) (formed : Formed (keys = ["logging", "file_path"]) v) :
    c.setting.at? keys = some v := by
  simp only [valueKeys, List.mem_cons, List.mem_append, List.mem_map] at hkeys
  rcases hkeys with rfl | ((⟨key, hkey, rfl⟩ | ⟨key, hkey, rfl⟩) | ⟨key, hkey, rfl⟩) |
    ⟨key, hkey, rfl⟩
  · obtain ⟨entries, logging, rfl, hlogging, hin⟩ := exists_of_at?_cons hv
    exact Logging.at?_of_read ((sections_of_read h).1 logging hlogging) List.mem_cons_self hin
      (formed.mono fun heq => absurd heq (by decide))
  · obtain ⟨entries, dispatch, rfl, hdispatch, hin⟩ := exists_of_at?_cons hv
    exact Dispatch.at?_of_read ((sections_of_read h).2.1 dispatch hdispatch) hkey hin
  · obtain ⟨entries, logging, rfl, hlogging, hin⟩ := exists_of_at?_cons hv
    exact Logging.at?_of_read ((sections_of_read h).1 logging hlogging)
      (List.mem_cons_of_mem _ hkey) hin (formed.mono fun heq => by simpa using heq)
  · obtain ⟨entries, logging, rfl, hlogging, hin⟩ := exists_of_at?_cons hv
    obtain ⟨inner, events, rfl, hevents, hin⟩ := exists_of_at?_cons hin
    exact spanEvents_at?_of_read
      (Logging.spanEvents_of_read ((sections_of_read h).1 _ hlogging) hevents) hkey hin
  · obtain ⟨entries, observability, rfl, hobservability, hin⟩ := exists_of_at?_cons hv
    exact Observability.at?_of_read ((sections_of_read h).2.2 observability hobservability) hkey hin

/-! ## Whole configurations as layers -/

/-- A well-formed value that is no table. -/
structure IsSingle (gaps : Prop) (v : Setting) : Prop where
  formed : Formed gaps v
  single : ¬ v.IsTable

theorem isSingle_flag (gaps : Prop) (b : Bool) : IsSingle gaps (.flag b) :=
  ⟨.flag b, fun ⟨_, heq⟩ => by cases heq⟩

theorem isSingle_whole (gaps : Prop) (n : Int) : IsSingle gaps (.whole n) :=
  ⟨.whole n, fun ⟨_, heq⟩ => by cases heq⟩

theorem isSingle_text (gaps : Prop) (text : String) : IsSingle gaps (.text text) :=
  ⟨.text text, fun ⟨_, heq⟩ => by cases heq⟩

theorem isSingle_texts (gaps : Prop) (texts : List String) :
    IsSingle gaps (.list (texts.map Setting.text)) := by
  refine ⟨.list fun item hitem => ?_, fun ⟨_, heq⟩ => by cases heq⟩
  obtain ⟨text, -, rfl⟩ := List.mem_map.mp hitem
  exact .text text

theorem isSingle_textOrAbsent {gaps : Prop} (h : gaps) (text : Option String) :
    IsSingle gaps ((text.map Setting.text).getD .absent) := by
  cases text with
  | none => exact ⟨.absent h, fun ⟨_, heq⟩ => by cases heq⟩
  | some text => exact isSingle_text gaps text

/-- A configuration sets every key, and only the log file to nothing. -/
theorem exists_at?_setting (c : Config) {keys : List String} (h : keys ∈ valueKeys) :
    ∃ v, c.setting.at? keys = some v ∧ IsSingle (keys = ["logging", "file_path"]) v := by
  simp only [valueKeys, List.mem_append, List.mem_map] at h
  rcases h with ((⟨key, hkey, rfl⟩ | ⟨key, hkey, rfl⟩) | ⟨key, hkey, rfl⟩) | ⟨key, hkey, rfl⟩
  · simp only [Dispatch.keys, List.mem_cons, List.not_mem_nil, or_false] at hkey
    rcases hkey with rfl | rfl
    · exact ⟨_, rfl, isSingle_whole _ _⟩
    · exact ⟨_, rfl, isSingle_texts _ _⟩
  · simp only [Logging.keys, List.mem_cons, List.not_mem_nil, or_false] at hkey
    rcases hkey with rfl | rfl | rfl | rfl | rfl | rfl | rfl
    · exact ⟨_, rfl, isSingle_flag _ _⟩
    · exact ⟨_, rfl, isSingle_textOrAbsent rfl _⟩
    · exact ⟨_, rfl, isSingle_text _ _⟩
    · exact ⟨_, rfl, isSingle_text _ _⟩
    · exact ⟨_, rfl, isSingle_text _ _⟩
    · exact ⟨_, rfl, isSingle_text _ _⟩
    · exact ⟨_, rfl, isSingle_flag _ _⟩
  · simp only [spanEventsKeys, List.mem_cons, List.not_mem_nil, or_false] at hkey
    rcases hkey with rfl | rfl | rfl | rfl
    · exact ⟨_, rfl, isSingle_flag _ _⟩
    · exact ⟨_, rfl, isSingle_flag _ _⟩
    · exact ⟨_, rfl, isSingle_flag _ _⟩
    · exact ⟨_, rfl, isSingle_flag _ _⟩
  · simp only [Observability.keys, List.mem_cons, List.not_mem_nil, or_false] at hkey
    rcases hkey with rfl | rfl
    · exact ⟨_, rfl, isSingle_flag _ _⟩
    · exact ⟨_, rfl, isSingle_text _ _⟩

/-- The levels of modules as a table. -/
def filtersSetting (filters : Fields LogLevel) : Setting :=
  .table (filters.map fun level => .text level.name).entries

/-- The filters stand below the logging section. -/
theorem at?_setting_filters (c : Config) :
    c.setting.at? ["logging", "filters"] = some (filtersSetting c.logging.filters) := rfl

/-- Each filter stands at its target. -/
theorem at?_setting_filter (c : Config) (target : String) :
    c.setting.at? ["logging", "filters", target] =
      (c.logging.filters.get? target).map fun level => .text level.name := by
  have hway : ["logging", "filters", target] = ["logging", "filters"] ++ [target] := rfl
  have hget : Entries.get? (c.logging.filters.map fun level => Setting.text level.name).entries
      target = (c.logging.filters.get? target).map fun level => .text level.name :=
    Entries.get?_map (fun level => Setting.text (LogLevel.name level)) c.logging.filters.entries
      target
  rw [hway, at?_append, at?_setting_filters, Option.bind_some, filtersSetting, at?_cons, hget]
  cases c.logging.filters.get? target <;> rfl

/-- The written filters are formed. -/
theorem filtersSetting_formed (filters : Fields LogLevel) :
    Formed False (filtersSetting filters) := by
  refine .table (Fields.ascending _) fun entry hentry => ?_
  obtain ⟨filter, -, rfl⟩ := List.mem_map.mp hentry
  exact .text _

/-- A written configuration is formed; nothing stands in it at the path of the log file only. -/
theorem setting_formed (c : Config) : Formed True c.setting := by
  have hevents : Formed True (spanEventsSetting c.logging.spanEvents) := by
    refine .table (Entries.ascending_of_names spanEventsKeys rfl (by decide)) ?_
    simp only [List.forall_mem_cons, List.not_mem_nil, false_implies, implies_true, and_true]
    exact ⟨.flag _, .flag _, .flag _, .flag _⟩
  have hfilters : Formed True (filtersSetting c.logging.filters) :=
    (filtersSetting_formed _).mono False.elim
  have hlogging : Formed True c.logging.setting := by
    refine .table (Entries.ascending_of_names
      ["file_location", "file_path", "filters", "format", "level", "output", "rotation",
        "span_events", "thread_ids"] rfl (by decide)) ?_
    simp only [List.forall_mem_cons, List.not_mem_nil, false_implies, implies_true, and_true]
    exact ⟨.flag _, (isSingle_textOrAbsent trivial _).formed, hfilters, .text _, .text _, .text _,
      .text _, hevents, .flag _⟩
  have hdispatch : Formed True c.dispatch.setting := by
    refine .table (Entries.ascending_of_names Dispatch.keys rfl (by decide)) ?_
    simp only [List.forall_mem_cons, List.not_mem_nil, false_implies, implies_true, and_true]
    exact ⟨.whole _, (isSingle_texts _ _).formed⟩
  have hobservability : Formed True c.observability.setting := by
    refine .table (Entries.ascending_of_names Observability.keys rfl (by decide)) ?_
    simp only [List.forall_mem_cons, List.not_mem_nil, false_implies, implies_true, and_true]
    exact ⟨.flag _, .text _⟩
  refine .table (Entries.ascending_of_names ["dispatch", "logging", "observability"] rfl
    (by decide)) ?_
  simp only [List.forall_mem_cons, List.not_mem_nil, false_implies, implies_true, and_true]
  exact ⟨hdispatch, hlogging, hobservability⟩

/-! ## No other keys -/

/-- A way to a single value in a table starts with a key of the table. -/
theorem exists_key_of_at? {entries : List (String × Setting)} {keys : List String} {v : Setting}
    (h : at? keys (.table entries) = some v) (single : ¬ v.IsTable) : ∃ key inner rest,
      keys = key :: rest ∧ key ∈ entries.map Prod.fst ∧ Entries.get? entries key = some inner ∧
        at? rest inner = some v := by
  cases keys with
  | nil =>
    obtain rfl := Option.some.inj h
    exact absurd (isTable_table entries) single
  | cons key rest =>
    obtain ⟨inner, hinner, hin⟩ := Option.bind_eq_some_iff.mp h
    exact ⟨key, inner, rest, rfl, List.mem_map.mpr ⟨_, Entries.mem_of_get? hinner, rfl⟩, hinner,
      hin⟩

/-- A way ends at a value that is no table. -/
theorem eq_nil_of_at? {keys : List String} {s v : Setting} (single : ¬ s.IsTable)
    (h : at? keys s = some v) : keys = [] := by
  cases keys with
  | nil => rfl
  | cons key keys => exact absurd (isTable_of_at? h) single

/-- No way of a configuration goes on past the key of a single value or a list. -/
theorem mem_valueKeys_of_append (c : Config) {way rest : List String} {v : Setting}
    (hway : way ∈ valueKeys) (h : c.setting.at? (way ++ rest) = some v) :
    way ++ rest ∈ valueKeys := by
  obtain ⟨w, hw, hsingle⟩ := c.exists_at?_setting hway
  rw [at?_append, hw, Option.bind_some] at h
  rwa [eq_nil_of_at? hsingle.single h, List.append_nil]

/-- A way to a single value in the logging section starts with a key of one, or with a key of one in
its table of span events, or is that of the level of a module. -/
theorem Logging.exists_key_of_at? (l : Logging) {keys : List String} {v : Setting}
    (h : l.setting.at? keys = some v) (single : ¬ v.IsTable) :
    (∃ key ∈ Logging.keys, ∃ rest, keys = key :: rest) ∨
      (∃ key ∈ spanEventsKeys, ∃ rest, keys = "span_events" :: key :: rest) ∨
      ∃ target, keys = ["filters", target] := by
  obtain ⟨name, inner, rest, rfl, hname, hinner, hin⟩ := Config.exists_key_of_at? h single
  by_cases hfilters : name = "filters"
  · subst hfilters
    obtain rfl := Option.some.inj hinner
    obtain ⟨target, inner, rest, rfl, -, hinner, hin⟩ := Config.exists_key_of_at? hin single
    obtain ⟨level, -, heq⟩ := List.mem_map.mp (Entries.mem_of_get? hinner)
    obtain rfl := congrArg Prod.snd heq
    obtain rfl := eq_nil_of_at? (isSingle_text True _).single hin
    exact .inr (.inr ⟨target, rfl⟩)
  · by_cases hevents : name = "span_events"
    · subst hevents
      obtain rfl := Option.some.inj hinner
      obtain ⟨event, _, rest, rfl, hevent, -, -⟩ := Config.exists_key_of_at? hin single
      exact .inr (.inl ⟨event, hevent, rest, rfl⟩)
    · change name ∈ ["file_location", "file_path", "filters", "format", "level", "output",
        "rotation", "span_events", "thread_ids"] at hname
      exact .inl ⟨name, by simpa [Logging.keys, hfilters, hevents] using hname, rest, rfl⟩

/-- A configuration has single values and lists at no other keys. -/
theorem mem_valueKeys_of_at? (c : Config) {keys : List String} {v : Setting}
    (h : c.setting.at? keys = some v) (single : ¬ v.IsTable) :
    keys ∈ valueKeys ∨ ∃ target, keys = ["logging", "filters", target] := by
  have stop (way : List String) (hway : way ∈ valueKeys) (rest : List String)
      (hkeys : keys = way ++ rest) : keys ∈ valueKeys := by
    rw [hkeys] at h ⊢
    exact c.mem_valueKeys_of_append hway h
  obtain ⟨first, inner, keys', rfl, hfirst, hinner, hin⟩ := exists_key_of_at? h single
  change first ∈ ["dispatch", "logging", "observability"] at hfirst
  simp only [List.mem_cons, List.not_mem_nil, or_false] at hfirst
  -- by the section that the path leads into
  rcases hfirst with rfl | rfl | rfl
  · obtain rfl := Option.some.inj hinner
    obtain ⟨key, _, rest, rfl, hkey, -, -⟩ := exists_key_of_at? hin single
    refine .inl (stop ["dispatch", key] ?_ rest rfl)
    simp [valueKeys, show key ∈ Dispatch.keys from hkey]
  · obtain rfl := Option.some.inj hinner
    rcases c.logging.exists_key_of_at? hin single with
      ⟨key, hkey, rest, rfl⟩ | ⟨key, hkey, rest, rfl⟩ | ⟨target, rfl⟩
    · exact .inl (stop ["logging", key] (by simp [valueKeys, hkey]) rest rfl)
    · exact .inl (stop ["logging", "span_events", key] (by simp [valueKeys, hkey]) rest rfl)
    · exact .inr ⟨target, rfl⟩
  · obtain rfl := Option.some.inj hinner
    obtain ⟨key, _, rest, rfl, hkey, -, -⟩ := exists_key_of_at? hin single
    refine .inl (stop ["observability", key] ?_ rest rfl)
    simp [valueKeys, show key ∈ Observability.keys from hkey]

end Config

end RequestDispatch
