import RequestDispatch.Http.Negotiation
import RequestDispatch.Proofs.Rounding
import RequestDispatch.Proofs.Text

/-!
# Which media type a caller prefers

The ranges of a header rate the supported types: the first of the most specific ranges that cover a
type has its quality. Negotiation chooses the first of the types that are rated best, if they are
rated above 0. Both choices are made by a fold that replaces what it holds only by something better,
which is `List.argmax`, and `negotiate_prefers` says what comes of them. Two ranges that cover one
type and are equally specific are the same range where each is listed once, so that the order of the
header does not count then (`negotiate_perm`).
-/

namespace RequestDispatch

/-! ## Numbers in order -/

namespace BinaryFloat

/-- The number that is denoted. -/
def value (x : BinaryFloat) : ℚ := if x.negative then -x.magnitude else x.magnitude

/-- The number as a multiple of a binary place that is not above its last one. -/
def multiple (x : BinaryFloat) (e : Int) : Int :=
  let n : Int := (x.significand <<< (x.exponent - e).toNat : Nat)
  if x.negative then -n else n

theorem multiple_mul {x : BinaryFloat} {e : Int} (h : e ≤ x.exponent) :
    (x.multiple e : ℚ) * 2 ^ e = x.value := by
  have hmagnitude :
      ((x.significand <<< (x.exponent - e).toNat : Nat) : ℚ) * 2 ^ e = x.magnitude := by
    obtain ⟨k, hk⟩ := Int.eq_ofNat_of_zero_le (sub_nonneg.mpr h)
    have hexponent : x.exponent = k + e := by omega
    rw [hk, Int.toNat_natCast, Nat.shiftLeft_eq, magnitude]
    conv_rhs => rw [hexponent, zpow_add₀ two_ne_zero, zpow_natCast]
    push_cast
    ring
  unfold multiple value
  dsimp only
  split
  · rw [Int.cast_neg, Int.cast_natCast, neg_mul, hmagnitude]
  · rw [Int.cast_natCast, hmagnitude]

/-- Numbers are compared as what they denote. -/
theorem lt_iff_value_lt {x y : BinaryFloat} : x.lt y = true ↔ x.value < y.value := by
  have hunit : (0 : ℚ) < 2 ^ min x.exponent y.exponent := by positivity
  rw [← multiple_mul (min_le_left x.exponent y.exponent),
    ← multiple_mul (min_le_right x.exponent y.exponent), mul_lt_mul_iff_left₀ hunit, Int.cast_lt]
  exact decide_eq_true_iff

@[simp] theorem value_noQuality : MediaRange.noQuality.value = 0 := by
  simp [value, magnitude, MediaRange.noQuality]

theorem value_fullQuality : MediaRange.fullQuality.value = 1 := by
  norm_num [value, magnitude, MediaRange.fullQuality]

end BinaryFloat

/-! ## The first of the best -/

section FirstBest

variable {α β : Type} [LinearOrder β] {rank : α → β}

/-- All entries before this one rank below it, and none after it ranks above it. -/
def IsFirstBest (rank : α → β) (entries : List α) (a : α) : Prop :=
  ∃ before after, entries = before ++ a :: after ∧ (∀ b ∈ before, rank b < rank a) ∧
    ∀ b ∈ after, rank b ≤ rank a

/-- The first of several greatest entries is the greatest one. -/
theorem argmax_append_cons {before after : List α} {a : α} (hbefore : ∀ b ∈ before, rank b < rank a)
    (hafter : ∀ b ∈ after, rank b ≤ rank a) :
    (before ++ a :: after).argmax rank = some a := by
  induction before with
  | nil =>
    rw [List.nil_append, List.argmax_cons]
    cases hlast : after.argmax rank with
    | none => rfl
    | some c =>
      have hc : rank c ≤ rank a := hafter c (List.argmax_mem hlast)
      exact if_neg (not_lt.mpr hc)
  | cons b before ih =>
    have hb : rank b < rank a := hbefore b List.mem_cons_self
    rw [List.cons_append, List.argmax_cons, ih fun c hc => hbefore c (List.mem_cons_of_mem _ hc)]
    exact if_pos hb

/-- The entry with the greatest rank is the first of the best. -/
theorem argmax_eq_some_iff_isFirstBest {entries : List α} {a : α} :
    entries.argmax rank = some a ↔ IsFirstBest rank entries a := by
  constructor
  · intro h
    induction entries with
    | nil => cases h
    | cons first rest ih =>
      rw [List.argmax_cons] at h
      cases hrest : rest.argmax rank with
      | none =>
        rw [hrest] at h
        obtain rfl := List.argmax_eq_none.mp hrest
        obtain rfl := Option.some.inj h
        exact ⟨[], [], rfl, List.forall_mem_nil _, List.forall_mem_nil _⟩
      | some c =>
        rw [hrest] at h
        by_cases hlt : rank first < rank c
        · obtain rfl : c = a := Option.some.inj ((if_pos hlt).symm.trans h)
          obtain ⟨before, after, rfl, hbefore, hafter⟩ := ih hrest
          exact ⟨first :: before, after, rfl, List.forall_mem_cons.mpr ⟨hlt, hbefore⟩, hafter⟩
        · obtain rfl : first = a := Option.some.inj ((if_neg hlt).symm.trans h)
          refine ⟨[], rest, rfl, List.forall_mem_nil _, fun b hb => ?_⟩
          exact (List.le_of_mem_argmax hb hrest).trans (not_lt.mp hlt)
  · rintro ⟨before, after, rfl, hbefore, hafter⟩
    exact argmax_append_cons hbefore hafter

/-- Where only what ranks above a bound is looked at, the best entry is found if it does. -/
theorem argmax_filter_lt (bound : β) (entries : List α) :
    (entries.filter fun a => bound < rank a).argmax rank =
      (entries.argmax rank).filter fun a => bound < rank a := by
  cases hbest : entries.argmax rank with
  | none =>
    rw [List.argmax_eq_none.mp hbest]
    rfl
  | some a =>
    by_cases ha : bound < rank a
    · obtain ⟨before, after, rfl, hbefore, hafter⟩ := argmax_eq_some_iff_isFirstBest.mp hbest
      rw [List.filter_append, List.filter_cons_of_pos (by simpa using ha),
        argmax_append_cons (fun b hb => hbefore b (List.mem_of_mem_filter hb))
          fun b hb => hafter b (List.mem_of_mem_filter hb),
        Option.filter_some, if_pos (by simpa using ha)]
    · have hnone : entries.filter (fun a => bound < rank a) = [] := by
        rw [List.filter_eq_nil_iff]
        intro b hb hlt
        exact ha ((of_decide_eq_true hlt).trans_le (List.le_of_mem_argmax hb hbest))
      rw [hnone, Option.filter_some, if_neg (by simpa using ha)]
      rfl

/-- Where no two entries rank alike, their order does not matter. -/
theorem argmax_perm {entries entries' : List α} (h : entries.Perm entries')
    (distinct : ∀ a ∈ entries, ∀ b ∈ entries, rank a = rank b → a = b) :
    entries.argmax rank = entries'.argmax rank := by
  cases hbest : entries.argmax rank with
  | none =>
    obtain rfl := List.argmax_eq_none.mp hbest
    rw [List.nil_perm.mp h]
    rfl
  | some a =>
    cases hbest' : entries'.argmax rank with
    | none =>
      obtain rfl := List.argmax_eq_none.mp hbest'
      rw [List.perm_nil.mp h] at hbest
      cases hbest
    | some b =>
      have ha : a ∈ entries := List.argmax_mem hbest
      have hb : b ∈ entries := h.mem_iff.mpr (List.argmax_mem hbest')
      have hle : rank a ≤ rank b := List.le_of_mem_argmax (h.mem_iff.mp ha) hbest'
      have hge : rank b ≤ rank a := List.le_of_mem_argmax hb hbest
      rw [distinct a ha b hb (hle.antisymm hge)]

end FirstBest

/-! ## Reading -/

namespace MediaType

/-- A text that spells a media type: two parts around the first slash before any parameters, neither
of them blank, in letters of either case. -/
def Spells (text : String) (media : MediaType) : Prop :=
  ∃ kind subtype, Text.cut '/' (essence text) = some (kind, subtype) ∧
    Text.trim kind ≠ "" ∧ Text.trim subtype ≠ "" ∧
      media = ⟨Text.lowerAscii (Text.trim kind), Text.lowerAscii (Text.trim subtype)⟩

/-- A text is read as the media type that it spells. -/
theorem read?_eq_some {text : String} {media : MediaType} :
    read? text = some media ↔ Spells text media := by
  rw [read?, Spells]
  cases hcut : Text.cut '/' (essence text) with
  | none => simp
  | some parts =>
    obtain ⟨kind, subtype⟩ := parts
    simp only [Option.bind_some, Option.some.injEq, Prod.mk.injEq, Bool.or_eq_true,
      String.isEmpty_iff]
    constructor
    · intro h
      split at h
      · cases h
      · next hblank =>
        obtain ⟨hkind, hsubtype⟩ := not_or.mp hblank
        exact ⟨kind, subtype, ⟨rfl, rfl⟩, hkind, hsubtype, (Option.some.inj h).symm⟩
    · rintro ⟨_, _, ⟨rfl, rfl⟩, hkind, hsubtype, rfl⟩
      exact if_neg (not_or.mpr ⟨hkind, hsubtype⟩)

/-- A text spells what stands before its parameters. -/
theorem essence_of_split {text base : String} {params : List String}
    (h : Text.split ';' text = base :: params) : essence base = essence text := by
  have hbase : base = String.ofList (text.toList.takeWhile (· != ';')) := by
    have hhead := congrArg List.head? h
    rw [Text.split, List.head?_map, Text.head?_splitChars, Option.map_some,
      List.head?_cons] at hhead
    exact (Option.some.inj hhead).symm
  rw [hbase, essence, essence, String.toList_ofList, List.takeWhile_idem]

theorem read?_of_split {text base : String} {params : List String}
    (h : Text.split ';' text = base :: params) : read? base = read? text := by
  rw [read?, read?, essence_of_split h]

end MediaType

namespace MediaRange

/-- The texts of the qualities that a range states, in order. -/
def stated (params : List String) : List String :=
  params.filterMap fun param => (Text.cut '=' param).bind fun (key, text) =>
    if Text.lowerAscii (Text.trim key) = "q" then some text else none

/-- The text denotes a quality: a single-precision number from 0 to 1. -/
def IsQuality (text : String) (quality : BinaryFloat) : Prop :=
  readFloat .single (Text.trim text) = some (.finite quality) ∧
    0 ≤ quality.value ∧ quality.value ≤ 1

/-- A text is read as the quality that it states. -/
theorem readQuality_eq_some {text : String} {quality : BinaryFloat} :
    readQuality text = some quality ↔ IsQuality text quality := by
  have low {x : BinaryFloat} : x.lt noQuality = true ↔ x.value < 0 := by
    rw [BinaryFloat.lt_iff_value_lt, BinaryFloat.value_noQuality]
  have high {x : BinaryFloat} : fullQuality.lt x = true ↔ 1 < x.value := by
    rw [BinaryFloat.lt_iff_value_lt, BinaryFloat.value_fullQuality]
  rw [readQuality, IsQuality]
  split
  · next x hread =>
    simp only [hread, Bool.or_eq_true, low, high, Option.some.injEq, FloatReading.finite.injEq]
    constructor
    · intro h
      split at h
      · cases h
      · next hrange =>
        obtain rfl := Option.some.inj h
        exact ⟨rfl, not_lt.mp fun hlt => hrange (.inl hlt), not_lt.mp fun hlt => hrange (.inr hlt)⟩
    · rintro ⟨rfl, hlow, hhigh⟩
      exact if_neg (not_or.mpr ⟨not_lt.mpr hlow, not_lt.mpr hhigh⟩)
  · next hnot =>
    refine iff_of_false nofun ?_
    rintro ⟨hread, -, -⟩
    exact hnot quality hread

/-- Every quality that is stated must be one, and the last counts. -/
theorem qualityOf_eq_some {quality quality' : BinaryFloat} {params : List String} :
    qualityOf quality params = some quality' ↔
      ∃ qualities, List.Forall₂ IsQuality (stated params) qualities ∧
        quality' = qualities.getLastD quality := by
  induction params generalizing quality with
  | nil => simp [qualityOf, stated, eq_comm]
  | cons param params ih =>
    -- only parameters named q say something, so the list of stated ones goes along
    rw [qualityOf]
    cases hcut : Text.cut '=' param with
    | none =>
      have hstated : stated (param :: params) = stated params :=
        List.filterMap_cons_none (by simp [hcut])
      rw [hstated]
      exact ih
    | some parts =>
      obtain ⟨key, text⟩ := parts
      dsimp only
      by_cases hkey : Text.lowerAscii (Text.trim key) = "q"
      · have hstated : stated (param :: params) = text :: stated params :=
          List.filterMap_cons_some (by simp [hcut, hkey])
        rw [if_pos hkey, hstated, Option.bind_eq_some_iff]
        simp only [readQuality_eq_some, ih]
        constructor
        · rintro ⟨first, hfirst, rest, hrest, rfl⟩
          exact ⟨first :: rest, .cons hfirst hrest, (List.getLastD_cons ..).symm⟩
        · rintro ⟨_, hall, rfl⟩
          cases hall with
          | @cons _ first _ rest hfirst hrest =>
            exact ⟨first, hfirst, rest, hrest, List.getLastD_cons ..⟩
      · have hstated : stated (param :: params) = stated params :=
          List.filterMap_cons_none (by simp [hcut, hkey])
        rw [if_neg hkey, hstated]
        exact ih

/-- A range as it is written: a media type, and after it qualities of which the last counts. -/
structure Written (text : String) (range : MediaRange) : Prop where
  media : MediaType.Spells text range.media
  quality : ∃ qualities, List.Forall₂ IsQuality (stated (Text.split ';' text).tail) qualities ∧
    range.quality = qualities.getLastD fullQuality

/-- A text is read as the range that it is written as. -/
theorem read?_eq_some {text : String} {range : MediaRange} :
    read? text = some range ↔ Written text range := by
  obtain ⟨media, quality⟩ := range
  rw [read?]
  split
  · next hnil =>
    rw [Text.split, List.map_eq_nil_iff] at hnil
    exact absurd hnil (Text.splitChars_ne_nil _ _)
  · next base params hsplit =>
    rw [MediaType.read?_of_split hsplit]
    constructor
    · intro h
      obtain ⟨media', hmedia, hrest⟩ := Option.bind_eq_some_iff.mp h
      obtain ⟨quality', hquality, hrange⟩ := Option.map_eq_some_iff.mp hrest
      obtain ⟨rfl, rfl⟩ := MediaRange.mk.inj hrange
      refine ⟨MediaType.read?_eq_some.mp hmedia, ?_⟩
      rw [hsplit]
      exact qualityOf_eq_some.mp hquality
    · rintro ⟨hmedia, hquality⟩
      rw [hsplit, List.tail_cons] at hquality
      rw [MediaType.read?_eq_some.mpr hmedia, Option.bind_some, qualityOf_eq_some.mpr hquality]
      rfl

end MediaRange

/-! ## What ranges make of a type -/

/-- The range that decides about a type is the first of the most specific ones that cover it. -/
theorem decidingRange_eq_argmax (ranges : List MediaRange) (media : MediaType) :
    decidingRange ranges media =
      (ranges.filter fun range => range.covers media).argmax MediaRange.specificity := by
  rw [decidingRange, List.argmax]
  congr 1
  funext chosen range
  cases chosen with
  | none => rfl
  | some current =>
    show (if range.specificity ≤ current.specificity then some current else some range) =
      if current.specificity < range.specificity then some range else some current
    by_cases hle : range.specificity ≤ current.specificity
    · rw [if_pos hle, if_neg (not_lt.mpr hle)]
    · rw [if_neg hle, if_pos (not_le.mp hle)]

/-- The quality that ranges give a type as it is written. -/
def qualityOfText (ranges : List MediaRange) (text : String) : BinaryFloat :=
  ((MediaType.read? text).map (qualityFor ranges)).getD MediaRange.noQuality

/-- The number that ranges rate a type at, as it is written. -/
def rating (ranges : List MediaRange) (text : String) : ℚ := (qualityOfText ranges text).value

/-- How ranges rate a type. -/
inductive Rates (ranges : List MediaRange) (text : String) : ℚ → Prop where
  /-- The first of the most specific ranges that cover it decides. -/
  | decided {media : MediaType} {range : MediaRange} (spells : MediaType.Spells text media)
      (decides : IsFirstBest MediaRange.specificity (ranges.filter fun range => range.covers media)
        range) : Rates ranges text range.quality.value
  | uncovered {media : MediaType} (spells : MediaType.Spells text media)
      (uncovered : ∀ range ∈ ranges, ¬ range.covers media) : Rates ranges text 0
  /-- A text that is no type has no quality. -/
  | unreadable (unreadable : ∀ media, ¬ MediaType.Spells text media) : Rates ranges text 0

section Ranges

variable {ranges ranges' : List MediaRange}

/-- The rating of a media type is the quality of the range that decides. -/
theorem rating_of_decided {text : String} {media : MediaType} {range : MediaRange}
    (hread : MediaType.read? text = some media) (h : decidingRange ranges media = some range) :
    rating ranges text = range.quality.value := by
  rw [rating, qualityOfText, hread, Option.map_some, Option.getD_some, qualityFor, h]
  rfl

/-- A media type that no range covers has no rating. -/
theorem rating_of_uncovered {text : String} {media : MediaType}
    (hread : MediaType.read? text = some media) (h : decidingRange ranges media = none) :
    rating ranges text = 0 := by
  rw [rating, qualityOfText, hread, Option.map_some, Option.getD_some, qualityFor, h,
    Option.map_none, Option.getD_none, BinaryFloat.value_noQuality]

/-- A text that is no media type has no rating. -/
theorem rating_of_unreadable {text : String} (hread : MediaType.read? text = none) :
    rating ranges text = 0 := by
  rw [rating, qualityOfText, hread, Option.map_none, Option.getD_none, BinaryFloat.value_noQuality]

/-- Every type is rated in one way. -/
theorem rates_iff {text : String} {number : ℚ} :
    Rates ranges text number ↔ number = rating ranges text := by
  constructor
  -- each way to rate a type is one that the computation takes
  · intro h
    cases h with
    | decided spells decides =>
      refine (rating_of_decided (MediaType.read?_eq_some.mpr spells) ?_).symm
      rw [decidingRange_eq_argmax]
      exact argmax_eq_some_iff_isFirstBest.mpr decides
    | uncovered spells uncovered =>
      refine (rating_of_uncovered (MediaType.read?_eq_some.mpr spells) ?_).symm
      rw [decidingRange_eq_argmax, List.argmax_eq_none, List.filter_eq_nil_iff]
      exact uncovered
    | unreadable unreadable =>
      refine (rating_of_unreadable ?_).symm
      rw [Option.eq_none_iff_forall_ne_some]
      exact fun media hread => unreadable media (MediaType.read?_eq_some.mp hread)
  -- the computation takes one of three ways, by what is read and which range decides
  · intro h
    rw [h]
    cases hread : MediaType.read? text with
    | none =>
      rw [rating_of_unreadable hread]
      refine .unreadable fun media spells => ?_
      cases hread.symm.trans (MediaType.read?_eq_some.mpr spells)
    | some media =>
      have spells := MediaType.read?_eq_some.mp hread
      cases hdecides : decidingRange ranges media with
      | none =>
        rw [rating_of_uncovered hread hdecides]
        rw [decidingRange_eq_argmax, List.argmax_eq_none, List.filter_eq_nil_iff] at hdecides
        exact .uncovered spells hdecides
      | some range =>
        rw [rating_of_decided hread hdecides]
        rw [decidingRange_eq_argmax, argmax_eq_some_iff_isFirstBest] at hdecides
        exact .decided spells hdecides

/-! ## The choice -/

/-- A further type replaces the best so far if it is rated above 0 and above the best. -/
theorem betterType_eq (best : Option String) (text : String) :
    betterType ranges (best.map fun text => (text, qualityOfText ranges text)) text =
      (if 0 < rating ranges text then
        List.argAux (fun b c => rating ranges c < rating ranges b) best text
      else best).map fun text => (text, qualityOfText ranges text) := by
  -- the computation compares with the lowest quality, which is zero
  have hpositive : (MediaRange.noQuality.lt (qualityOfText ranges text) = true) ↔
      0 < rating ranges text := by
    rw [BinaryFloat.lt_iff_value_lt, BinaryFloat.value_noQuality]
    rfl
  rw [betterType]
  cases hread : MediaType.read? text with
  | none => rw [if_neg (by rw [rating_of_unreadable hread]; exact lt_irrefl 0)]
  | some media =>
    have hquality : qualityFor ranges media = qualityOfText ranges text := by
      rw [qualityOfText, hread]
      rfl
    simp only [hquality, hpositive]
    by_cases h : 0 < rating ranges text
    · rw [if_pos h, if_pos h]
      cases best with
      | none => rfl
      | some current =>
        simp only [Option.map_some, BinaryFloat.lt_iff_value_lt, List.argAux]
        change (if rating ranges current < rating ranges text then _ else _) = _
        split <;> rfl
    · rw [if_neg h, if_neg h]

end Ranges

/-- The ranges of a header, none without one. -/
def rangesOf (accept : Option String) : List MediaRange := (accept.map parseAccept).getD []

/-- Without ranges the first supported type is chosen. -/
theorem negotiate_of_nil {accept : Option String} (h : rangesOf accept = [])
    (supported : List String) : negotiate accept supported = supported.head? := by
  rw [negotiate]
  split
  · rfl
  · next hne => exact absurd h hne

/-- Of the supported types the best is chosen, if it is rated above 0. -/
theorem negotiate_of_ne_nil {accept : Option String} (h : rangesOf accept ≠ [])
    (supported : List String) :
    negotiate accept supported =
      (supported.argmax (rating (rangesOf accept))).filter
        fun text => 0 < rating (rangesOf accept) text := by
  have hfold : supported.foldl (betterType (rangesOf accept)) none =
      ((supported.filter fun text => 0 < rating (rangesOf accept) text).argmax
        (rating (rangesOf accept))).map
          fun text => (text, qualityOfText (rangesOf accept) text) := by
    rw [List.argmax, List.foldl_filter]
    show supported.foldl (betterType (rangesOf accept))
      (Option.map (fun text => (text, qualityOfText (rangesOf accept) text)) none) = _
    apply List.foldl_hom
    intro best text
    rw [betterType_eq]
    simp only [decide_eq_true_eq]
  rw [negotiate]
  split
  · next hnil => exact absurd hnil h
  · rw [← rangesOf, hfold, Option.map_map, argmax_filter_lt]
    simp only [Function.comp_def, Option.map_id']

/-- What negotiation chooses for a header, if there is one, among supported types. -/
structure Negotiates (accept : Option String) (supported : List String) : Prop where
  /-- Without a header, or where none of its ranges is kept, the first type is chosen. -/
  unconstrained : rangesOf accept = [] → negotiate accept supported = supported.head?
  /-- Else it is the first of those that are rated best, if they are rated above 0. -/
  chosen : rangesOf accept ≠ [] → ∀ text, negotiate accept supported = some text ↔
    IsFirstBest (rating (rangesOf accept)) supported text ∧ 0 < rating (rangesOf accept) text
  refused : rangesOf accept ≠ [] → (negotiate accept supported = none ↔
    ∀ text ∈ supported, ¬ 0 < rating (rangesOf accept) text)
  rated : ∀ text number, Rates (rangesOf accept) text number ↔
    number = rating (rangesOf accept) text
  /-- The ranges are those of the pieces of the header that are written as ranges, in order. -/
  kept : ∀ header, accept = some header → ∃ read : String → Option MediaRange,
    (∀ piece range, read piece = some range ↔ MediaRange.Written piece range) ∧
      rangesOf accept = (Text.split ',' header).filterMap read

/-- Negotiation chooses by the ratings that the ranges of the header give, and between types that
are rated alike by their order. -/
theorem negotiate_prefers (accept : Option String) (supported : List String) :
    Negotiates accept supported where
  unconstrained := fun hnil => negotiate_of_nil hnil supported
  chosen := by
    intro hne text
    rw [negotiate_of_ne_nil hne, Option.filter_eq_some_iff, argmax_eq_some_iff_isFirstBest,
      decide_eq_true_eq]
  refused := by
    intro hne
    rw [negotiate_of_ne_nil hne, ← argmax_filter_lt, List.argmax_eq_none, List.filter_eq_nil_iff]
    simp only [decide_eq_true_eq]
  rated := fun _ _ => rates_iff
  kept := by
    rintro header rfl
    exact ⟨MediaRange.read?, fun _ _ => MediaRange.read?_eq_some, rfl⟩

/-! ## The order of the header -/

namespace MediaRange

/-- The range has one of the forms `type/subtype`, `type/*` and `*/*`. -/
def IsFormed (range : MediaRange) : Prop := range.media.kind = "*" → range.media.subtype = "*"

instance (range : MediaRange) : Decidable range.IsFormed :=
  inferInstanceAs (Decidable (range.media.kind = "*" → range.media.subtype = "*"))

/-- A range covers the types that agree with it where it has no star. -/
theorem covers_iff {range : MediaRange} {media : MediaType} :
    range.covers media = true ↔
      (range.media.kind = "*" ∨ range.media.kind = media.kind) ∧
        (range.media.subtype = "*" ∨ range.media.subtype = media.subtype) := by
  simp only [covers, Bool.and_eq_true, Bool.or_eq_true, beq_iff_eq]

/-- The range of a form that covers a type is known by how specific it is. -/
theorem media_of_covers {range : MediaRange} {media : MediaType} (formed : range.IsFormed)
    (h : range.covers media = true) :
    range.media =
      if range.specificity = 0 then ⟨"*", "*"⟩
      else if range.specificity = 1 then ⟨media.kind, "*"⟩
      else media := by
  obtain ⟨⟨kind, subtype⟩, quality⟩ := range
  obtain ⟨hkind, hsubtype⟩ := covers_iff.mp h
  rw [specificity]
  by_cases hany : kind = "*"
  · obtain rfl : subtype = "*" := formed hany
    rw [if_pos hany, if_pos rfl, hany]
  · obtain rfl : kind = media.kind := hkind.resolve_left hany
    rw [if_neg hany]
    by_cases hall : subtype = "*"
    · rw [if_pos hall, if_neg one_ne_zero, if_pos rfl, hall]
    · obtain rfl : subtype = media.subtype := hsubtype.resolve_left hall
      rw [if_neg hall]
      rfl

end MediaRange

/-- Each range of a form decides about a type by itself, so that the order does not count. -/
theorem decidingRange_perm {ranges ranges' : List MediaRange} (h : ranges.Perm ranges')
    (formed : ∀ range ∈ ranges, range.IsFormed) (distinct : (ranges.map MediaRange.media).Nodup)
    (media : MediaType) : decidingRange ranges media = decidingRange ranges' media := by
  rw [decidingRange_eq_argmax, decidingRange_eq_argmax]
  apply argmax_perm (h.filter _)
  intro first hfirst second hsecond alike
  obtain ⟨hfirst, hcovers⟩ := List.mem_filter.mp hfirst
  obtain ⟨hsecond, hcovers'⟩ := List.mem_filter.mp hsecond
  have hmedia : first.media = second.media := by
    rw [MediaRange.media_of_covers (formed first hfirst) hcovers,
      MediaRange.media_of_covers (formed second hsecond) hcovers', alike]
  exact List.inj_on_of_nodup_map distinct hfirst hsecond hmedia

/-- Headers with the same ranges in another order are answered alike. -/
theorem negotiate_perm {header header' : String}
    (same : (parseAccept header).Perm (parseAccept header'))
    (distinct : ((parseAccept header).map MediaRange.media).Nodup)
    (formed : ∀ range ∈ parseAccept header, range.IsFormed) (supported : List String) :
    negotiate (some header) supported = negotiate (some header') supported := by
  have hquality : qualityFor (parseAccept header) = qualityFor (parseAccept header') := by
    funext media
    rw [qualityFor, qualityFor, decidingRange_perm same formed distinct]
  have hrating : rating (rangesOf (some header)) = rating (rangesOf (some header')) := by
    funext text
    show (qualityOfText (parseAccept header) text).value =
      (qualityOfText (parseAccept header') text).value
    rw [qualityOfText, qualityOfText, hquality]
  by_cases hnil : rangesOf (some header) = []
  · have hnil' : rangesOf (some header') = [] := by
      apply List.nil_perm.mp
      rw [← hnil]
      exact same
    rw [negotiate_of_nil hnil, negotiate_of_nil hnil']
  · have hne' : rangesOf (some header') ≠ [] := by
      intro hnil'
      apply hnil
      apply List.perm_nil.mp
      rw [← hnil']
      exact same
    rw [negotiate_of_ne_nil hnil, negotiate_of_ne_nil hne', hrating]

/-- A header in which a type is listed after its wildcards, and one in which it is listed first. -/
theorem reordered_header_agrees :
    let header := "*/*;q=0.1, Text/*;q=0.5, text/plain"
    let header' := "text/plain; level=1, text/*; q=0.50, */*;q=0.1"
    (parseAccept header).Perm (parseAccept header') ∧
      ((parseAccept header).map MediaRange.media).Nodup ∧
      (∀ range ∈ parseAccept header, range.IsFormed) ∧
      negotiate (some header) ["text/html", "application/json", "text/plain"] =
        negotiate (some header') ["text/html", "application/json", "text/plain"] := by
  intro header header'
  have same : (parseAccept header).Perm (parseAccept header') := by decide +kernel
  have distinct : ((parseAccept header).map MediaRange.media).Nodup := by decide +kernel
  have formed : ∀ range ∈ parseAccept header, range.IsFormed := by decide +kernel
  exact ⟨same, distinct, formed, negotiate_perm same distinct formed _⟩

/-- The order counts between ranges that cover all kinds, since these are equally specific. -/
example : negotiate (some "*/plain, */*;q=0") ["text/plain"] = some "text/plain" ∧
    negotiate (some "*/*;q=0, */plain") ["text/plain"] = none := by decide +kernel

end RequestDispatch
