import Mathlib.Data.List.TakeWhile
import RequestDispatch.Http.Request
import RequestDispatch.Route.Basic

/-!
# Path templates and path values

A path template is literal text with placeholders in it. The names of its path are those of the
placeholders that have one, and path values go to names by position. So the value of a placeholder
is the one that has as many values before it as there are named placeholders before the placeholder,
and that is its own value as long as they are all named. `PathTemplate.bind_places` says so of every
template: a blank placeholder gives up its name but not its value, and moves the names after it.
-/

namespace RequestDispatch

/-! ## Templates -/

/-- A placeholder of a path template: a name, and perhaps a converter after a colon. -/
structure Placeholder where
  name : List Char
  converter : Option (List Char)
  name_plain : ∀ c ∈ name, c ≠ '}' ∧ c ≠ '{' ∧ c ≠ ':'
  converter_plain : ∀ text ∈ converter, ∀ c ∈ text, c ≠ '}' ∧ c ≠ '{'

namespace Placeholder

/-- What stands between the braces. -/
def inside (p : Placeholder) : List Char :=
  match p.converter with
  | none => p.name
  | some text => p.name ++ ':' :: text

/-- The name without white space around it, which is the name of a path value. -/
def key (p : Placeholder) : String := Text.trim (String.ofList p.name)

/-- Whether the placeholder has a name at all. -/
def isNamed (p : Placeholder) : Bool := p.key != ""

theorem not_mem_inside (p : Placeholder) : '}' ∉ p.inside := by
  intro h
  unfold inside at h
  split at h
  · exact (p.name_plain _ h).1 rfl
  · next text htext =>
    rcases List.mem_append.mp h with h | h
    · exact (p.name_plain _ h).1 rfl
    · rcases List.mem_cons.mp h with h | h
      · cases h
      · exact (p.converter_plain text htext _ h).1 rfl

/-- A placeholder is read by its name, whatever converter follows. -/
theorem placeholderName_inside (p : Placeholder) : placeholderName p.inside = p.key := by
  have before : p.inside.takeWhile (· != ':') = p.name := by
    have hname : ∀ c ∈ p.name, (c != ':') = true := fun c hc => by
      simpa using (p.name_plain c hc).2.2
    unfold inside
    split
    · exact List.takeWhile_eq_self_iff.mpr hname
    · rw [List.takeWhile_append_of_pos hname]
      simp
  rw [placeholderName, before, key]

end Placeholder

/-- A part of a path template. -/
inductive TemplatePiece where
  | literal (text : List Char) (plain : ∀ c ∈ text, c ≠ '}' ∧ c ≠ '{')
  | placeholder (p : Placeholder)

namespace TemplatePiece

/-- The text of a part. -/
def text : TemplatePiece → List Char
  | literal text _ => text
  | placeholder p => '{' :: p.inside ++ ['}']

/-- The placeholder that a part is. -/
def placeholder? : TemplatePiece → Option Placeholder
  | literal _ _ => none
  | placeholder p => some p

end TemplatePiece

/-- A path template: literal text and placeholders, in any number and order. -/
structure PathTemplate where
  pieces : List TemplatePiece

namespace PathTemplate

/-- The text of a template. -/
def text (t : PathTemplate) : String := String.ofList (t.pieces.flatMap TemplatePiece.text)

/-- The placeholders of a template in order. -/
def placeholders (t : PathTemplate) : List Placeholder :=
  t.pieces.filterMap TemplatePiece.placeholder?

end PathTemplate

/-! ## Reading a template -/

/-- Literal text holds no placeholder. -/
theorem placeholdersFrom_literal {text : List Char} (plain : ∀ c ∈ text, c ≠ '}' ∧ c ≠ '{')
    (rest : List Char) : placeholdersFrom none (text ++ rest) = placeholdersFrom none rest := by
  induction text with
  | nil => rfl
  | cons c text ih =>
    have hc := (plain c List.mem_cons_self).2
    rw [List.cons_append, placeholdersFrom, if_neg hc]
    exact ih fun c' hc' => plain c' (List.mem_cons_of_mem _ hc')

/-- Inside a placeholder everything up to the closing brace is read. -/
theorem placeholdersFrom_inside {text : List Char} (closed : '}' ∉ text) (read rest : List Char) :
    placeholdersFrom (some read) (text ++ '}' :: rest) =
      (read.reverse ++ text) :: placeholdersFrom none rest := by
  induction text generalizing read with
  | nil => simp [placeholdersFrom]
  | cons c text ih =>
    rw [List.mem_cons, not_or] at closed
    rw [List.cons_append, placeholdersFrom, if_neg (Ne.symm closed.1), ih closed.2]
    simp

/-- Reading a template finds its placeholders. -/
theorem placeholdersFrom_pieces (pieces : List TemplatePiece) :
    placeholdersFrom none (pieces.flatMap TemplatePiece.text) =
      (pieces.filterMap TemplatePiece.placeholder?).map Placeholder.inside := by
  induction pieces with
  | nil => rfl
  | cons piece pieces ih =>
    rw [List.flatMap_cons]
    cases piece with
    | literal text plain =>
      rw [TemplatePiece.text, placeholdersFrom_literal plain, ih]
      rfl
    | placeholder p =>
      have hread := placeholdersFrom_inside p.not_mem_inside [] (pieces.flatMap TemplatePiece.text)
      simp only [TemplatePiece.text, List.cons_append, List.append_assoc, List.nil_append,
        placeholdersFrom, if_true, hread, ih]
      rfl

namespace PathTemplate

/-- The names of a template are the keys of its named placeholders. -/
theorem placeholderNames_text (t : PathTemplate) :
    placeholderNames t.text = (t.placeholders.filter Placeholder.isNamed).map Placeholder.key := by
  have hinside : (t.placeholders.map Placeholder.inside).map placeholderName =
      t.placeholders.map Placeholder.key := by
    rw [List.map_map]
    exact List.map_congr_left fun p _ => p.placeholderName_inside
  rw [placeholderNames, text, String.toList_ofList, placeholdersFrom_pieces, ← placeholders,
    hinside, List.filter_map]
  rfl

end PathTemplate

/-! ## Binding values -/

/-- The first parameter of a name has the value at the place of the name. -/
theorem find?_zip_of_not_mem {before after : List String} {name : String} (h : name ∉ before)
    (values : List String) :
    (((before ++ name :: after).zip values).find? fun (n, _) => n == name).map (·.2) =
      values[before.length]? := by
  induction before generalizing values with
  | nil => cases values <;> simp
  | cons other before ih =>
    rw [List.mem_cons, not_or] at h
    cases values with
    | nil => simp
    | cons value values =>
      have hother : (other == name) = false := beq_eq_false_iff_ne.mpr (Ne.symm h.1)
      simp only [List.cons_append, List.zip_cons_cons, List.find?_cons, hother, List.length_cons,
        List.getElem?_cons_succ]
      exact ih h.2 values

namespace PathTemplate

/-- A placeholder of a template that has a name, as the first one with that name, and the
placeholders before it. -/
structure Placed (t : PathTemplate) (before : List Placeholder) (p : Placeholder) : Prop where
  occurs : ∃ after, t.placeholders = before ++ p :: after
  named : p.isNamed
  first : ∀ q ∈ before, q.key ≠ p.key

/-- How path values reach the placeholders of a template. -/
structure Places (t : PathTemplate) (values : List String) (view : RequestView) : Prop where
  /-- A placeholder gets the value that has as many values before it as there are named placeholders
  before the placeholder. -/
  bound : ∀ before p, t.Placed before p →
    view.pathParam? p.key = values[(before.filter Placeholder.isNamed).length]?
  /-- With one value for every placeholder, this is its own value if those before it are named. -/
  own : values.length = t.placeholders.length → ∀ before p, t.Placed before p →
    (∀ q ∈ before, q.isNamed) →
      ∃ value, values[before.length]? = some value ∧ view.pathParam? p.key = some value
  /-- If one before it is blank, it is the value of a placeholder before it. -/
  moved : values.length = t.placeholders.length → ∀ before p, t.Placed before p →
    (∃ q ∈ before, ¬ q.isNamed) →
      ∃ i < before.length, ∃ value, values[i]? = some value ∧ view.pathParam? p.key = some value

theorem pathParam?_key {t : PathTemplate} {before : List Placeholder} {p : Placeholder}
    (h : t.Placed before p) (request : Request) :
    (RequestView.bind request (placeholderNames t.text)).pathParam? p.key =
      request.pathValues[(before.filter Placeholder.isNamed).length]? := by
  obtain ⟨⟨after, heq⟩, named, first⟩ := h
  have hkeys : placeholderNames t.text =
      (before.filter Placeholder.isNamed).map Placeholder.key ++
        p.key :: (after.filter Placeholder.isNamed).map Placeholder.key := by
    simp [placeholderNames_text, heq, named]
  have hnew : p.key ∉ (before.filter Placeholder.isNamed).map Placeholder.key := by
    intro hmem
    obtain ⟨q, hq, hkey⟩ := List.mem_map.mp hmem
    exact first q (List.mem_filter.mp hq).1 hkey
  rw [RequestView.pathParam?, RequestView.bind, hkeys, find?_zip_of_not_mem hnew, List.length_map]

/-- Every request is bound to a template in this way. -/
theorem bind_places (t : PathTemplate) (request : Request) :
    t.Places request.pathValues (.bind request (placeholderNames t.text)) := by
  have before_lt {before : List Placeholder} {p : Placeholder} (h : t.Placed before p)
      (hvalues : request.pathValues.length = t.placeholders.length) :
      before.length < request.pathValues.length := by
    obtain ⟨⟨after, heq⟩, -, -⟩ := h
    rw [hvalues, heq, List.length_append, List.length_cons]
    omega
  refine ⟨fun before p h => pathParam?_key h request, fun hvalues before p h hall => ?_,
    fun hvalues before p h hblank => ?_⟩
  · have hlt := before_lt h hvalues
    refine ⟨_, List.getElem?_eq_getElem hlt, ?_⟩
    rw [pathParam?_key h, List.filter_eq_self.mpr hall, List.getElem?_eq_getElem hlt]
  · have hmoved : (before.filter Placeholder.isNamed).length < before.length :=
      List.length_filter_lt_length_iff_exists.mpr hblank
    have hlt := Nat.lt_trans hmoved (before_lt h hvalues)
    refine ⟨_, hmoved, _, List.getElem?_eq_getElem hlt, ?_⟩
    rw [pathParam?_key h, List.getElem?_eq_getElem hlt]

/-- A template whose first placeholder has no name. -/
def anonymousFirst : PathTemplate :=
  ⟨[.literal ['/'] (by simp), .placeholder ⟨[], none, by simp, by simp⟩, .literal ['/'] (by simp),
    .placeholder ⟨['i', 'd'], none, by simp, by simp⟩]⟩

/-- The request whose path gives a value for each placeholder. -/
def twoValues : Request := { Request.new "GET" "/x/7" with pathValues := ["x", "7"] }

/-- The second placeholder is named, and it gets the value of the first one instead of its own. -/
theorem value_of_blank_taken :
    anonymousFirst.text = "/{}/{id}" ∧
      anonymousFirst.placeholders.map Placeholder.key = ["", "id"] ∧
      twoValues.pathValues[1]? = some "7" ∧
      (RequestView.bind twoValues (placeholderNames anonymousFirst.text)).pathParam? "id" =
        some "x" := by
  decide

end PathTemplate

end RequestDispatch
