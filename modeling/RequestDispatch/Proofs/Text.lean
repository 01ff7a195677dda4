import Mathlib.Data.List.DropRight
import Mathlib.Data.List.Induction
import Mathlib.Data.List.TakeWhile
import RequestDispatch.Http.Headers
import RequestDispatch.Text.Basic

/-!
# Laws of text rules

Where a text is cut, what trimming does to the two sides of a character that stays, and which
characters a header value may be made of.
-/

namespace RequestDispatch

namespace Text

/-! ## Cutting -/

/-- Splitting a text leaves one part at least. -/
theorem splitChars_ne_nil (sep : Char) (cs : List Char) : splitChars sep cs ≠ [] := by
  cases cs with
  | nil => exact List.cons_ne_nil _ _
  | cons c cs =>
    rw [splitChars]
    split
    · exact List.cons_ne_nil _ _
    · split <;> exact List.cons_ne_nil _ _

/-- What stands before the first separator is the first piece. -/
theorem head?_splitChars (sep : Char) (cs : List Char) :
    (splitChars sep cs).head? = some (cs.takeWhile (· != sep)) := by
  induction cs with
  | nil => rfl
  | cons c cs ih =>
    rw [splitChars]
    by_cases h : c = sep
    · rw [if_pos h, List.takeWhile_cons_of_neg (by simpa using h)]
      rfl
    · rw [if_neg h, List.takeWhile_cons_of_pos (by simpa using h)]
      split
      · next hnil => exact absurd hnil (splitChars_ne_nil sep cs)
      · next piece pieces hpieces =>
        rw [hpieces, List.head?_cons, Option.some.injEq] at ih
        rw [ih]
        rfl

/-- A text is cut at the first separator. -/
theorem cutChars_append {sep : Char} {before : List Char} (h : sep ∉ before) (after : List Char) :
    cutChars sep (before ++ sep :: after) = some (before, after) := by
  induction before with
  | nil => simp [cutChars]
  | cons c before ih =>
    rw [List.mem_cons, not_or] at h
    rw [List.cons_append, cutChars, if_neg (Ne.symm h.1), ih h.2]
    rfl

/-- A text without the separator is not cut. -/
theorem cutChars_eq_none {sep : Char} {cs : List Char} (h : sep ∉ cs) : cutChars sep cs = none := by
  induction cs with
  | nil => rfl
  | cons c cs ih =>
    rw [List.mem_cons, not_or] at h
    rw [cutChars, if_neg (Ne.symm h.1), ih h.2]
    rfl

/-- A text is cut at the first separator. -/
theorem eq_append_of_cutChars {sep : Char} {cs before after : List Char}
    (h : cutChars sep cs = some (before, after)) : cs = before ++ sep :: after ∧ sep ∉ before := by
  by_cases hsep : sep ∈ cs
  · obtain ⟨first, rest, rfl, hfirst⟩ := List.eq_append_cons_of_mem hsep
    rw [cutChars_append hfirst] at h
    obtain ⟨rfl, rfl⟩ := Prod.mk.inj (Option.some.inj h)
    exact ⟨rfl, hfirst⟩
  · rw [cutChars_eq_none hsep] at h
    cases h

/-- A text is cut into what stands before and after its first separator. -/
theorem cut_eq_some {sep : Char} {s before after : String} :
    cut sep s = some (before, after) ↔
      s.toList = before.toList ++ sep :: after.toList ∧ sep ∉ before.toList := by
  constructor
  · intro h
    obtain ⟨⟨first, rest⟩, hcut, hparts⟩ := Option.map_eq_some_iff.mp h
    obtain ⟨rfl, rfl⟩ := Prod.mk.inj hparts
    rw [String.toList_ofList, String.toList_ofList]
    exact eq_append_of_cutChars hcut
  · rintro ⟨heq, hsep⟩
    rw [cut, heq, cutChars_append hsep]
    simp

/-- An ending that has not the sign in it is an ending of what follows the sign. -/
theorem suffix_append_cons {α : Type} {sign : α} {ending before after : List α}
    (h : sign ∉ ending) : ending <:+ before ++ sign :: after ↔ ending <:+ after := by
  constructor
  · intro hending
    rcases List.suffix_or_suffix_of_suffix hending (List.suffix_append before (sign :: after))
      with hshort | hlong
    · rcases List.suffix_cons_iff.mp hshort with rfl | hafter
      · exact absurd List.mem_cons_self h
      · exact hafter
    · exact absurd (hlong.subset List.mem_cons_self) h
  · intro hending
    exact hending.trans ((List.suffix_cons sign after).trans (List.suffix_append before _))

/-! ## Trimming -/

/-- Trimming takes blanks away from the left and then from the right. -/
theorem trimChars_eq (cs : List Char) : trimChars cs = (cs.dropWhile isBlank).rdropWhile isBlank :=
  rfl

/-- It does not matter at which end trimming begins. -/
theorem dropWhile_rdropWhile {α : Type} (p : α → Bool) (l : List α) :
    (l.rdropWhile p).dropWhile p = (l.dropWhile p).rdropWhile p := by
  -- by the last element, which goes or ends the trimming at that end
  induction l using List.reverseRecOn with
  | nil => rfl
  | append_singleton l a ih =>
    rw [List.dropWhile_append]
    by_cases ha : p a
    · rw [List.rdropWhile_concat_pos p l a ha, ih]
      split
      · next hempty =>
        rw [List.isEmpty_iff.mp hempty, List.dropWhile_cons_of_pos ha, List.dropWhile_nil]
      · rw [List.rdropWhile_concat_pos p _ a ha]
    · rw [List.rdropWhile_concat_neg p l a ha, List.dropWhile_append]
      split
      · rw [List.dropWhile_cons_of_neg ha, ← List.nil_append [a],
          List.rdropWhile_concat_neg p _ a ha]
      · rw [List.rdropWhile_concat_neg p _ a ha]

@[simp] theorem trimChars_dropWhile (cs : List Char) :
    trimChars (cs.dropWhile isBlank) = trimChars cs := by
  rw [trimChars_eq, trimChars_eq, List.dropWhile_idempotent]

@[simp] theorem trimChars_rdropWhile (cs : List Char) :
    trimChars (cs.rdropWhile isBlank) = trimChars cs := by
  rw [trimChars_eq, trimChars_eq, dropWhile_rdropWhile, List.rdropWhile_idempotent]

/-- Around a character that is not blank the two sides are trimmed at their outer ends. -/
theorem trimChars_append_cons {c : Char} (h : ¬ isBlank c) (before after : List Char) :
    trimChars (before ++ c :: after) =
      before.dropWhile isBlank ++ c :: after.rdropWhile isBlank := by
  have hleft :
      (before ++ c :: after).dropWhile isBlank = before.dropWhile isBlank ++ c :: after := by
    rw [List.dropWhile_append]
    split
    · next hempty => rw [List.isEmpty_iff.mp hempty, List.dropWhile_cons_of_neg h, List.nil_append]
    · rfl
  have hright (l : List Char) :
      (l ++ c :: after).rdropWhile isBlank = l ++ c :: after.rdropWhile isBlank := by
    rw [List.rdropWhile, List.reverse_append, List.reverse_cons, List.append_assoc,
      List.singleton_append, List.dropWhile_append, List.rdropWhile]
    split
    · next hempty =>
      rw [List.isEmpty_iff.mp hempty, List.dropWhile_cons_of_neg h]
      simp
    · simp
  rw [trimChars_eq, hleft, hright]

/-- A text without blanks is trimmed already. -/
theorem trim_of_forall {s : String} (h : ∀ c ∈ s.toList, ¬ isBlank c) : trim s = s := by
  have hfront : s.toList.dropWhile isBlank = s.toList :=
    List.dropWhile_eq_self_iff.mpr fun _ => h _ (List.getElem_mem _)
  have hback : s.toList.rdropWhile isBlank = s.toList :=
    List.rdropWhile_eq_self_iff.mpr fun _ => h _ (List.getLast_mem _)
  rw [trim, trimChars_eq, hfront, hback, String.ofList_toList]

/-- What is left of a trimmed text was in it. -/
theorem mem_of_mem_trimChars {c : Char} {cs : List Char} (h : c ∈ trimChars cs) : c ∈ cs :=
  (List.dropWhile_suffix isBlank).subset ((List.rdropWhile_prefix isBlank _).subset h)

/-! ## Letter case -/

/-- A capital letter becomes a small one, and other characters stay. -/
theorem toLower_cases (c : Char) :
    (65 ≤ c.toNat ∧ c.toNat ≤ 90 ∧ c.toLower.toNat = c.toNat + 32) ∨ c.toLower = c := by
  delta Char.toLower
  split
  · next hcapital =>
    simp only [ge_iff_le, UInt32.le_iff_toNat_le] at hcapital
    obtain ⟨hlow, hhigh⟩ : 65 ≤ c.toNat ∧ c.toNat ≤ 90 := hcapital
    refine .inl ⟨hlow, hhigh, ?_⟩
    show (c.val + 32).toNat = c.val.toNat + 32
    have hsum : c.val.toNat + 32 < 2 ^ 32 := by
      change c.toNat + 32 < 2 ^ 32
      omega
    rw [UInt32.toNat_add, UInt32.toNat_ofNat, Nat.mod_eq_of_lt hsum]
  · exact .inr rfl

/-- A sign with a code below the letters is the small form of itself alone. -/
theorem toLower_eq_sign {c sign : Char} (h : sign.toNat < 65) : c.toLower = sign ↔ c = sign := by
  rcases toLower_cases c with ⟨hlow, hhigh, hcode⟩ | hsame
  · constructor
    · rintro rfl
      omega
    · rintro rfl
      omega
  · rw [hsame]

/-- A letter is no blank in either case. -/
theorem isBlank_toLower (c : Char) : isBlank c.toLower = isBlank c := by
  rcases toLower_cases c with ⟨hlow, hhigh, hcode⟩ | hsame
  · rw [isBlank, isBlank, hcode, Bool.eq_iff_iff]
    simp only [Bool.or_eq_true, Bool.and_eq_true, beq_iff_eq, decide_eq_true_eq]
    omega
  · rw [hsame]

/-- The star is the small form of no other text. -/
theorem lowerAscii_eq_star {s : String} : lowerAscii s = "*" ↔ s = "*" := by
  have hstar (t : String) : t = "*" ↔ t.toList = ['*'] := String.toList_inj.symm
  rw [hstar, hstar, lowerAscii, String.toList_ofList, List.map_eq_singleton_iff]
  constructor
  · rintro ⟨c, hs, hc⟩
    rw [hs, (toLower_eq_sign (by decide)).mp hc]
  · intro hs
    exact ⟨'*', hs, by decide⟩

/-- Letter case does not matter to a cut at a sign. -/
theorem cut_lowerAscii {sign : Char} (hsign : sign.toNat < 65) {s before after : String}
    (h : cut sign s = some (before, after)) :
    cut sign (lowerAscii s) = some (lowerAscii before, lowerAscii after) := by
  obtain ⟨hs, hbefore⟩ := cut_eq_some.mp h
  rw [cut_eq_some, lowerAscii, lowerAscii, lowerAscii]
  simp only [String.toList_ofList]
  constructor
  · rw [hs, List.map_append, List.map_cons, (toLower_eq_sign hsign).mpr rfl]
  · intro hmem
    obtain ⟨c, hc, hlower⟩ := List.mem_map.mp hmem
    exact hbefore ((toLower_eq_sign hsign).mp hlower ▸ hc)

/-- Nor does it matter to trimming. -/
theorem lowerAscii_trim (s : String) : lowerAscii (trim s) = trim (lowerAscii s) := by
  have hblank : isBlank ∘ Char.toLower = isBlank := funext isBlank_toLower
  have hfront (cs : List Char) :
      (cs.map Char.toLower).dropWhile isBlank = (cs.dropWhile isBlank).map Char.toLower := by
    rw [List.dropWhile_map, hblank]
  rw [lowerAscii, lowerAscii, trim, trim, String.toList_ofList, String.toList_ofList, trimChars,
    trimChars, hfront, ← List.map_reverse, hfront, ← List.map_reverse]

end Text

/-! ## Header values -/

/-- Whether a header value may hold the character: no control character except the tab. -/
def isHeaderChar (c : Char) : Bool := c == '\t' || (' ' ≤ c && c != '\x7f')

/-- A character may stand in a header if it is no control character. -/
theorem isHeaderChar_eq (c : Char) :
    isHeaderChar c = (c.toNat == 9 || (32 ≤ c.toNat && c.toNat != 127) : Bool) := by
  rw [isHeaderChar, Bool.eq_iff_iff]
  simp only [Bool.or_eq_true, beq_iff_eq, Bool.and_eq_true, decide_eq_true_eq, bne_iff_ne, ne_eq,
    Char.le_def, ← Char.val_inj, ← UInt32.toNat_inj, UInt32.le_iff_toNat_le]
  rfl

theorem isHeaderOctet_ofNat {n : Nat} (h : n < 256) :
    isHeaderOctet (UInt8.ofNat n) = (n == 9 || (32 ≤ n && n != 127) : Bool) := by
  rw [isHeaderOctet, Bool.eq_iff_iff]
  simp only [Bool.or_eq_true, beq_iff_eq, Bool.and_eq_true, decide_eq_true_eq, bne_iff_ne, ne_eq,
    UInt8.le_iff_toNat_le, ← UInt8.toNat_inj, UInt8.toNat_ofNat', UInt8.reduceToNat]
  omega

/-- An octet of a longer sequence is never a control character. -/
theorem isHeaderOctet_high {n : Nat} (hlow : 128 ≤ n) (hhigh : n < 256) :
    isHeaderOctet (UInt8.ofNat n) = true := by
  rw [isHeaderOctet_ofNat hhigh]
  simp only [Bool.or_eq_true, beq_iff_eq, Bool.and_eq_true, decide_eq_true_eq, bne_iff_ne, ne_eq]
  omega

/-- The octets of a character may stand in a header value where the character may. -/
theorem all_encodeChar (c : Char) : (Utf8.encodeChar c).all isHeaderOctet = isHeaderChar c := by
  have hcode : c.toNat < 0x110000 := by
    have hvalid := c.valid
    simp only [UInt32.isValidChar, Nat.isValidChar] at hvalid
    change c.val.toNat < _
    omega
  rw [Utf8.encodeChar, isHeaderChar_eq]
  split
  · rw [List.all_cons, isHeaderOctet_ofNat (by omega)]
    simp
  · have hself : (c.toNat == 9 || (32 ≤ c.toNat && c.toNat != 127) : Bool) = true := by
      simp only [Bool.or_eq_true, beq_iff_eq, Bool.and_eq_true, decide_eq_true_eq, bne_iff_ne,
        ne_eq]
      omega
    rw [hself]
    -- by the number of octets, none of which is below 128
    split
    · simp (disch := omega) only [List.all_cons, List.all_nil, isHeaderOctet_high, Bool.and_true]
    · split
      · simp (disch := omega) only [List.all_cons, List.all_nil, isHeaderOctet_high, Bool.and_true]
      · simp (disch := omega) only [List.all_cons, List.all_nil, isHeaderOctet_high, Bool.and_true]

/-- A text is a valid header value unless it has a control character. -/
theorem headerValue?_eq_some {text : String} {value : Bytes} :
    headerValue? text = some value ↔
      value = Utf8.encode text ∧ ∀ c ∈ text.toList, isHeaderChar c := by
  have hall : (Utf8.encode text).all isHeaderOctet = text.toList.all isHeaderChar := by
    rw [Utf8.encode, List.all_flatMap]
    simp only [all_encodeChar]
  rw [headerValue?, hall]
  simp only [← List.all_eq_true]
  split
  · next h => simp [h, eq_comm]
  · next h => simp [h]

end RequestDispatch
