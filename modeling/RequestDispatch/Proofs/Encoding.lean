import Mathlib.Data.List.Basic
import RequestDispatch.Text.Utf8

/-!
# UTF-8 is read back

Reading the octets of a text gives the text. The reader is the strict one: it takes each character
in the octets it was written in and in no others, so the ranges it allows for the second octet have
to fit the ranges in which characters need three and four.
-/

namespace RequestDispatch

namespace Utf8

theorem toNat_ofNat {m : Nat} (h : m < 256) : (UInt8.ofNat m).toNat = m := by
  rw [UInt8.toNat_ofNat']
  omega

/-- A following octet in its range adds six bits. -/
theorem follow_octet {low high m : Nat} (hlow : low ≤ m) (hhigh : m ≤ high) (hm : m < 256)
    (count acc : Nat) (rest : Bytes) :
    follow (count + 1) low high acc (UInt8.ofNat m :: rest) =
      follow count 0x80 0xBF (acc * 64 + m % 64) rest := by
  rw [follow, toNat_ofNat hm, if_pos ⟨hlow, hhigh⟩]

/-- What a leading octet of the given number announces. -/
theorem lead_one {m : Nat} (h : m < 0x80) :
    lead (UInt8.ofNat m) = some (m, 0, 0x80, 0xBF) := by
  rw [lead, toNat_ofNat (by omega), if_pos h]

theorem lead_two {m : Nat} (hlow : 0xC2 ≤ m) (hhigh : m < 0xE0) :
    lead (UInt8.ofNat m) = some (m - 0xC0, 1, 0x80, 0xBF) := by
  rw [lead, toNat_ofNat (by omega), if_neg (by omega), if_neg (by omega), if_pos hhigh]

theorem lead_three {m : Nat} (hlow : 0xE0 ≤ m) (hhigh : m < 0xF0) :
    lead (UInt8.ofNat m) =
      some (m - 0xE0, 2, if m = 0xE0 then 0xA0 else 0x80, if m = 0xED then 0x9F else 0xBF) := by
  rw [lead, toNat_ofNat (by omega), if_neg (by omega), if_neg (by omega), if_neg (by omega)]
  by_cases hfirst : m = 0xE0
  · subst hfirst
    rfl
  · by_cases hsurrogate : m = 0xED
    · subst hsurrogate
      rfl
    · simp only [hfirst, hsurrogate, if_false, hhigh, if_true]

theorem lead_four {m : Nat} (hlow : 0xF0 ≤ m) (hhigh : m ≤ 0xF4) :
    lead (UInt8.ofNat m) =
      some (m - 0xF0, 3, if m = 0xF0 then 0x90 else 0x80, if m = 0xF4 then 0x8F else 0xBF) := by
  rw [lead, toNat_ofNat (by omega), if_neg (by omega), if_neg (by omega), if_neg (by omega),
    if_neg (by omega), if_neg (by omega), if_neg (by omega)]
  by_cases hfirst : m = 0xF0
  · subst hfirst
    rfl
  · by_cases hlast : m = 0xF4
    · subst hlast
      rfl
    · have hbelow : m < 0xF4 := by omega
      simp only [hfirst, hlast, if_false, hbelow, if_true]

theorem step_of_follow {b : UInt8} {payload count low high : Nat} {rest rest' : Bytes} {c : Char}
    (hlead : lead b = some (payload, count, low, high))
    (hfollow : follow count low high payload rest = (some c.toNat, rest')) :
    step b rest = (some c, rest') := by
  rw [step, hlead]
  simp only [hfollow, Char.ofNat_toNat]

/-- The code points of characters: surrogates are none. -/
theorem toNat_valid (c : Char) : c.toNat < 0xD800 ∨ 0xDFFF < c.toNat ∧ c.toNat < 0x110000 :=
  c.valid

/-- A character is read from its octets. -/
theorem step_encodeChar (c : Char) (rest : Bytes) :
    ∃ b more, encodeChar c ++ rest = b :: more ∧ step b more = (some c, rest) := by
  have hvalid := toNat_valid c
  rw [encodeChar]
  by_cases hone : c.toNat < 0x80
  · rw [if_pos hone]
    exact ⟨_, _, rfl, step_of_follow (lead_one hone) rfl⟩
  rw [if_neg hone]
  by_cases htwo : c.toNat < 0x800
  · rw [if_pos htwo]
    simp only [List.cons_append, List.nil_append]
    refine ⟨_, _, rfl, step_of_follow (lead_two (by omega) (by omega)) ?_⟩
    have hcode : (0xC0 + c.toNat / 64 - 0xC0) * 64 + (0x80 + c.toNat % 64) % 64 = c.toNat := by
      omega
    rw [follow_octet (by omega) (by omega) (by omega), hcode, follow]
  rw [if_neg htwo]
  by_cases hthree : c.toNat < 0x10000
  · rw [if_pos hthree]
    simp only [List.cons_append, List.nil_append]
    refine ⟨_, _, rfl, step_of_follow (lead_three (by omega) (by omega)) ?_⟩
    have hcode : ((0xE0 + c.toNat / 4096 - 0xE0) * 64 + (0x80 + c.toNat / 64 % 64) % 64) * 64 +
        (0x80 + c.toNat % 64) % 64 = c.toNat := by omega
    rw [follow_octet _ _ (by omega), follow_octet (by omega) (by omega) (by omega), hcode, follow]
    -- what needs three octets is not below the 2048th, and no surrogate
    · split <;> omega
    · split <;> omega
  · rw [if_neg hthree]
    simp only [List.cons_append, List.nil_append]
    refine ⟨_, _, rfl, step_of_follow (lead_four (by omega) (by omega)) ?_⟩
    have hcode : (((0xF0 + c.toNat / 262144 - 0xF0) * 64 + (0x80 + c.toNat / 4096 % 64) % 64) * 64 +
        (0x80 + c.toNat / 64 % 64) % 64) * 64 + (0x80 + c.toNat % 64) % 64 = c.toNat := by omega
    rw [follow_octet _ _ (by omega), follow_octet (by omega) (by omega) (by omega),
      follow_octet (by omega) (by omega) (by omega), hcode, follow]
    -- what needs four octets is not below the 65536th and not above the last character
    · split <;> omega
    · split <;> omega

/-- No octet of a character beyond the 128th is one of those before. -/
theorem encodeChar_high {c : Char} (h : 0x80 ≤ c.toNat) : ∀ b ∈ encodeChar c, 0x80 ≤ b.toNat := by
  have hvalid := toNat_valid c
  have octet {m : Nat} (hlow : 0x80 ≤ m) (hhigh : m < 256) : 0x80 ≤ (UInt8.ofNat m).toNat := by
    rw [toNat_ofNat hhigh]
    exact hlow
  intro b hb
  rw [encodeChar, if_neg (Nat.not_lt.mpr h)] at hb
  split at hb
  · simp only [List.mem_cons, List.not_mem_nil, or_false] at hb
    rcases hb with rfl | rfl <;> exact octet (by omega) (by omega)
  · split at hb
    · simp only [List.mem_cons, List.not_mem_nil, or_false] at hb
      rcases hb with rfl | rfl | rfl <;> exact octet (by omega) (by omega)
    · simp only [List.mem_cons, List.not_mem_nil, or_false] at hb
      rcases hb with rfl | rfl | rfl | rfl <;> exact octet (by omega) (by omega)

theorem encodeChar_ne_nil (c : Char) : encodeChar c ≠ [] := by
  obtain ⟨b, more, h, -⟩ := step_encodeChar c []
  rw [List.append_nil] at h
  rw [h]
  exact List.cons_ne_nil b more

/-- The characters of a text are read from its octets, however many more are looked for. -/
theorem unitsUpTo_flatMap {cs : List Char} {limit : Nat} (h : cs.length ≤ limit) :
    unitsUpTo limit (cs.flatMap encodeChar) = cs.map some := by
  induction cs generalizing limit with
  | nil => simp only [List.flatMap_nil, unitsUpTo, List.map_nil]
  | cons c cs ih =>
    obtain ⟨limit, rfl⟩ : ∃ n, limit = n + 1 := Nat.exists_eq_add_one.mpr (by
      rw [List.length_cons] at h
      omega)
    obtain ⟨b, more, hoctets, hstep⟩ := step_encodeChar c (cs.flatMap encodeChar)
    rw [List.flatMap_cons, hoctets, unitsUpTo, hstep, ih (by simpa using h), List.map_cons]

/-- A text has at least as many octets as characters. -/
theorem length_le_flatMap (cs : List Char) : cs.length ≤ (cs.flatMap encodeChar).length := by
  induction cs with
  | nil => exact Nat.le_refl 0
  | cons c cs ih =>
    have hpos := List.length_pos_iff.mpr (encodeChar_ne_nil c)
    rw [List.flatMap_cons, List.length_append, List.length_cons]
    omega

theorem units_encode (text : String) : units (encode text) = text.toList.map some :=
  unitsUpTo_flatMap (length_le_flatMap text.toList)

/-- A text is read from its octets. -/
theorem decode?_encode (text : String) : decode? (encode text) = some text := by
  have hall (cs : List Char) : (cs.map some).mapM id = some cs := by
    induction cs with
    | nil => rfl
    | cons c cs ih =>
      rw [List.map_cons, List.mapM_cons, ih]
      rfl
  rw [decode?, units_encode, hall, Option.map_some, String.ofList_toList]

end Utf8

end RequestDispatch
