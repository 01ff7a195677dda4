import Mathlib.Data.List.Basic
import Mathlib.Tactic.IntervalCases
import RequestDispatch.Json.Number

/-!
# Decimal numerals

A number is written as its decimal digits, the most significant first and without zeros in front.
`isNumeral_encode` says so of the octets that are sent for it.
-/

namespace RequestDispatch

/-- Whether the octet is a decimal digit. -/
def IsDigit (b : UInt8) : Prop := 48 ≤ b.toNat ∧ b.toNat ≤ 57

/-- The number that further digits make of the number before them. -/
def digitsValue (start : Nat) (digits : Bytes) : Nat :=
  digits.foldl (fun n b => n * 10 + (b.toNat - 48)) start

/-- Octets that write a number in decimal. -/
structure IsNumeral (octets : Bytes) (n : Nat) : Prop where
  nonempty : octets ≠ []
  digits : ∀ b ∈ octets, IsDigit b
  value : digitsValue 0 octets = n
  /-- No zero stands in front. -/
  shortest : octets.head? = some 48 → octets = [48]

theorem digitsValue_nil (start : Nat) : digitsValue start [] = start := by
  simp only [digitsValue, List.foldl_nil]

theorem digitsValue_cons (start : Nat) (b : UInt8) (digits : Bytes) :
    digitsValue start (b :: digits) = digitsValue (start * 10 + (b.toNat - 48)) digits := by
  simp only [digitsValue, List.foldl_cons]

/-- Digits never make a number smaller. -/
theorem le_digitsValue (start : Nat) (digits : Bytes) : start ≤ digitsValue start digits := by
  induction digits generalizing start with
  | nil => rw [digitsValue_nil]
  | cons b digits ih =>
    rw [digitsValue_cons]
    have h := ih (start * 10 + (b.toNat - 48))
    omega

/-! ## Numerals as they are written -/

/-- A character below the 128th is one octet. -/
theorem Utf8.encodeChar_ascii {c : Char} (h : c.toNat < 0x80) :
    encodeChar c = [UInt8.ofNat c.toNat] := if_pos h

/-- A text of such characters has one octet for each. -/
theorem Utf8.flatMap_encodeChar_ascii {cs : List Char} (h : ∀ c ∈ cs, c.toNat < 0x80) :
    cs.flatMap encodeChar = cs.map fun c => UInt8.ofNat c.toNat := by
  induction cs with
  | nil => rfl
  | cons c cs ih =>
    rw [List.flatMap_cons, encodeChar_ascii (h c List.mem_cons_self),
      ih fun d hd => h d (List.mem_cons_of_mem c hd)]
    rfl

theorem toNat_of_mem_toDigits {n : Nat} {c : Char} (h : c ∈ Nat.toDigits 10 n) :
    48 ≤ c.toNat ∧ c.toNat ≤ 57 := by
  have hdigit := Nat.isDigit_of_mem_toDigits (by decide) (by decide) h
  simp only [Char.isDigit, Bool.and_eq_true, decide_eq_true_eq, UInt32.le_iff_toNat_le] at hdigit
  exact hdigit

/-- The octets of a number are its digits. -/
theorem encode_toString (n : Nat) :
    Utf8.encode (toString n) = (Nat.toDigits 10 n).map fun c => UInt8.ofNat c.toNat := by
  rw [Utf8.encode, Nat.toString_eq_ofList_toDigits, String.toList_ofList]
  refine Utf8.flatMap_encodeChar_ascii fun c hc => ?_
  have h := toNat_of_mem_toDigits hc
  omega

/-- Only zero begins with the digit zero. -/
theorem head?_toDigits {n : Nat} (h : (Nat.toDigits 10 n).head? = some '0') : n = 0 := by
  induction n using Nat.strongRecOn with
  | _ n ih =>
    by_cases hsmall : n < 10
    · rw [Nat.toDigits_of_lt_base hsmall, List.head?_cons, Option.some.injEq] at h
      interval_cases n <;> first | rfl | exact absurd h (by decide)
    · have hhead : (Nat.toDigits 10 n).head? = (Nat.toDigits 10 (n / 10)).head? := by
        rw [Nat.toDigits_of_base_le (by decide) (by omega)]
        exact List.head?_append_of_ne_nil _ Nat.toDigits_ne_nil
      have hquotient := ih (n / 10) (by omega) (hhead ▸ h)
      omega

/-- Digits as octets have the value they have as characters. -/
theorem digitsValue_map {cs : List Char} (h : ∀ c ∈ cs, 48 ≤ c.toNat ∧ c.toNat ≤ 57)
    (start : Nat) :
    digitsValue start (cs.map fun c => UInt8.ofNat c.toNat) = Nat.ofDigitChars 10 cs start := by
  induction cs generalizing start with
  | nil => rw [List.map_nil, digitsValue_nil, Nat.ofDigitChars_nil]
  | cons c cs ih =>
    have hoctet : (UInt8.ofNat c.toNat).toNat = c.toNat := by
      have hc := h c List.mem_cons_self
      rw [UInt8.toNat_ofNat']
      omega
    rw [List.map_cons, digitsValue_cons, ih (fun d hd => h d (List.mem_cons_of_mem c hd)), hoctet,
      Nat.ofDigitChars_cons, Nat.mul_comm start]
    rfl

/-- A number is sent as its numeral. -/
theorem isNumeral_encode (n : Nat) : IsNumeral (Utf8.encode (toString n)) n := by
  rw [encode_toString]
  have octet {c : Char} (hc : c ∈ Nat.toDigits 10 n) : (UInt8.ofNat c.toNat).toNat = c.toNat := by
    have h := toNat_of_mem_toDigits hc
    rw [UInt8.toNat_ofNat']
    omega
  refine ⟨?_, ?_, ?_, ?_⟩
  · rw [ne_eq, List.map_eq_nil_iff]
    exact Nat.toDigits_ne_nil
  · intro b hb
    obtain ⟨c, hc, rfl⟩ := List.mem_map.mp hb
    rw [IsDigit, octet hc]
    exact toNat_of_mem_toDigits hc
  · rw [digitsValue_map fun c hc => toNat_of_mem_toDigits hc, Nat.ofDigitChars_ten_toDigits]
  · intro hhead
    obtain ⟨c, hc, hoctet⟩ := Option.map_eq_some_iff.mp (List.head?_map ▸ hhead)
    have hcode : c.toNat = 48 := by
      rw [← octet (List.mem_of_head? hc), hoctet]
      rfl
    obtain rfl : c = '0' := Char.ext (UInt32.toNat_inj.mp hcode)
    rw [head?_toDigits hc, Nat.toDigits_zero]
    rfl

end RequestDispatch
