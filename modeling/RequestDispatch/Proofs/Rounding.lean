import Mathlib.Algebra.Order.Field.Power
import Mathlib.Algebra.Order.Ring.Rat
import Mathlib.Tactic.FieldSimp
import Mathlib.Tactic.Linarith
import Mathlib.Tactic.Positivity
import Mathlib.Tactic.Ring
import RequestDispatch.Number.Binary

/-!
# Rounding to a binary format

The magnitude of a floating-point number is a rational number, and so is the quotient it is rounded
from. `BinaryFloat.Rounds` says what rounding gives: a number of the format, a multiple of the last
place that is off by half of it at most. A number of the format that is not above the quotient is
not above the result either, so rounding never passes such a number.
-/

namespace RequestDispatch

namespace BinaryFloat

/-! ## Quotients and powers of two -/

/-- The magnitude of a number. -/
def magnitude (x : BinaryFloat) : ℚ := x.significand * 2 ^ x.exponent

/-- With a power of two taken out of it a quotient is the quotient by that power. -/
theorem scale_div (num den : Nat) (e : Int) :
    ((scale num den e).1 : ℚ) / (scale num den e).2 = num / den / 2 ^ e := by
  unfold scale
  split
  · next h =>
    obtain ⟨k, rfl⟩ := Int.eq_negSucc_of_lt_zero h
    have hk : (-Int.negSucc k).toNat = k + 1 := rfl
    simp only [hk, Nat.shiftLeft_eq, zpow_negSucc]
    push_cast
    field_simp
  · next h =>
    obtain ⟨k, rfl⟩ := Int.eq_ofNat_of_zero_le (not_lt.mp h)
    simp only [Int.toNat_natCast, Nat.shiftLeft_eq, zpow_natCast]
    push_cast
    rw [div_div]

theorem scale_pos {den : Nat} (num : Nat) (hden : 0 < den) (e : Int) :
    0 < (scale num den e).2 := by
  unfold scale
  split
  · exact hden
  · rw [Nat.shiftLeft_eq]
    positivity

/-- The exponent of the highest place of a positive quotient lies just below it. -/
theorem quotientLog_bounds {num den : Nat} (hnum : 0 < num) (hden : 0 < den) :
    (2 : ℚ) ^ quotientLog num den ≤ num / den ∧
      (num / den : ℚ) < 2 ^ (quotientLog num den + 1) := by
  have hden' : (0 : ℚ) < den := by exact_mod_cast hden
  have num_le : (2 : ℚ) ^ (num.log2 : Int) ≤ num := by
    exact_mod_cast Nat.log2_self_le hnum.ne'
  have num_lt : (num : ℚ) < 2 ^ ((num.log2 : Int) + 1) := by
    exact_mod_cast Nat.lt_log2_self (n := num)
  have den_le : (2 : ℚ) ^ (den.log2 : Int) ≤ den := by
    exact_mod_cast Nat.log2_self_le hden.ne'
  have den_lt : (den : ℚ) < 2 ^ ((den.log2 : Int) + 1) := by
    exact_mod_cast Nat.lt_log2_self (n := den)
  -- the difference of the logarithms is right, or one too great
  have above : (2 : ℚ) ^ ((num.log2 : Int) - den.log2 - 1) ≤ num / den := by
    rw [le_div_iff₀ hden']
    calc (2 : ℚ) ^ ((num.log2 : Int) - den.log2 - 1) * den
        ≤ 2 ^ ((num.log2 : Int) - den.log2 - 1) * 2 ^ ((den.log2 : Int) + 1) := by gcongr
      _ = 2 ^ (num.log2 : Int) := by
        rw [← zpow_add₀ two_ne_zero]
        congr 1
        ring
      _ ≤ num := num_le
  have below : (num / den : ℚ) < 2 ^ ((num.log2 : Int) - den.log2 + 1) := by
    rw [div_lt_iff₀ hden']
    calc (num : ℚ) < 2 ^ ((num.log2 : Int) + 1) := num_lt
      _ = 2 ^ ((num.log2 : Int) - den.log2 + 1) * 2 ^ (den.log2 : Int) := by
        rw [← zpow_add₀ two_ne_zero]
        congr 1
        ring
      _ ≤ 2 ^ ((num.log2 : Int) - den.log2 + 1) * den := by gcongr
  have compare : (scale num den ((num.log2 : Int) - den.log2)).1 <
      (scale num den ((num.log2 : Int) - den.log2)).2 ↔
        (num / den : ℚ) < 2 ^ ((num.log2 : Int) - den.log2) := by
    have hd : (0 : ℚ) < (scale num den ((num.log2 : Int) - den.log2)).2 := by
      exact_mod_cast scale_pos num hden _
    rw [← Nat.cast_lt (α := ℚ), ← div_lt_one hd, scale_div, div_lt_one (by positivity)]
  simp only [quotientLog]
  split
  · next h => exact ⟨above, by simpa using compare.mp h⟩
  · next h => exact ⟨not_lt.mp (mt compare.mpr h), below⟩

/-- The logarithm is the only one with these bounds. -/
theorem quotientLog_eq {num den : Nat} (hnum : 0 < num) (hden : 0 < den) {e : Int}
    (lower : (2 : ℚ) ^ e ≤ num / den) (upper : (num / den : ℚ) < 2 ^ (e + 1)) :
    quotientLog num den = e := by
  obtain ⟨hlower, hupper⟩ := quotientLog_bounds hnum hden
  have hle := (zpow_lt_zpow_iff_right₀ one_lt_two).mp (hlower.trans_lt upper)
  have hge := (zpow_lt_zpow_iff_right₀ one_lt_two).mp (lower.trans_lt hupper)
  omega

/-! ## Rounding a quotient -/

/-- Rounding is off by one half at most. -/
theorem abs_roundQuotient_sub_le (num : Nat) {den : Nat} (hden : 0 < den) :
    |(roundQuotient num den : ℚ) - num / den| ≤ 1 / 2 := by
  have hden' : (0 : ℚ) < den := by exact_mod_cast hden
  have split_num : den * (num / den) + num % den = num := Nat.div_add_mod num den
  have rest_lt : num % den < den := Nat.mod_lt num hden
  have twice : 2 * num ≤ 2 * (den * roundQuotient num den) + den ∧
      2 * (den * roundQuotient num den) ≤ 2 * num + den := by
    unfold roundQuotient
    dsimp only
    split
    · rw [Nat.mul_add, Nat.mul_one]
      omega
    · omega
  have below : (2 * num : ℚ) ≤ 2 * (den * roundQuotient num den) + den := by exact_mod_cast twice.1
  have above : (2 * (den * roundQuotient num den) : ℚ) ≤ 2 * num + den := by exact_mod_cast twice.2
  have error : (roundQuotient num den : ℚ) - num / den =
      (den * roundQuotient num den - num) / den := by field_simp
  rw [error, abs_div, abs_of_pos hden', div_le_iff₀ hden', abs_le]
  constructor <;> linarith

/-- Rounding does not pass a natural number. -/
theorem le_roundQuotient {m num den : Nat} (hden : 0 < den) (h : m * den ≤ num) :
    m ≤ roundQuotient num den := by
  have hfloor : m ≤ num / den := (Nat.le_div_iff_mul_le hden).mpr h
  unfold roundQuotient
  dsimp only
  split <;> omega

/-- A quotient that is at most a whole number is rounded to no more than it. -/
theorem roundQuotient_le {m num den : Nat} (hden : 0 < den) (h : num ≤ m * den) :
    roundQuotient num den ≤ m := by
  have hfloor : num / den ≤ m := Nat.div_le_of_le_mul (Nat.mul_comm m den ▸ h)
  have hparts : den * (num / den) + num % den = num := Nat.div_add_mod num den
  unfold roundQuotient
  dsimp only
  split
  · next hup =>
    -- something is left over, so the quotient lies below the number
    refine lt_of_le_of_ne hfloor fun heq => ?_
    rw [heq, Nat.mul_comm den m] at hparts
    omega
  · exact hfloor

/-- A number of the format. -/
structure InFormat (fmt : BinaryFormat) (x : BinaryFloat) : Prop where
  significand : x.significand < 2 ^ fmt.precision
  lower : fmt.minExponent ≤ x.exponent
  upper : x.exponent ≤ fmt.maxExponent

/-- The exponent of the last place that a quotient is rounded to. -/
def lastPlace (fmt : BinaryFormat) (num den : Nat) : Int :=
  max fmt.minExponent (quotientLog num den - (fmt.precision - 1 : Nat))

/-- What a positive quotient is rounded to, in units of the last place. -/
def units (fmt : BinaryFormat) (num den : Nat) : Nat :=
  roundQuotient (scale num den (lastPlace fmt num den)).1 (scale num den (lastPlace fmt num den)).2

theorem InFormat.neg {fmt : BinaryFormat} {x : BinaryFloat} (h : x.InFormat fmt) :
    x.neg.InFormat fmt := ⟨h.significand, h.lower, h.upper⟩

variable {fmt : BinaryFormat} {negative : Bool} {num den : Nat} {x : BinaryFloat}

/-- A quotient in units of the last place needs no more places than there are. -/
theorem quotient_lt (hp : 0 < fmt.precision) (hnum : 0 < num) (hden : 0 < den) :
    (num / den / 2 ^ lastPlace fmt num den : ℚ) < 2 ^ fmt.precision := by
  have hlast : quotientLog num den + 1 ≤ fmt.precision + lastPlace fmt num den := by
    unfold lastPlace
    omega
  rw [div_lt_iff₀ (by positivity), ← zpow_natCast, ← zpow_add₀ two_ne_zero]
  exact (quotientLog_bounds hnum hden).2.trans_le (zpow_le_zpow_right₀ one_le_two hlast)

/-- The units of the last place fill the precision at most. -/
theorem units_le (hp : 0 < fmt.precision) (hnum : 0 < num) (hden : 0 < den) :
    units fmt num den ≤ 2 ^ fmt.precision := by
  have hd := scale_pos num hden (lastPlace fmt num den)
  refine roundQuotient_le hd ?_
  have hle : (num / den / 2 ^ lastPlace fmt num den : ℚ) ≤ 2 ^ fmt.precision :=
    (quotient_lt hp hnum hden).le
  rw [← scale_div, div_le_iff₀ (by exact_mod_cast hd)] at hle
  exact_mod_cast hle

/-- What rounding a positive quotient gives, in units of the last place. -/
structure Rounds (fmt : BinaryFormat) (negative : Bool) (num den : Nat) (x : BinaryFloat) :
    Prop where
  sign : x.negative = negative
  inFormat : x.InFormat fmt
  magnitude : x.magnitude = units fmt num den * 2 ^ lastPlace fmt num den

/-- The rounding of a quotient, with a carry into the next exponent if all places are full. -/
theorem ofQuotient_eq (hnum : 0 < num) :
    ofQuotient fmt negative num den =
      if units fmt num den = 2 ^ fmt.precision then
        if fmt.maxExponent < lastPlace fmt num den + 1 then none
        else some ⟨negative, units fmt num den / 2, lastPlace fmt num den + 1⟩
      else
        if fmt.maxExponent < lastPlace fmt num den then none
        else some ⟨negative, units fmt num den, lastPlace fmt num den⟩ := by
  have hparts : ofQuotient fmt negative num den =
      let parts : Nat × Int :=
        if units fmt num den = 2 ^ fmt.precision
        then (units fmt num den / 2, lastPlace fmt num den + 1)
        else (units fmt num den, lastPlace fmt num den)
      if fmt.maxExponent < parts.2 then none else some ⟨negative, parts.1, parts.2⟩ := by
    rw [ofQuotient, if_neg hnum.ne']
    rfl
  rw [hparts]
  by_cases hfull : units fmt num den = 2 ^ fmt.precision
  · simp only [if_pos hfull]
  · simp only [if_neg hfull]

/-- A quotient is rounded to a nearest number of the format. -/
theorem ofQuotient_rounds (hp : 0 < fmt.precision) (hnum : 0 < num) (hden : 0 < den)
    (h : ofQuotient fmt negative num den = some x) : Rounds fmt negative num den x := by
  have hle := units_le hp hnum hden
  have hlower : fmt.minExponent ≤ lastPlace fmt num den := le_max_left _ _
  rw [ofQuotient_eq hnum] at h
  -- a significand of one place too many is even, and is halved
  by_cases hfull : units fmt num den = 2 ^ fmt.precision
  · rw [if_pos hfull] at h
    split at h
    · cases h
    · next hupper =>
      obtain rfl := Option.some.inj h
      obtain ⟨p, hp⟩ := Nat.exists_eq_add_of_lt hp
      have hhalf : units fmt num den / 2 = 2 ^ p := by
        rw [hfull, hp, Nat.zero_add, Nat.pow_succ, Nat.mul_div_cancel _ two_pos]
      refine ⟨rfl, ⟨?_, by dsimp only; omega, not_lt.mp hupper⟩, ?_⟩
      · rw [← hfull]
        exact Nat.div_lt_self (by rw [hfull]; positivity) one_lt_two
      · rw [magnitude, hhalf, hfull, hp, zpow_add₀ two_ne_zero]
        push_cast
        ring
  · rw [if_neg hfull] at h
    split at h
    · cases h
    · next hupper =>
      obtain rfl := Option.some.inj h
      exact ⟨rfl, ⟨lt_of_le_of_ne hle hfull, hlower, not_lt.mp hupper⟩, rfl⟩

/-- What is rounded to is a number of the format. -/
theorem ofQuotient_inFormat (hp : 0 < fmt.precision)
    (hexponents : fmt.minExponent ≤ fmt.maxExponent) (hden : 0 < den)
    (h : ofQuotient fmt negative num den = some x) : x.InFormat fmt := by
  rcases Nat.eq_zero_or_pos num with rfl | hnum
  · obtain rfl := Option.some.inj h
    exact ⟨by positivity, le_rfl, hexponents⟩
  · exact (ofQuotient_rounds hp hnum hden h).inFormat

/-- The sign does not matter for the magnitude. -/
theorem ofQuotient_not (hnum : 0 < num) :
    ofQuotient fmt (!negative) num den = (ofQuotient fmt negative num den).map neg := by
  rw [ofQuotient_eq hnum, ofQuotient_eq hnum]
  split_ifs <;> rfl

/-- A quotient that is not above the greatest number of the format is rounded to a number. -/
theorem exists_ofQuotient (hp : 0 < fmt.precision) (hexponents : fmt.minExponent ≤ fmt.maxExponent)
    (hnum : 0 < num) (hden : 0 < den) (negative : Bool)
    (h : (num / den : ℚ) ≤ (2 ^ fmt.precision - 1 : Nat) * 2 ^ fmt.maxExponent) :
    ∃ x, ofQuotient fmt negative num den = some x := by
  -- the bound keeps the leading digit at its place or below
  have hlog : quotientLog num den < fmt.precision + fmt.maxExponent := by
    rw [← zpow_lt_zpow_iff_right₀ (one_lt_two (α := ℚ))]
    calc (2 : ℚ) ^ quotientLog num den ≤ num / den := (quotientLog_bounds hnum hden).1
      _ ≤ (2 ^ fmt.precision - 1 : Nat) * 2 ^ fmt.maxExponent := h
      _ < (2 ^ fmt.precision : Nat) * 2 ^ fmt.maxExponent := by
        gcongr
        exact Nat.sub_lt (by positivity) one_pos
      _ = 2 ^ (fmt.precision + fmt.maxExponent : Int) := by
        rw [zpow_add₀ two_ne_zero]
        push_cast
        rfl
  have hplace : lastPlace fmt num den ≤ fmt.maxExponent := by
    unfold lastPlace
    omega
  rw [ofQuotient_eq hnum, if_neg (not_lt.mpr hplace)]
  rcases hplace.lt_or_eq with hplace | hplace
  · have hcarry : ¬ fmt.maxExponent < lastPlace fmt num den + 1 := by omega
    rw [if_neg hcarry]
    split <;> exact ⟨_, rfl⟩
  · -- at the greatest exponent there is no carry into a further place
    have hd := scale_pos num hden (lastPlace fmt num den)
    have hunits : units fmt num den ≤ 2 ^ fmt.precision - 1 := by
      refine roundQuotient_le hd ?_
      have hquotient : (num / den / 2 ^ lastPlace fmt num den : ℚ) ≤
          (2 ^ fmt.precision - 1 : Nat) := by
        rw [hplace, div_le_iff₀ (by positivity)]
        exact h
      rw [← scale_div, div_le_iff₀ (by exact_mod_cast hd)] at hquotient
      exact_mod_cast hquotient
    have hpower : 0 < 2 ^ fmt.precision := by positivity
    rw [if_neg (by omega)]
    exact ⟨_, rfl⟩

namespace Rounds

/-- What is rounded to is off by half of the last place at most. -/
theorem abs_sub_le (h : Rounds fmt negative num den x) (hden : 0 < den) :
    |x.magnitude - num / den| ≤ 2 ^ lastPlace fmt num den / 2 := by
  have hplace : (0 : ℚ) < 2 ^ lastPlace fmt num den := by positivity
  have hround := abs_roundQuotient_sub_le (scale num den (lastPlace fmt num den)).1
    (scale_pos num hden (lastPlace fmt num den))
  rw [scale_div] at hround
  have error : x.magnitude - num / den =
      (units fmt num den - num / den / 2 ^ lastPlace fmt num den) * 2 ^ lastPlace fmt num den := by
    rw [h.magnitude]
    field_simp
  rw [error, abs_mul, abs_of_pos hplace]
  calc _ ≤ 1 / 2 * (2 : ℚ) ^ lastPlace fmt num den := by gcongr; exact hround
    _ = _ := by ring

/-- A number of the format that is not above a quotient is not above what it is rounded to. -/
theorem le_magnitude (h : Rounds fmt negative num den x) (hnum : 0 < num) (hden : 0 < den)
    {a : Nat} {j : Int} (ha : a < 2 ^ fmt.precision) (hj : fmt.minExponent ≤ j)
    (hle : (a * 2 ^ j : ℚ) ≤ num / den) : a * 2 ^ j ≤ x.magnitude := by
  have hd := scale_pos num hden (lastPlace fmt num den)
  have hd' : (0 : ℚ) < (scale num den (lastPlace fmt num den)).2 := by exact_mod_cast hd
  have atLeast {m : Nat} (hm : (m : ℚ) ≤ num / den / 2 ^ lastPlace fmt num den) :
      m ≤ units fmt num den := by
    refine le_roundQuotient hd ?_
    rw [← scale_div, le_div_iff₀ hd'] at hm
    exact_mod_cast hm
  rw [h.magnitude]
  -- the number is a multiple of the last place, or the last place is high enough to be above it
  rcases le_or_gt (lastPlace fmt num den) j with hplace | hplace
  · obtain ⟨k, hk⟩ := Int.eq_ofNat_of_zero_le (sub_nonneg.mpr hplace)
    have hj : j = lastPlace fmt num den + k := by omega
    have hmultiple : (a * 2 ^ j : ℚ) = (a * 2 ^ k : Nat) * 2 ^ lastPlace fmt num den := by
      rw [hj, zpow_add₀ two_ne_zero, zpow_natCast]
      push_cast
      ring
    have hunits := atLeast (m := a * 2 ^ k) (by
      rw [le_div_iff₀ (by positivity), ← hmultiple]
      exact hle)
    rw [hmultiple]
    gcongr
  · have hlog : lastPlace fmt num den = quotientLog num den - (fmt.precision - 1 : Nat) := by
      unfold lastPlace at hplace ⊢
      omega
    have hunits := atLeast (m := 2 ^ (fmt.precision - 1)) (by
      rw [le_div_iff₀ (by positivity)]
      push_cast
      rw [← zpow_natCast, ← zpow_add₀ two_ne_zero, hlog, add_sub_cancel]
      exact (quotientLog_bounds hnum hden).1)
    calc (a * 2 ^ j : ℚ) ≤ 2 ^ fmt.precision * 2 ^ (lastPlace fmt num den - 1) := by
          gcongr
          · exact_mod_cast ha.le
          · exact one_le_two
          · omega
      _ ≤ (2 ^ (fmt.precision - 1) : Nat) * 2 ^ lastPlace fmt num den := by
        push_cast
        rw [← zpow_natCast, ← zpow_natCast, ← zpow_add₀ two_ne_zero, ← zpow_add₀ two_ne_zero]
        exact zpow_le_zpow_right₀ one_le_two (by omega)
      _ ≤ units fmt num den * 2 ^ lastPlace fmt num den := by gcongr

end Rounds

/-! ## Products and quotients -/

theorem quotient_div (x : BinaryFloat) : (x.quotient.1 : ℚ) / x.quotient.2 = x.magnitude := by
  unfold quotient magnitude
  split
  · next h =>
    obtain ⟨k, hk⟩ := Int.eq_negSucc_of_lt_zero h
    have hplaces : (-Int.negSucc k).toNat = k + 1 := rfl
    simp only [hk, hplaces, Nat.shiftLeft_eq, zpow_negSucc]
    push_cast
    rw [one_mul, div_eq_mul_inv]
  · next h =>
    obtain ⟨k, hk⟩ := Int.eq_ofNat_of_zero_le (not_lt.mp h)
    simp only [hk, Int.toNat_natCast, Nat.shiftLeft_eq, zpow_natCast]
    push_cast
    rw [div_one]

theorem quotient_pos (x : BinaryFloat) : 0 < x.quotient.2 := by
  unfold quotient
  split
  · rw [Nat.shiftLeft_eq]
    positivity
  · exact one_pos

/-- A product is a number of the format. -/
theorem mul_inFormat {y z : BinaryFloat} (hp : 0 < fmt.precision)
    (hexponents : fmt.minExponent ≤ fmt.maxExponent) (h : mul fmt x y = some z) : z.InFormat fmt :=
  ofQuotient_inFormat hp hexponents (Nat.mul_pos x.quotient_pos y.quotient_pos) h

/-- A quotient is a number of the format. -/
theorem div_inFormat {y z : BinaryFloat} (hp : 0 < fmt.precision)
    (hexponents : fmt.minExponent ≤ fmt.maxExponent) (hy : 0 < y.magnitude)
    (h : div fmt x y = some z) : z.InFormat fmt := by
  have hnum : 0 < y.quotient.1 := by
    refine Nat.pos_of_ne_zero fun hzero => hy.ne ?_
    rw [← quotient_div, hzero, Nat.cast_zero, zero_div]
  exact ofQuotient_inFormat hp hexponents (Nat.mul_pos x.quotient_pos hnum) h

theorem zero_inFormat (negative : Bool) : InFormat .double ⟨negative, 0, -1074⟩ := by
  cases negative <;> exact ⟨by decide, by decide, by decide⟩

/-- A whole number is not rounded below a number of the format that it reaches. -/
theorem le_magnitude_ofNat {n a : Nat} {j : Int} (hp : 0 < fmt.precision) (hn : 0 < n)
    (h : ofNat fmt n = some x) (ha : a < 2 ^ fmt.precision) (hj : fmt.minExponent ≤ j)
    (hle : (a * 2 ^ j : ℚ) ≤ n) : a * 2 ^ j ≤ x.magnitude := by
  have hrounds : Rounds fmt false n 1 x := ofQuotient_rounds hp hn one_pos h
  refine hrounds.le_magnitude hn one_pos ha hj ?_
  rwa [Nat.cast_one, div_one]

/-- A product of two numbers is not below a number of the format that is not above the exact
product. -/
theorem le_magnitude_mul {y z : BinaryFloat} {a : Nat} {j : Int} (hp : 0 < fmt.precision)
    (hpos : 0 < x.magnitude * y.magnitude) (h : mul fmt x y = some z)
    (ha : a < 2 ^ fmt.precision) (hj : fmt.minExponent ≤ j)
    (hle : (a * 2 ^ j : ℚ) ≤ x.magnitude * y.magnitude) : a * 2 ^ j ≤ z.magnitude := by
  have hquotient : ((x.quotient.1 * y.quotient.1 : Nat) / (x.quotient.2 * y.quotient.2 : Nat) : ℚ) =
      x.magnitude * y.magnitude := by
    rw [← quotient_div, ← quotient_div, div_mul_div_comm]
    push_cast
    rfl
  have hden : 0 < x.quotient.2 * y.quotient.2 := Nat.mul_pos x.quotient_pos y.quotient_pos
  have hnum : 0 < x.quotient.1 * y.quotient.1 := by
    refine Nat.pos_of_ne_zero fun hzero => ?_
    rw [hzero, Nat.cast_zero, zero_div] at hquotient
    exact hpos.ne hquotient
  have hrounds : Rounds fmt _ _ _ z := ofQuotient_rounds hp hnum hden h
  exact hrounds.le_magnitude hnum hden ha hj (hquotient ▸ hle)

end BinaryFloat

end RequestDispatch
