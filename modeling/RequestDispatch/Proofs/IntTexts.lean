import Mathlib.Data.List.TakeWhile
import RequestDispatch.Proofs.Rounding
import RequestDispatch.Proofs.Validation

/-!
# Integers in texts

Decimal digits that do not fit 64 bits are read once more, as a double, and a double without places
after the point is an integer too. From the 63rd power of two on doubles are all such, so what is
left of the digits is the number they are rounded to. `reads_int_text` says what comes of it: a text
with an integer of 64 bits is read as this integer, and others are refused with one error, but for
those just below the least integer, which are rounded to it.
-/

namespace RequestDispatch

/-! ## Whole floating-point numbers -/

namespace BinaryFloat

variable {x : BinaryFloat}

/-- A number without places after the point is an integer. -/
theorem toInt?_of_nonneg (h : 0 ≤ x.exponent) :
    ∃ m : Nat, x.magnitude = m ∧ x.toInt? = some (if x.negative then -(m : Int) else m) := by
  obtain ⟨k, hk⟩ := Int.eq_ofNat_of_zero_le h
  refine ⟨x.significand <<< k, ?_, ?_⟩
  · rw [magnitude, hk, Nat.shiftLeft_eq]
    push_cast
    rfl
  · have hquotient : x.quotient = (x.significand <<< k, 1) := by
      rw [quotient, if_neg (not_lt.mpr h), hk, Int.toNat_natCast]
    simp [toInt?, hquotient, Nat.mod_one]

/-- Beyond the 53 bits of a significand all doubles are integers. -/
theorem exponent_nonneg (h : x.InFormat .double) (large : 2 ^ 53 ≤ x.magnitude) :
    0 ≤ x.exponent := by
  by_contra hneg
  have hsignificand : (x.significand : ℚ) < 2 ^ 53 := by exact_mod_cast h.significand
  have hplace : (2 : ℚ) ^ x.exponent ≤ 1 := zpow_le_one_of_nonpos₀ one_le_two (by omega)
  have hle : x.magnitude ≤ x.significand * 1 := by
    unfold magnitude
    gcongr
  linarith

/-- A double above the 63rd power of two is no signed 64-bit integer. -/
theorem wholeInt_of_large (h : x.InFormat .double) (large : 2 ^ 63 < x.magnitude) :
    wholeInt x = .error .intText := by
  have hplaces := exponent_nonneg h (by linarith)
  obtain ⟨m, hm, hint⟩ := toInt?_of_nonneg hplaces
  have hm' : 2 ^ 63 < m := by
    rw [hm] at large
    exact_mod_cast large
  rw [wholeInt, hint]
  have hrange : ¬ (Json.minInt ≤ (if x.negative then -(m : Int) else m) ∧
      (if x.negative then -(m : Int) else m) ≤ Json.maxSigned) := by
    unfold Json.minInt Json.maxSigned
    split <;> omega
  exact if_neg hrange

/-- The highest place of a number between the 63rd and the 64th power of two. -/
theorem lastPlace_of_edge {n : Nat} (lower : 2 ^ 63 ≤ n) (upper : n < 2 ^ 64) :
    lastPlace .double n 1 = 11 := by
  have hlower : (2 : ℚ) ^ (63 : Int) ≤ n / (1 : Nat) := by
    rw [Nat.cast_one, div_one]
    exact_mod_cast lower
  have hupper : (n / (1 : Nat) : ℚ) < 2 ^ ((63 : Int) + 1) := by
    rw [Nat.cast_one, div_one]
    exact_mod_cast upper
  rw [lastPlace, quotientLog_eq (by omega) one_pos hlower hupper]
  rfl

/-- Up to half a place above the 63rd power of two an integer is rounded to this power. -/
theorem ofQuotient_of_edge (negative : Bool) {n : Nat} (lower : 2 ^ 63 ≤ n)
    (upper : n ≤ 2 ^ 63 + 1024) :
    ofQuotient .double negative n 1 = some ⟨negative, 2 ^ 52, 11⟩ := by
  have hplace := lastPlace_of_edge lower (by omega)
  have hscale : scale n 1 11 = (n, 2048) := rfl
  have hunits : units .double n 1 = 2 ^ 52 := by
    rw [units, hplace, hscale]
    unfold roundQuotient
    dsimp only
    split <;> omega
  rw [ofQuotient_eq (by omega), hunits, hplace]
  rfl

/-- Above that an integer is rounded to a greater number. -/
theorem magnitude_of_large {negative : Bool} {n : Nat} (large : 2 ^ 63 + 1024 < n)
    (h : ofQuotient .double negative n 1 = some x) : 2 ^ 63 < x.magnitude := by
  have hrounds : Rounds .double negative n 1 x := ofQuotient_rounds (by decide) (by omega) one_pos h
  have hquotient : (n / (1 : Nat) : ℚ) = n := by rw [Nat.cast_one, div_one]
  rcases Nat.lt_or_ge n (2 ^ 64) with hn | hn
  · have herror := hrounds.abs_sub_le one_pos
    have hhalf : (2 : ℚ) ^ (11 : Int) / 2 = 1024 := by norm_num
    rw [lastPlace_of_edge (by omega) hn, hquotient, hhalf] at herror
    have hlarge : (2 ^ 63 + 1024 : ℚ) < n := by exact_mod_cast large
    linarith [(abs_le.mp herror).1]
  · have hpower : ((1 : Nat) * 2 ^ (64 : Int) : ℚ) ≤ x.magnitude := by
      refine hrounds.le_magnitude (by omega) one_pos (by decide) (by decide) ?_
      rw [hquotient, Nat.cast_one, one_mul]
      exact_mod_cast hn
    norm_num at hpower ⊢
    linarith

/-- What becomes of an integer beyond 64 bits that is read as a double. -/
theorem wholeInt_of_rounded {negative : Bool} {n : Nat} (large : 2 ^ 63 ≤ n)
    (h : ofQuotient .double negative n 1 = some x) :
    wholeInt x =
      if negative ∧ n ≤ 2 ^ 63 + 1024 then .ok Json.minInt else .error .intText := by
  by_cases hedge : n ≤ 2 ^ 63 + 1024
  · rw [ofQuotient_of_edge negative large hedge] at h
    obtain rfl := Option.some.inj h
    cases negative with
    | false => rfl
    | true =>
      rw [if_pos ⟨rfl, hedge⟩]
      rfl
  · have hrounds : Rounds .double negative n 1 x :=
      ofQuotient_rounds (by decide) (by omega) one_pos h
    rw [if_neg (by omega)]
    exact wholeInt_of_large hrounds.inFormat (magnitude_of_large (by omega) h)

end BinaryFloat

/-! ## Decimal texts of integers -/

/-- Characters that are one or more decimal digits. -/
structure AreDigits (digits : List Char) : Prop where
  nonempty : digits ≠ []
  decimal : ∀ c ∈ digits, c.isDigit

/-- Characters that are an optional sign and decimal digits, and the integer they denote. -/
inductive DenotesInt : List Char → Int → Prop
  | unsigned {digits : List Char} (h : AreDigits digits) :
      DenotesInt digits (Nat.ofDigitChars 10 digits 0)
  | plus {digits : List Char} (h : AreDigits digits) :
      DenotesInt ('+' :: digits) (Nat.ofDigitChars 10 digits 0)
  | minus {digits : List Char} (h : AreDigits digits) :
      DenotesInt ('-' :: digits) (-(Nat.ofDigitChars 10 digits 0 : Int))

theorem Text.digitsValue_eq (digits : List Char) :
    digitsValue digits = Nat.ofDigitChars 10 digits 0 := by
  rw [digitsValue, Nat.ofDigitChars_eq_foldl]
  congr 1
  funext n c
  rw [Nat.mul_comm]
  rfl

namespace AreDigits

variable {digits : List Char}

theorem all (h : AreDigits digits) : digits.all Char.isDigit := List.all_eq_true.mpr h.decimal

/-- A character that is no digit does not stand in front. -/
theorem ne_cons (h : AreDigits digits) {c : Char} (hc : ¬ c.isDigit) (cs : List Char) :
    digits ≠ c :: cs := by
  rintro rfl
  exact hc (h.decimal c List.mem_cons_self)

/-- Zeros in front do not count. -/
theorem dropWhile_zero :
    Nat.ofDigitChars 10 (digits.dropWhile (· == '0')) 0 = Nat.ofDigitChars 10 digits 0 := by
  induction digits with
  | nil => rfl
  | cons c cs ih =>
    by_cases hc : c = '0'
    · subst hc
      rw [List.dropWhile_cons_of_pos (by rfl), ih, Nat.ofDigitChars_cons]
      rfl
    · rw [List.dropWhile_cons_of_neg (by simpa using hc)]

/-- A number is at least the power of ten that its first digit stands for. -/
theorem pow_le (h : AreDigits digits) (hhead : digits.head? ≠ some '0') :
    10 ^ (digits.length - 1) ≤ Nat.ofDigitChars 10 digits 0 := by
  obtain ⟨c, cs, rfl⟩ := List.exists_cons_of_ne_nil h.nonempty
  have hdigit := Char.isDigit_iff_toNat.mp (h.decimal c List.mem_cons_self)
  have hne : c.toNat ≠ '0'.toNat := fun heq =>
    hhead (congrArg some (Char.ext (UInt32.toNat_inj.mp heq)))
  rw [Nat.ofDigitChars_cons, Nat.ofDigitChars_eq_ofDigitChars_zero, List.length_cons,
    Nat.add_sub_cancel]
  have hpos : 0 < 10 * 0 + (c.toNat - '0'.toNat) := by omega
  have hpow := Nat.le_mul_of_pos_right (10 ^ cs.length) hpos
  omega

end AreDigits

/-! ## Reading them as numbers -/

/-- The signed number of a magnitude. -/
def signed (negative : Bool) (n : Nat) : Int := if negative then -(n : Int) else n

/-- What a decimal integer is read as, in both ways of reading: its value, or the magnitude with its
sign in the format. -/
theorem DenotesInt.readings {text : String} {n : Int} (h : DenotesInt text.toList n) :
    ∃ negative digits, AreDigits digits ∧ n = signed negative (Nat.ofDigitChars 10 digits 0) ∧
      readInt text = some n ∧
      readFloat .double text = FloatReading.readMagnitude .double negative digits := by
  generalize hcs : text.toList = cs at h
  cases h with
  | unsigned h =>
    have hplus := h.ne_cons (c := '+') (by decide)
    have hminus := h.ne_cons (c := '-') (by decide)
    refine ⟨false, _, h, rfl, ?_, ?_⟩
    · simp [readInt, hcs, h.nonempty, h.all, Text.digitsValue_eq]
    · simp [readFloat, hcs]
  | plus h =>
    refine ⟨false, _, h, rfl, ?_, ?_⟩
    · simp [readInt, hcs, h.nonempty, h.all, Text.digitsValue_eq]
    · simp [readFloat, hcs]
  | minus h =>
    refine ⟨true, _, h, rfl, ?_, ?_⟩
    · simp [readInt, hcs, h.nonempty, h.all, Text.digitsValue_eq]
    · simp [readFloat, hcs]

theorem toLower_of_isDigit {c : Char} (h : c.isDigit) : c.toLower = c := by
  have hdigit : c.toNat ≤ '9'.toNat := (Char.isDigit_iff_toNat.mp h).2
  refine dif_neg fun hupper => ?_
  have hle : 'A'.toNat ≤ c.toNat := UInt32.le_iff_toNat_le.mp hupper.1
  exact absurd (hle.trans hdigit) (by decide)

/-- Digits alone are read as a number without a fraction. -/
theorem FloatReading.readMagnitude_digits {digits : List Char} (h : AreDigits digits)
    (fmt : BinaryFormat) (negative : Bool) :
    readMagnitude fmt negative digits = some (ofDecimal fmt negative digits 0) := by
  -- digits have no capital letters, so they are none of the three words
  have hword : digits.map Char.toLower = digits :=
    (List.map_congr_left fun c hc => toLower_of_isDigit (h.decimal c hc)).trans (List.map_id digits)
  have hinf := h.ne_cons (c := 'i') (by decide)
  have hnan := h.ne_cons (c := 'n') (by decide)
  have hwhole : digits.takeWhile Char.isDigit = digits := List.takeWhile_eq_self_iff.mpr h.decimal
  have hrest : digits.dropWhile Char.isDigit = [] := List.dropWhile_eq_nil_iff.mpr h.decimal
  simp [readMagnitude, hword, hinf, hnan, hwhole, hrest, h.nonempty, readExponent]

/-- Digits of a great number are read as the double nearest to it, or as infinite. -/
theorem FloatReading.ofDecimal_digits {digits : List Char} (h : AreDigits digits)
    (negative : Bool) (large : 2 ^ 63 ≤ Nat.ofDigitChars 10 digits 0) :
    (∃ x, ofDecimal .double negative digits 0 = .finite x ∧
      BinaryFloat.ofQuotient .double negative (Nat.ofDigitChars 10 digits 0) 1 = some x) ∨
    (ofDecimal .double negative digits 0 = .infinite negative ∧
      2 ^ 63 + 1024 < Nat.ofDigitChars 10 digits 0) := by
  have hvalue : Nat.ofDigitChars 10 (digits.dropWhile (· == '0')) 0 =
      Nat.ofDigitChars 10 digits 0 := AreDigits.dropWhile_zero
  have hdigits : AreDigits (digits.dropWhile (· == '0')) := by
    refine ⟨fun hnil => ?_, fun c hc => h.decimal c ((List.dropWhile_suffix _).subset hc)⟩
    rw [hnil, Nat.ofDigitChars_nil] at hvalue
    omega
  have hhead : (digits.dropWhile (· == '0')).head? ≠ some '0' := by
    intro hzero
    have hnot := List.head?_dropWhile_not (· == '0') digits
    simp [hzero] at hnot
  have hpow := hdigits.pow_le hhead
  have hquotient : BinaryFloat.ofDecimal .double negative
      (Text.digitsValue (digits.dropWhile (· == '0'))) 0 =
        BinaryFloat.ofQuotient .double negative (Nat.ofDigitChars 10 digits 0) 1 := by
    rw [Text.digitsValue_eq, hvalue]
    simp [BinaryFloat.ofDecimal]
  rw [hvalue] at hpow
  have hempty : ¬ ((digits.dropWhile (· == '0')).isEmpty ∨
      ((digits.dropWhile (· == '0')).length : Int) + 0 < -decimalReach) := by
    rw [List.isEmpty_iff, not_or]
    exact ⟨hdigits.nonempty, by unfold decimalReach; omega⟩
  simp only [ofDecimal, if_neg hempty, hquotient]
  -- a number with more than 400 digits is far above the edge
  split
  · next hlong =>
    refine .inr ⟨rfl, lt_of_lt_of_le ?_ hpow⟩
    have hlength : 20 ≤ (digits.dropWhile (· == '0')).length - 1 := by
      unfold decimalReach at hlong
      omega
    exact lt_of_lt_of_le (by norm_num) (Nat.pow_le_pow_right (by norm_num) hlength)
  · rcases hx : BinaryFloat.ofQuotient .double negative (Nat.ofDigitChars 10 digits 0) 1 with _ | x
    · refine .inr ⟨rfl, not_le.mp fun hle => ?_⟩
      rw [BinaryFloat.ofQuotient_of_edge negative large hle] at hx
      cases hx
    · exact .inl ⟨x, rfl, rfl⟩

/-- What becomes of an integer text: the integer, if it has 64 bits; below these the least one, as
far as rounding to a double gives it. -/
theorem readIntText_eq {text : String} {n : Int} (h : DenotesInt text.toList n) :
    readIntText text =
      if Json.minInt ≤ n ∧ n ≤ Json.maxSigned then .ok n
      else if Json.minInt - 1024 ≤ n ∧ n < Json.minInt then .ok Json.minInt
      else .error .intText := by
  obtain ⟨negative, digits, hdigits, rfl, hint, hfloat⟩ := h.readings
  simp only [readIntText, hint, hfloat, FloatReading.readMagnitude_digits hdigits]
  split
  · rfl
  -- past the range the text is read as a float, whose rounding may fall back into it
  · next hrange =>
    have large : 2 ^ 63 ≤ Nat.ofDigitChars 10 digits 0 := by
      unfold signed Json.minInt Json.maxSigned at hrange
      split at hrange <;> omega
    have hedge : (Json.minInt - 1024 ≤ signed negative (Nat.ofDigitChars 10 digits 0) ∧
        signed negative (Nat.ofDigitChars 10 digits 0) < Json.minInt) ↔
          (negative ∧ Nat.ofDigitChars 10 digits 0 ≤ 2 ^ 63 + 1024) := by
      unfold signed Json.minInt Json.maxSigned at *
      cases negative with
      | false => simp
      | true =>
        simp only [if_true, true_and] at hrange ⊢
        omega
    simp only [hedge]
    rcases FloatReading.ofDecimal_digits hdigits negative large with
      ⟨x, hx, hquotient⟩ | ⟨hinfinite, hlarge⟩
    · rw [hx]
      exact BinaryFloat.wholeInt_of_rounded large hquotient
    · rw [hinfinite, if_neg (by omega)]

/-! ## Integer parameters -/

/-- What coercion makes of an input that stands for an integer. -/
structure CoercesInt (n : Int) (location : List LocItem) (input : Json) (result : Checked Json) :
    Prop where
  exact : Json.minInt ≤ n → n ≤ Json.maxSigned → result = .ok (.int n)
  /-- Just below the least integer the doubles are so far apart that the nearest one is that
  integer. -/
  rounded : Json.minInt - 1024 ≤ n → n < Json.minInt → result = .ok (.int Json.minInt)
  /-- Everything else is one error. -/
  refused : n < Json.minInt - 1024 ∨ Json.maxSigned < n →
    result = .error [⟨location, "int_parsing", Defect.intText.message, input⟩]

theorem coerceText_int {text : String} {n : Int} (h : DenotesInt (Text.trim text).toList n)
    (location : List LocItem) :
    CoercesInt n location (.str text) (coerceText .int location text) := by
  have hread := readIntText_eq h
  have hrange : Json.minInt ≤ Json.maxSigned := by decide
  simp only [coerceText]
  refine ⟨fun hlower hupper => ?_, fun hlower hupper => ?_, fun hout => ?_⟩
  · rw [hread, if_pos ⟨hlower, hupper⟩]
  · rw [hread, if_neg (by omega), if_pos ⟨hlower, hupper⟩]
  · rw [hread, if_neg (by omega), if_neg (by omega)]
    rfl

/-- The last text of an integer parameter is read as an integer. -/
theorem Param.read_last {p : Param} {view : RequestView} {text : String}
    (hshape : p.field.shape = .int) (hlast : (p.texts view).getLast? = some text)
    (body : Except FieldError Json) :
    p.read view body = some (coerceText .int p.location text) := by
  have hsource : p.source ≠ .body := by
    intro hbody
    simp [Param.texts, hbody] at hlast
  rw [Param.read_texts hsource, coerceTexts, hlast, hshape]

/-- A value in a field of the body is brought into the shape of the field, unless it is null. -/
theorem Param.read_value {name : String} {shape : Shape} {value : Json}
    {entries : List (String × Json)} (hnull : value ≠ .null)
    (h : Entries.get? entries name = some value) (presence : Presence) (view : RequestView) :
    (Param.mk .body (.mk name shape presence)).read view (.ok (.obj entries)) =
      some (coerce shape [.key "body", .key name] value) := by
  have hget : (Json.obj entries).get? name = some value := h
  rw [Param.read_field rfl]
  rcases coerceField_cases name shape presence [.key "body"] (.obj entries) with
    ⟨hnone, -⟩ | ⟨hnull', -, -⟩ | ⟨value', hvalue, hcoerce⟩
  · cases hnone.symm.trans hget
  · exact absurd (Option.some.inj (hget.symm.trans hnull')) hnull
  · obtain rfl := Option.some.inj (hget.symm.trans hvalue)
    rw [hcoerce, List.singleton_append]
    cases coerce shape [.key "body", .key name] value <;> rfl

/-- What becomes of a text that denotes an integer, wherever an integer is declared. -/
structure ReadsIntText (text : String) (n : Int) : Prop where
  /-- As a text of the path, the query or the headers, alone or in a list. -/
  alone : ∀ location, CoercesInt n location (.str text) (coerceText .int location text)
  /-- As a text anywhere in the body. -/
  inBody : ∀ location, CoercesInt n location (.str text) (coerce .int location (.str text))
  /-- As the last text of a parameter. -/
  param : ∀ (p : Param) (view : RequestView) (body : Except FieldError Json),
    p.field.shape = .int → (p.texts view).getLast? = some text →
      ∃ result, p.read view body = some result ∧ CoercesInt n p.location (.str text) result
  /-- As a text in a field of the body. -/
  field : ∀ (name : String) (presence : Presence) (view : RequestView)
    (entries : List (String × Json)), Entries.get? entries name = some (.str text) →
      ∃ result, (Param.mk .body (.mk name .int presence)).read view (.ok (.obj entries)) =
        some result ∧ CoercesInt n [.key "body", .key name] (.str text) result

/-- A text that denotes an integer of 64 bits is read as this integer, one just below these as the
least of them, and any other is refused with one error. -/
theorem reads_int_text {text : String} {n : Int} (h : DenotesInt (Text.trim text).toList n) :
    ReadsIntText text n where
  alone := coerceText_int h
  inBody := coerceText_int h
  param p view body hshape hlast :=
    ⟨_, Param.read_last hshape hlast body, coerceText_int h p.location⟩
  field name presence view entries hentry :=
    ⟨_, Param.read_value (by simp) hentry presence view, coerceText_int h _⟩

/-- An integer with a sign and blanks around it is read. -/
theorem signed_int_text_read : DenotesInt (Text.trim " +42 ").toList 42 ∧
    coerce .int [.key "body", .key "n"] (.str " +42 ") = .ok (.int 42) := by
  have htrim : (Text.trim " +42 ").toList = '+' :: ['4', '2'] := by cbv
  have hvalue : (Nat.ofDigitChars 10 ['4', '2'] 0 : Int) = 42 := by cbv
  have h : DenotesInt (Text.trim " +42 ").toList 42 := by
    rw [htrim, ← hvalue]
    exact .plus ⟨by simp, by simp⟩
  exact ⟨h, ((reads_int_text h).inBody _).exact (by decide) (by decide)⟩

/-- The integer below the least one of 64 bits is read as the least one. -/
theorem below_least_int_read :
    DenotesInt (Text.trim "-9223372036854775809").toList (-9223372036854775809) ∧
      -9223372036854775809 < Json.minInt ∧
      coerceText .int [.key "query", .key "n"] "-9223372036854775809" =
        .ok (.int (-9223372036854775808)) := by
  have htrim : (Text.trim "-9223372036854775809").toList =
      '-' :: "9223372036854775809".toList := by cbv
  have hvalue : (Nat.ofDigitChars 10 "9223372036854775809".toList 0 : Int) =
      9223372036854775809 := by cbv
  have h : DenotesInt (Text.trim "-9223372036854775809").toList (-9223372036854775809) := by
    rw [htrim, ← hvalue]
    exact .minus ⟨by simp, by simp⟩
  exact ⟨h, by decide, (coerceText_int h _).rounded (by decide) (by decide)⟩

end RequestDispatch
