import RequestDispatch.Proofs.IntTexts
import RequestDispatch.Proofs.JsonText

/-!
# Long integers in JSON text

Of the digits of an integer only those that fit an unsigned 64-bit integer are kept, and the number
is the double nearest to these digits and the power of ten that the others make. What is left of it
is far beyond 64 bits, or too great for a double. `readValue_int_large` says so of every integer
that is not kept exactly, and `parse_single` carries what a value is read as into an object.
-/

namespace RequestDispatch

namespace Json

/-! ## Digits that do not fit -/

/-- Digits beyond the limit are read up to the first that does not fit. -/
theorem takeDigits_full {limit start : Nat} {digits : Bytes} (hdigits : ∀ b ∈ digits, IsDigit b)
    (hstart : start ≤ limit) (hlimit : limit < digitsValue start digits) :
    ∃ taken b dropped, digits = taken ++ b :: dropped ∧
      limit < digitsValue start taken * 10 + (b.toNat - 48) ∧
      ∀ count offset rest, takeDigits limit start count offset (digits ++ rest) =
        ⟨digitsValue start taken, count + taken.length, true, offset + taken.length,
          b :: (dropped ++ rest)⟩ := by
  induction digits generalizing start with
  | nil =>
    rw [digitsValue_nil] at hlimit
    exact absurd hlimit (Nat.not_lt.mpr hstart)
  | cons b digits ih =>
    have hdigit := digit?_of_isDigit (hdigits b List.mem_cons_self)
    -- the limit is passed by this digit, or by a later one
    by_cases hfits : limit < start * 10 + (b.toNat - 48)
    · refine ⟨[], b, digits, rfl, by rwa [digitsValue_nil], fun count offset rest => ?_⟩
      rw [List.cons_append, takeDigits, hdigit]
      simp only [if_pos hfits]
      rfl
    · rw [digitsValue_cons] at hlimit
      obtain ⟨taken, d, dropped, rfl, hvalue, htake⟩ :=
        ih (fun d hd => hdigits d (List.mem_cons_of_mem _ hd)) (Nat.not_lt.mp hfits) hlimit
      refine ⟨b :: taken, d, dropped, rfl, by rwa [digitsValue_cons], fun count offset rest => ?_⟩
      rw [List.cons_append, takeDigits, hdigit]
      simp only [if_neg hfits]
      rw [htake, digitsValue_cons, List.length_cons]
      simp only [Nat.add_assoc, Nat.add_comm 1]

/-- All digits are passed over. -/
theorem skipDigits_append {digits rest : Bytes} (hdigits : ∀ b ∈ digits, IsDigit b)
    (hrest : ∀ b ∈ rest.head?, digit? b = none) (count offset : Nat) :
    skipDigits count offset (digits ++ rest) =
      (count + digits.length, ⟨offset + digits.length, rest⟩) := by
  induction digits generalizing count offset with
  | nil =>
    cases rest with
    | nil => rfl
    | cons b rest =>
      rw [List.nil_append, skipDigits, hrest b rfl]
      rfl
  | cons b digits ih =>
    rw [List.cons_append, skipDigits, digit?_of_isDigit (hdigits b List.mem_cons_self)]
    simp only [Option.isSome_some, if_true]
    rw [ih (fun d hd => hdigits d (List.mem_cons_of_mem _ hd)), List.length_cons]
    simp only [Nat.add_assoc, Nat.add_comm 1]

/-- At the end of a value digits of which some were dropped are a floating-point number. -/
theorem fractionOrEnd_of_ends {rest : Bytes} (h : Ends rest) (negative : Bool) (significand : Nat)
    (exponent : Int) (offset : Nat) :
    fractionOrEnd negative significand exponent ⟨offset, rest⟩ =
      finishFloat negative significand exponent ⟨offset, rest⟩ := by
  cases rest with
  | nil => rfl
  | cons b rest => rcases h b rfl with rfl | rfl | rfl <;> rfl

/-- A numeral beyond the greatest significand is read as its leading digits and a power of ten. -/
theorem readNumber_long {bytes rest : Bytes} {n : Nat} (h : IsNumeral bytes n)
    (hn : significandLimit < n) (hrest : Ends rest) (negative : Bool) :
    ∃ significand exponent : Nat, significandLimit < significand * 10 + 9 ∧ 0 < exponent ∧
      ∀ offset, readNumber negative ⟨offset, bytes ++ rest⟩ =
        finishFloat negative significand exponent ⟨offset + bytes.length, rest⟩ := by
  obtain ⟨b, digits, rfl⟩ := List.exists_cons_of_ne_nil h.nonempty
  have hvalue := h.value
  rw [digitsValue_cons, Nat.zero_mul, Nat.zero_add] at hvalue
  have hfirst := h.digits b List.mem_cons_self
  -- the first digit is no zero, since the number is written without leading zeros
  have hzero : b ≠ 48 := by
    rintro rfl
    obtain rfl : digits = [] := (List.cons.inj (h.shortest rfl)).2
    rw [digitsValue_nil] at hvalue
    exact absurd hn (by rw [← hvalue]; decide)
  obtain ⟨first, hfirst'⟩ : ∃ m, b.toNat - 48 = m + 1 := by
    refine Nat.exists_eq_add_one.mpr (Nat.sub_pos_of_lt (lt_of_le_of_ne hfirst.1 fun heq => ?_))
    exact hzero (UInt8.toNat_inj.mp heq.symm)
  rw [hfirst'] at hvalue
  have hstart : first + 1 ≤ significandLimit := by
    have hdigit : b.toNat ≤ 57 := hfirst.2
    unfold significandLimit
    omega
  -- the digits that do not fit are dropped, and each counts as a power of ten
  obtain ⟨taken, d, dropped, rfl, hlimit, htake⟩ :=
    takeDigits_full (fun d hd => h.digits d (List.mem_cons_of_mem _ hd)) hstart (hvalue ▸ hn)
  have hdropped : ∀ c ∈ d :: dropped, IsDigit c := fun c hc =>
    h.digits c (List.mem_cons_of_mem _ (List.mem_append_right _ hc))
  have hlast : d.toNat ≤ 57 := (hdropped d List.mem_cons_self).2
  refine ⟨digitsValue (first + 1) taken, (d :: dropped).length, by omega, Nat.succ_pos _,
    fun offset => ?_⟩
  rw [readNumber]
  simp only [List.cons_append, digit?_of_isDigit hfirst, hfirst', htake, if_true]
  rw [← List.cons_append, skipDigits_append hdropped hrest.digit?]
  simp only [Nat.zero_add]
  rw [fractionOrEnd_of_ends hrest]
  simp only [List.length_cons, List.length_append, Nat.add_assoc, Nat.add_comm 1]

/-! ## Numbers far beyond 64 bits -/

/-- Powers of ten up to the 308th are not above the greatest double. -/
theorem pow_le_greatest {k : Nat} (hk : k ≤ 77 * 4) : 10 ^ k ≤ (2 ^ 53 - 1) * 2 ^ 971 := by
  have split_pow (a b : Nat) (h : k ≤ a * b) : 10 ^ k ≤ (10 ^ a) ^ b :=
    (Nat.pow_le_pow_right (by decide) h).trans_eq (Nat.pow_mul 10 a b)
  have shift_pow (a b c d : Nat) (h : a * b = c + d) : (2 ^ a) ^ b = 2 ^ c * 2 ^ d := by
    rw [← Nat.pow_mul, h, Nat.pow_add]
  calc 10 ^ k ≤ (10 ^ 77) ^ 4 := split_pow 77 4 hk
    _ ≤ (7 * 2 ^ 253) ^ 4 := Nat.pow_le_pow_left (by norm_num) 4
    _ = 7 ^ 4 * 2 ^ 41 * 2 ^ 971 := by
      rw [Nat.mul_pow, shift_pow 253 4 41 971 rfl, ← Nat.mul_assoc]
    _ ≤ (2 ^ 53 - 1) * 2 ^ 971 := Nat.mul_le_mul_right _ (by norm_num)

/-- The powers of ten that a significand is scaled by are doubles. -/
theorem powerOfTen_eq {k : Nat} (hk : k ≤ 308) :
    BinaryFloat.ofNat .double (10 ^ k) = some (powerOfTen k) := by
  have hpower := pow_le_greatest hk
  have hle : ((10 ^ k : Nat) / (1 : Nat) : ℚ) ≤ (2 ^ 53 - 1 : Nat) * 2 ^ (971 : Int) := by
    rw [Nat.cast_one, div_one]
    exact_mod_cast hpower
  obtain ⟨x, hx⟩ : ∃ x, BinaryFloat.ofQuotient .double false (10 ^ k) 1 = some x :=
    BinaryFloat.exists_ofQuotient (by decide) (by decide) (by positivity) one_pos false hle
  have hten : powerOfTen k = x := by
    rw [powerOfTen, Nat.pow_eq, BinaryFloat.ofNat, hx, Option.getD_some]
  rw [BinaryFloat.ofNat, hx, hten]

theorem magnitude_powerOfTen {k : Nat} (hpos : 0 < k) (hk : k ≤ 308) :
    10 ≤ (powerOfTen k).magnitude := by
  have hten : ((5 : Nat) * 2 ^ (1 : Int) : ℚ) ≤ (powerOfTen k).magnitude := by
    refine BinaryFloat.le_magnitude_ofNat (by decide) (by positivity) (powerOfTen_eq hk)
      (by decide) (by decide) ?_
    have hpower : ((10 ^ 1 : Nat) : ℚ) ≤ (10 ^ k : Nat) := by
      exact_mod_cast Nat.pow_le_pow_right (by norm_num) hpos
    norm_num at hpower ⊢
    exact hpower
  norm_num at hten
  exact hten

theorem powerOfTen_pos {k : Nat} (hpos : 0 < k) (hk : k ≤ 308) :
    0 < (powerOfTen k).magnitude := by
  have hten := magnitude_powerOfTen hpos hk
  linarith

/-- A significand is scaled to a double. -/
theorem scaleByTen_inFormat {significand : Nat} {exponent : Int} {x : BinaryFloat}
    (h : scaleByTen significand exponent = some x) : x.InFormat .double := by
  unfold scaleByTen at h
  dsimp only at h
  split at h
  · cases h
    exact BinaryFloat.zero_inFormat false
  · obtain ⟨f, -, h⟩ := Option.bind_eq_some_iff.mp h
    split at h
    · cases h
    · split at h
      · exact BinaryFloat.mul_inFormat (by decide) (by decide) h
      · split at h
        · exact BinaryFloat.div_inFormat (by decide) (by decide)
            (powerOfTen_pos (by omega) (by omega)) h
        · split at h
          · -- the divisor is applied in two steps
            obtain ⟨g, -, h⟩ := Option.bind_eq_some_iff.mp h
            exact BinaryFloat.div_inFormat (by decide) (by decide)
              (powerOfTen_pos (by omega) (by omega)) h
          · cases h
            exact BinaryFloat.zero_inFormat false

/-- Digits that fill the significand, and a digit at least after them, make a number far beyond
64 bits. -/
theorem scaleByTen_large {significand exponent : Nat}
    (hsignificand : significandLimit < significand * 10 + 9) (hexponent : 0 < exponent)
    {x : BinaryFloat} (h : scaleByTen significand exponent = some x) : 2 ^ 63 < x.magnitude := by
  have hlarge : 3 * 2 ^ 59 ≤ significand := by
    unfold significandLimit at hsignificand
    omega
  rw [scaleByTen, if_neg (by omega)] at h
  obtain ⟨f, hf, h⟩ := Option.bind_eq_some_iff.mp h
  split at h
  · cases h
  · next hexponent' =>
    rw [if_pos (by omega), Int.toNat_natCast] at h
    have hfirst : ((3 : Nat) * 2 ^ (59 : Int) : ℚ) ≤ f.magnitude := by
      refine BinaryFloat.le_magnitude_ofNat (by decide) (by omega) hf (by decide) (by decide) ?_
      exact_mod_cast hlarge
    have hpower := magnitude_powerOfTen hexponent (by omega)
    have hproduct : ((15 : Nat) * 2 ^ (60 : Int) : ℚ) ≤
        f.magnitude * (powerOfTen exponent).magnitude := by
      calc ((15 : Nat) * 2 ^ (60 : Int) : ℚ) = (3 : Nat) * 2 ^ (59 : Int) * 10 := by norm_num
        _ ≤ f.magnitude * (powerOfTen exponent).magnitude := by gcongr
    have hpos : (0 : ℚ) < (15 : Nat) * 2 ^ (60 : Int) := by positivity
    have hresult := BinaryFloat.le_magnitude_mul (by decide) (hpos.trans_le hproduct) h (by decide)
      (by decide) hproduct
    refine lt_of_lt_of_le ?_ hresult
    norm_num

/-! ## Integers that are not kept exactly -/

/-- What a number is read as whose digits and sign are no integer of 64 bits: a double that is the
least signed integer or no such integer, or nothing. -/
theorem readNumber_large {bytes rest : Bytes} {n : Nat} (h : IsNumeral bytes n) (hrest : Ends rest)
    (negative : Bool) (hn : (negative ∧ 2 ^ 63 < n) ∨ significandLimit < n) :
    (∃ x, Reads (readNumber negative) bytes (.float x) rest ∧
      wholeInt x =
        if negative ∧ n ≤ 2 ^ 63 + 1024 then .ok minInt else .error .intText) ∨
    (2 ^ 63 + 1024 < n ∧
      ∀ offset, ∃ e, readNumber negative ⟨offset, bytes ++ rest⟩ = .error e) := by
  have hlimit : significandLimit = 2 ^ 64 - 1 := rfl
  -- too many digits make a float by a power of ten, else the float is the rounding of all
  rcases Nat.lt_or_ge significandLimit n with hlong | hshort
  · obtain ⟨significand, exponent, hsignificand, hexponent, hread⟩ :=
      readNumber_long h hlong hrest negative
    rcases hscale : scaleByTen significand exponent with _ | x
    · refine .inr ⟨by omega, fun offset => ?_⟩
      rw [hread, finishFloat, hscale]
      exact ⟨_, rfl⟩
    · have hformat := scaleByTen_inFormat hscale
      have hlarge := scaleByTen_large hsignificand hexponent hscale
      refine .inl ⟨if negative then x.neg else x, fun offset => ?_, ?_⟩
      · rw [hread, finishFloat, hscale]
      -- a number so long is far beyond the one that is still rounded into range
      · have hedge : ¬ (negative ∧ n ≤ 2 ^ 63 + 1024) := fun hedge => absurd hedge.2 (by omega)
        rw [if_neg hedge]
        split
        · exact BinaryFloat.wholeInt_of_large hformat.neg hlarge
        · exact BinaryFloat.wholeInt_of_large hformat hlarge
  · obtain ⟨rfl, hlower⟩ : negative = true ∧ 2 ^ 63 < n :=
      hn.resolve_right (Nat.not_lt.mpr hshort)
    have hle : (n / (1 : Nat) : ℚ) ≤ (2 ^ 53 - 1 : Nat) * 2 ^ (971 : Int) := by
      have hpower : n ≤ 10 ^ 20 := by omega
      rw [Nat.cast_one, div_one]
      exact_mod_cast hpower.trans (pow_le_greatest (by decide))
    obtain ⟨x, hx⟩ : ∃ x, BinaryFloat.ofQuotient .double false n 1 = some x :=
      BinaryFloat.exists_ofQuotient (by decide) (by decide) (by omega) one_pos false hle
    have hneg : BinaryFloat.ofQuotient .double true n 1 = some x.neg := by
      rw [← Bool.not_false, BinaryFloat.ofQuotient_not (by omega), hx]
      rfl
    have hwhole : wholeNumber true n = .float x.neg := by
      rw [wholeNumber, Bool.not_true, if_neg Bool.false_ne_true, if_pos (.inr hlower),
        BinaryFloat.ofNat, hx, Option.getD_some]
    refine .inl ⟨x.neg, ?_, BinaryFloat.wholeInt_of_rounded hlower.le hneg⟩
    rw [← hwhole]
    exact readNumber_reads h hshort hrest true

/-- An integer that is not kept exactly is read as a double that is the least signed integer or no
such integer, or is not read. -/
theorem readValue_int_large {n : Int} (h : n < minInt ∨ maxUnsigned < n) (depth : Nat)
    {rest : Bytes} (hrest : Ends rest) :
    (∃ x, Reads (readValue depth) (written (.int n)) (.float x) rest ∧
      wholeInt x = if minInt - 1024 ≤ n ∧ n < minInt then .ok minInt else .error .intText) ∨
    ((n < minInt - 1024 ∨ maxUnsigned < n) ∧
      ∀ offset, ∃ e, readValue depth ⟨offset, written (.int n) ++ rest⟩ = .error e) := by
  unfold minInt maxUnsigned at *
  cases n with
  | ofNat n =>
    rw [Int.ofNat_eq_natCast] at *
    have hn : significandLimit < n := by
      unfold significandLimit
      omega
    rcases readNumber_large (isNumeral_encode n) hrest false (.inr hn) with
      ⟨x, hread, hint⟩ | ⟨hlarge, hfails⟩
    · refine .inl ⟨x, fun offset => ?_, ?_⟩
      · rw [← Int.ofNat_eq_natCast, readValue_ofNat, hread offset]
        rfl
      · rw [hint, if_neg (by simp), if_neg (by omega)]
    · refine .inr ⟨by unfold significandLimit at hn; omega, fun offset => ?_⟩
      rw [← Int.ofNat_eq_natCast, readValue_ofNat]
      exact hfails offset
  | negSucc m =>
    have hm : 2 ^ 63 < m + 1 := by omega
    rcases readNumber_large (isNumeral_encode (m + 1)) hrest true (.inl ⟨rfl, hm⟩)
      with ⟨x, hread, hint⟩ | ⟨hlarge, hfails⟩
    · refine .inl ⟨x, fun offset => ?_, ?_⟩
      · rw [readValue_negSucc, hread (offset + 1), written_negSucc, List.length_cons, Nat.add_assoc,
          Nat.add_comm 1]
      -- the range of the number without its sign is that of the number, mirrored
      · have hedge : (true = true ∧ m + 1 ≤ 2 ^ 63 + 1024) ↔
            (-9223372036854775808 - 1024 ≤ Int.negSucc m ∧
              Int.negSucc m < -9223372036854775808) :=
          ⟨fun hm => by omega, fun hm => ⟨rfl, by omega⟩⟩
        rw [hint]
        exact if_congr hedge rfl rfl
    · refine .inr ⟨by omega, fun offset => ?_⟩
      rw [readValue_negSucc]
      exact hfails (offset + 1)

/-! ## Objects with one field -/

theorem written_single (key : String) (value : Json) :
    written (.obj [(key, value)]) = 123 :: (writtenField (key, value) ++ [125]) :=
  written_obj_cons (key, value) []

/-- An object with one field is read if the value of the field is. -/
theorem parse_single (key : String) {value x : Json}
    (hread : Reads (readValue 126) value.written x [125]) :
    parse (Utf8.encode (render (.obj [(key, value)]))) = .ok (.obj [(key, x)]) := by
  have hobject : ∃ offset, readValue maxDepth ⟨0, written (.obj [(key, value)])⟩ =
      .ok (.obj [(key, x)], ⟨offset, []⟩) := by
    rw [written_single, maxDepth, readValue_object, readFields_first hread,
      readFields_end (List.append_ne_nil_of_right_ne_nil _ (List.cons_ne_nil _ _))]
    exact ⟨_, rfl⟩
  obtain ⟨offset, hoffset⟩ := hobject
  rw [render, Utf8.encode_ofList, parse, ← written, hoffset]
  rfl

/-- An object with one field is not read if the value of the field is not. -/
theorem parse_single_fails (key : String) {value : Json}
    (hread : ∀ offset, ∃ e, readValue 126 ⟨offset, value.written ++ [125]⟩ = .error e) :
    ∃ e, parse (Utf8.encode (render (.obj [(key, value)]))) = .error e := by
  have hobject : ∃ e, readValue maxDepth ⟨0, written (.obj [(key, value)])⟩ = .error e := by
    obtain ⟨e, he⟩ := readFields_fails (key, value) hread 123 (writtenField (key, value) ++ [125]) 1
    rw [written_single, maxDepth, readValue_object, he]
    exact ⟨e, rfl⟩
  obtain ⟨e, he⟩ := hobject
  rw [render, Utf8.encode_ofList, parse, ← written, he]
  exact ⟨_, rfl⟩

end Json

end RequestDispatch
