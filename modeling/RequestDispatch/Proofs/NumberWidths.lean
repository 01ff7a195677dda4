import RequestDispatch.Proofs.LongNumbers

/-!
# Numbers of 64 bits

What JSON text is read as holds no numbers but integers of 64 bits, signed or unsigned, and doubles.
`Json.Fits` says so of a value. Every way of reading a number ends in a rounded quotient, in a zero
or in digits that do not pass a limit, and `Json.fits_of_parse` carries this through lists and
objects, by induction on how deep they may nest.
-/

namespace RequestDispatch

/-! ## What a result can be -/

/-- Whatever value a result is has a property. -/
def Ensures {ε α : Type} (P : α → Prop) (result : Except ε α) : Prop := ∀ a, result = .ok a → P a

namespace Ensures

variable {ε α β : Type} {P : α → Prop} {Q : β → Prop}

theorem ok {a : α} (h : P a) : Ensures P (.ok a : Except ε α) := by
  rintro _ ⟨⟩
  exact h

theorem error (e : ε) : Ensures P (.error e) := nofun

/-- What holds of the values of a result holds of their images. -/
theorem map {result : Except ε α} (h : Ensures P result) {f : α → β} (hf : ∀ a, P a → Q (f a)) :
    Ensures Q (result.map f) := by
  intro b hb
  cases result with
  | error e => cases hb
  | ok a =>
    cases hb
    exact hf a (h a rfl)

theorem map_of_forall {result : Except ε α} {f : α → β} (hf : ∀ a, Q (f a)) :
    Ensures Q (result.map f) :=
  map (P := fun _ => True) (fun _ _ => trivial) fun a _ => hf a

end Ensures

/-! ## Rounded numbers -/

namespace BinaryFloat

/-- A float that is made of an integer is a double. -/
theorem ofInt_inFormat {n : Int} {x : BinaryFloat} (h : ofInt .double n = some x) :
    x.InFormat .double :=
  ofQuotient_inFormat (by decide) (by decide) one_pos h

end BinaryFloat

/-- Decimal texts are read as numbers of the format. -/
theorem FloatReading.ofDecimal_inFormat {negative : Bool} {digits : List Char} {exponent : Int}
    {x : BinaryFloat} (h : ofDecimal .double negative digits exponent = .finite x) :
    x.InFormat .double := by
  unfold ofDecimal at h
  dsimp only at h
  split at h
  · cases h
    exact BinaryFloat.zero_inFormat negative
  · split at h
    · cases h
    · split at h
      · next hx =>
        cases h
        unfold BinaryFloat.ofDecimal at hx
        split at hx
        · exact BinaryFloat.ofQuotient_inFormat (by decide) (by decide)
            (Nat.pow_pos (by decide)) hx
        · exact BinaryFloat.ofQuotient_inFormat (by decide) (by decide) one_pos hx
      · cases h

/-- The magnitude of a text of digits is a double. -/
theorem FloatReading.readMagnitude_inFormat {negative : Bool} {cs : List Char} {x : BinaryFloat}
    (h : readMagnitude .double negative cs = some (.finite x)) : x.InFormat .double := by
  unfold readMagnitude at h
  dsimp only at h
  split at h
  · cases h
  · split at h
    · cases h
    · -- with and without a point the digits are a decimal number
      split at h
      all_goals
        split at h
        · cases h
        · obtain ⟨exponent, -, hx⟩ := Option.map_eq_some_iff.mp h
          exact ofDecimal_inFormat hx

/-- A float that is read from a text is a double. -/
theorem readFloatText_inFormat {text : String} {x : BinaryFloat}
    (h : readFloatText text = some x) : x.InFormat .double := by
  unfold readFloatText at h
  split at h
  · next hread =>
    cases h
    unfold readFloat at hread
    split at hread <;> exact FloatReading.readMagnitude_inFormat hread
  · cases h

namespace Json

/-- A value in which all numbers have 64 bits. -/
inductive Fits : Json → Prop where
  | null : Fits .null
  | bool (value : Bool) : Fits (.bool value)
  | int {value : Int} (low : minInt ≤ value) (high : value ≤ maxUnsigned) : Fits (.int value)
  | float {value : BinaryFloat} (double : value.InFormat .double) : Fits (.float value)
  | str (text : String) : Fits (.str text)
  | arr {items : List Json} (items_fit : ∀ item ∈ items, Fits item) : Fits (.arr items)
  | obj {fields : List (String × Json)} (values_fit : ∀ field ∈ fields, Fits field.2) :
      Fits (.obj fields)

/-! ## Reading numbers -/

/-- What a reading gives has a property. -/
abbrev Yields {α : Type} (P : α → Prop) (reading : Reading α) : Prop :=
  Ensures (fun result => P result.1) reading

/-- A number with a fraction or an exponent fits. -/
theorem finishFloat_yields (negative : Bool) (significand : Nat) (exponent : Int) (c : Cursor) :
    Yields Fits (finishFloat negative significand exponent c) := by
  unfold finishFloat
  split
  · next hx =>
    refine .ok (.float ?_)
    split
    · exact (scaleByTen_inFormat hx).neg
    · exact scaleByTen_inFormat hx
  · exact .error _

/-- A number whose exponent is still to be read fits. -/
theorem readExponent_yields (negative : Bool) (significand : Nat) (exponent : Int) (c : Cursor) :
    Yields Fits (readExponent negative significand exponent c) := by
  unfold readExponent
  split
  next down c _ =>
    split
    · exact .error _
    · split
      · exact .error _
      · dsimp only
        split
        · split
          · exact .error _
          · exact .ok (.float (BinaryFloat.zero_inFormat negative))
        · exact finishFloat_yields _ _ _ _

/-- A number that may have an exponent fits. -/
theorem exponentOrEnd_yields (negative : Bool) (significand : Nat) (exponent : Int) (c : Cursor) :
    Yields Fits (exponentOrEnd negative significand exponent c) := by
  unfold exponentOrEnd
  split
  · split
    · exact readExponent_yields _ _ _ _
    · exact finishFloat_yields _ _ _ _
  · exact finishFloat_yields _ _ _ _

/-- A number that may have a fraction fits. -/
theorem fractionOrEnd_yields (negative : Bool) (significand : Nat) (exponent : Int) (c : Cursor) :
    Yields Fits (fractionOrEnd negative significand exponent c) := by
  unfold fractionOrEnd
  split
  · unfold readFraction
    dsimp only
    split
    · exact exponentOrEnd_yields _ _ _ _
    · split
      · exact .error _
      · exact exponentOrEnd_yields _ _ _ _
  · exact exponentOrEnd_yields _ _ _ _

/-- Digits are taken as long as they fit. -/
theorem takeDigits_le {limit value : Nat} (h : value ≤ limit) (count offset : Nat)
    (digits : Bytes) : (takeDigits limit value count offset digits).value ≤ limit := by
  induction digits generalizing value count offset with
  | nil => exact h
  | cons b rest ih =>
    rw [takeDigits]
    split
    · exact h
    · split
      · exact h
      · next hfits => exact ih (not_lt.mp hfits) _ _

/-- A number without a fraction fits as long as its digits do. -/
theorem wholeNumber_fits (negative : Bool) {significand : Nat}
    (h : significand ≤ significandLimit) : Fits (wholeNumber negative significand) := by
  have hlimit : significandLimit = 18446744073709551615 := rfl
  unfold wholeNumber
  split
  · exact .int (by unfold minInt; omega) (by unfold maxUnsigned; omega)
  · split
    · refine .float (BinaryFloat.InFormat.neg ?_)
      cases hx : BinaryFloat.ofNat .double significand with
      | none => exact ⟨by decide, by decide, by decide⟩
      | some x => exact BinaryFloat.ofQuotient_inFormat (by decide) (by decide) one_pos hx
    · exact .int (by unfold minInt; omega) (by unfold maxUnsigned; omega)

/-- A number whose digits have been read fits. -/
theorem afterWhole_yields (negative : Bool) {significand : Nat}
    (h : significand ≤ significandLimit) (c : Cursor) :
    Yields Fits (afterWhole negative significand c) := by
  unfold afterWhole
  split
  · split
    · exact fractionOrEnd_yields _ _ _ _
    · exact .ok (wholeNumber_fits negative h)
  · exact .ok (wholeNumber_fits negative h)

/-- A digit is nine at most. -/
theorem digit?_le {b : UInt8} {d : Nat} (h : digit? b = some d) : d ≤ 9 := by
  unfold digit? at h
  split at h
  · next hdigit =>
    cases h
    omega
  · cases h

/-- Every number that is read fits. -/
theorem readNumber_yields (negative : Bool) (c : Cursor) : Yields Fits (readNumber negative c) := by
  unfold readNumber
  split
  · exact .error _
  · split
    · exact .error _
    · dsimp only
      split
      · exact .error _
      · exact afterWhole_yields negative (Nat.zero_le _) _
    · next hfirst =>
      have hstart := (digit?_le hfirst).trans (show 9 ≤ significandLimit by decide)
      dsimp only
      split
      · exact fractionOrEnd_yields _ _ _ _
      · exact afterWhole_yields negative (takeDigits_le hstart _ _ _) _

/-! ## Reading values -/

/-- Every value without other values in it fits. -/
theorem readScalar_yields (b : UInt8) (c : Cursor) : Yields Fits (readScalar b c) := by
  unfold readScalar
  dsimp only
  split
  · exact .map_of_forall fun _ => .null
  · split
    · exact .map_of_forall fun _ => .bool true
    · split
      · exact .map_of_forall fun _ => .bool false
      · split
        · exact readNumber_yields true _
        · split
          · exact readNumber_yields false c
          · split
            · exact .map_of_forall fun ⟨text, _⟩ => .str text
            · exact .error _

section Nested

variable {readItem : Cursor → Reading Json}

/-- The items of a list fit, if each of them does by itself. -/
theorem readItems_yields (hread : ∀ c, Yields Fits (readItem c)) (rounds : Bytes) (first : Bool)
    {done : List Json} (hdone : ∀ item ∈ done, Fits item) (c : Cursor) :
    Yields (fun items => ∀ item ∈ items, Fits item) (readItems readItem rounds first done c) := by
  induction rounds generalizing first done c with
  | nil => exact .error _
  | cons octet rounds ih =>
    -- an item that is read joins those that are done
    have joined {c c' : Cursor} {item : Json} (hitem : readItem c = .ok (item, c')) :
        Yields (fun items => ∀ item ∈ items, Fits item)
          (readItems readItem rounds false (item :: done) c') :=
      ih false (List.forall_mem_cons.mpr ⟨hread c _ hitem, hdone⟩) c'
    rw [readItems]
    dsimp only
    split
    · exact .error _
    · split
      · exact .ok fun item hitem => hdone item (List.mem_reverse.mp hitem)
      · split
        · split
          · next hitem => exact joined hitem
          · exact .error _
        · split
          · split
            · exact .error _
            · split
              · exact .error _
              · split
                · next hitem => exact joined hitem
                · exact .error _
          · exact .error _

/-- The value of a field fits if it does by itself. -/
theorem readField_yields (hread : ∀ c, Yields Fits (readItem c)) (c : Cursor) :
    Yields (fun field => Fits field.2) (readField readItem c) := by
  unfold readField
  split
  · exact .error _
  · dsimp only
    split
    · exact .error _
    · split
      · split
        · next hvalue => exact .ok (hread _ _ hvalue)
        · exact .error _
      · exact .error _

/-- The values of the fields of an object fit, if each of them does by itself. -/
theorem readFields_yields (hread : ∀ c, Yields Fits (readItem c)) (rounds : Bytes) (first : Bool)
    {done : List (String × Json)} (hdone : ∀ field ∈ done, Fits field.2) (c : Cursor) :
    Yields (fun fields => ∀ field ∈ fields, Fits field.2)
      (readFields readItem rounds first done c) := by
  induction rounds generalizing first done c with
  | nil => exact .error _
  | cons octet rounds ih =>
    have joined {c c' : Cursor} {field : String × Json}
        (hfield : readField readItem c = .ok (field, c')) :
        Yields (fun fields => ∀ field ∈ fields, Fits field.2)
          (readFields readItem rounds false (field :: done) c') :=
      ih false (List.forall_mem_cons.mpr ⟨readField_yields hread c _ hfield, hdone⟩) c'
    rw [readFields]
    dsimp only
    split
    · exact .error _
    · split
      · exact .ok fun field hfield => hdone field (List.mem_reverse.mp hfield)
      · split
        · split
          · split
            · next hfield => exact joined hfield
            · exact .error _
          · exact .error _
        · split
          · split
            · exact .error _
            · split
              · split
                · next hfield => exact joined hfield
                · exact .error _
              · exact .error _
          · exact .error _

end Nested

/-- Every value that is read fits, however deeply it nests. -/
theorem readValue_yields (depth : Nat) (c : Cursor) : Yields Fits (readValue depth c) := by
  induction depth generalizing c with
  | zero =>
    rw [readValue]
    dsimp only
    split
    · exact .error _
    · split
      · exact .error _
      · exact readScalar_yields _ _
  | succ depth ih =>
    rw [readValue]
    dsimp only
    split
    · exact .error _
    · split
      · split
        · refine (readItems_yields ih _ true (List.forall_mem_nil _) _).map fun ⟨_, _⟩ h => ?_
          exact .arr h
        · refine (readFields_yields ih _ true (List.forall_mem_nil _) _).map fun ⟨_, _⟩ h => ?_
          exact .obj fun field hfield => h field (Entries.mem_ofList hfield)
      · exact readScalar_yields _ _

/-- Every value that is parsed fits. -/
theorem fits_of_parse {bytes : Bytes} {value : Json} (h : parse bytes = .ok value) :
    Fits value := by
  unfold parse at h
  cases hread : readValue maxDepth ⟨0, bytes⟩ with
  | error e =>
    rw [hread] at h
    cases h
  | ok result =>
    obtain ⟨value', c⟩ := result
    have hfits := readValue_yields maxDepth _ _ hread
    rw [hread] at h
    change Except.mapError _ (if c.skipBlank.rest.isEmpty then pure value'
      else c.skipBlank.failAhead .trailingCharacters) = _ at h
    split at h
    · cases h
      exact hfits
    · cases h

end Json

/-- The body of a request fits. -/
theorem fits_readBody {body : Bytes} {value : Json} (h : readBody body = .ok value) :
    value.Fits := by
  unfold readBody at h
  split at h
  · cases h
    exact .obj nofun
  · cases hparse : Json.parse body with
    | error e =>
      rw [hparse] at h
      cases h
    | ok parsed =>
      rw [hparse] at h
      cases h
      exact Json.fits_of_parse hparse

end RequestDispatch
