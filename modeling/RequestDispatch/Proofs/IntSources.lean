import RequestDispatch.Proofs.LongNumbers
import RequestDispatch.Proofs.Text

/-!
# Integers from the query and from the body

The same integer can stand as a text in the query and as a number in the body. `int_sources_compare`
says how the two are read: alike, with the same integer or with an error from both, but for the
integers that only an unsigned number of 64 bits can hold. Those the body keeps exactly and passes
on, and the query refuses.
-/

namespace RequestDispatch

/-! ## The text of an integer -/

/-- An integer is denoted by its decimal text. -/
theorem denotesInt_toString (n : Int) : DenotesInt (toString n).toList n := by
  have digits (m : Nat) : AreDigits (Nat.toDigits 10 m) :=
    ⟨Nat.toDigits_ne_nil, fun _ hc => Nat.isDigit_of_mem_toDigits (by decide) (by decide) hc⟩
  have value (m : Nat) : Nat.ofDigitChars 10 (Nat.toDigits 10 m) 0 = m :=
    Nat.ofDigitChars_ten_toDigits
  cases n with
  | ofNat m =>
    have htext : (toString (Int.ofNat m)).toList = Nat.toDigits 10 m := by
      have hnat : toString (Int.ofNat m) = toString m := rfl
      rw [hnat, Nat.toString_eq_ofList_toDigits, String.toList_ofList]
    have h := DenotesInt.unsigned (digits m)
    rwa [value, ← htext] at h
  | negSucc m =>
    have htext : (toString (Int.negSucc m)).toList = '-' :: Nat.toDigits 10 (m + 1) := by
      have hsign : toString (Int.negSucc m) = "-" ++ toString (m + 1) := rfl
      rw [hsign, String.toList_append, Nat.toString_eq_ofList_toDigits, String.toList_ofList,
        String.toList_ofList]
      rfl
    have h := DenotesInt.minus (digits (m + 1))
    rwa [value, ← htext] at h

theorem not_isBlank_of_isDigit {c : Char} (h : c.isDigit) : ¬ Text.isBlank c := by
  have hdigit : 48 ≤ c.toNat ∧ c.toNat ≤ 57 := Char.isDigit_iff_toNat.mp h
  simp only [Text.isBlank, Bool.or_eq_true, Bool.and_eq_true, decide_eq_true_eq, beq_iff_eq]
  omega

/-- The text of an integer has no blanks. -/
theorem DenotesInt.trim {text : String} {n : Int} (h : DenotesInt text.toList n) :
    Text.trim text = text := by
  refine Text.trim_of_forall fun c hc => ?_
  generalize text.toList = cs at h hc
  cases h with
  | unsigned h => exact not_isBlank_of_isDigit (h.decimal c hc)
  | plus h | minus h =>
    rcases List.mem_cons.mp hc with rfl | hc
    · decide
    · exact not_isBlank_of_isDigit (h.decimal c hc)

/-! ## A parameter alone -/

/-- A parameter that is read with errors is refused alone, with these. -/
theorem validate_singleton_of_error {p : Param} {view : RequestView} {errors : List FieldError}
    (h : p.read view (readBody view.request.body) = some (.error errors)) (hne : errors ≠ []) :
    validate [p] view = .error errors := by
  have hbody : p.source ≠ .body ∨ bodyError? (readBody view.request.body) = none := by
    by_cases hsource : p.source = .body
    · cases he : bodyError? (readBody view.request.body) with
      | none => exact .inr rfl
      | some e => cases (p.read_eq_none hsource he).symm.trans h
    · exact .inl hsource
  have herrors : (validate [p] view).errors = errors := by
    rw [errors_singleton hbody, Param.ownErrors, h]
    rfl
  cases hresult : validate [p] view with
  | ok values =>
    rw [hresult] at herrors
    exact absurd herrors.symm hne
  | error errors' =>
    rw [hresult] at herrors
    exact congrArg _ herrors

/-- A body that is no object is the one error of a parameter of it. -/
theorem validate_singleton_of_bodyError {field : Field} {view : RequestView} {e : FieldError}
    (h : bodyError? (readBody view.request.body) = some e) :
    validate [⟨.body, field⟩] view = .error [e] := by
  have hown : (Param.mk .body field).ownErrors view = [] := by
    rw [Param.ownErrors, Param.read_eq_none rfl h]
    rfl
  have hall : allErrors [⟨.body, field⟩] view = [e] := by
    rw [allErrors, List.flatMap_singleton, hown, bodyErrors, h]
    rfl
  rw [validate_eq, hall]
  rfl

/-- A parameter that is read is accepted alone. -/
theorem validate_singleton_of_ok {p : Param} {view : RequestView} {value : Json}
    (h : p.read view (readBody view.request.body) = some (.ok value)) :
    validate [p] view = .ok (.ofList [(p.name, value)]) :=
  validate_singleton_eq_ok.mpr ⟨value, h, rfl⟩

/-! ## The body -/

/-- A body that is an object with this one integer. -/
def intBody (name : String) (n : Int) : Bytes := Utf8.encode (Json.render (.obj [(name, .int n)]))

theorem readBody_intBody (name : String) (n : Int) :
    readBody (intBody name n) = (Json.parse (intBody name n)).mapError fun e =>
      Defect.error .jsonText [.key "body", .index e.column]
        (.str (Utf8.decodeLossy (intBody name n))) := by
  have htext : intBody name n = 123 :: (Json.writtenField (name, .int n) ++ [125]) := by
    rw [intBody, Json.render, Utf8.encode_ofList]
    exact Json.written_single name (.int n)
  have hblank : ¬ isBlankBody (intBody name n) := by
    rw [htext]
    simp [isBlankBody]
  rw [readBody, if_neg hblank]

section Posted

variable {n : Int} {name : String} {view : RequestView} (presence : Presence)

/-- A number in the body is read as an integer as far as its value is one. -/
theorem validate_number {x : Json} (posted : view.request.body = intBody name n)
    (hread : Json.Reads (Json.readValue 126) (Json.written (.int n)) x [125]) (hnull : x ≠ .null) :
    (Param.mk .body (.mk name .int presence)).read view (readBody view.request.body) =
      some (coerce .int [.key "body", .key name] x) := by
  have hbody : readBody view.request.body = .ok (.obj [(name, x)]) := by
    rw [posted, readBody_intBody, intBody, Json.parse_single name hread]
    rfl
  rw [hbody]
  refine Param.read_value hnull ?_ presence view
  rw [Entries.get?_cons, if_pos rfl]

/-- An integer of 64 bits, signed or unsigned, is accepted in the body. -/
theorem validate_posted (posted : view.request.body = intBody name n) (hlow : Json.minInt ≤ n)
    (hhigh : n ≤ Json.maxUnsigned) :
    validate [⟨.body, .mk name .int presence⟩] view = .ok (.ofList [(name, .int n)]) := by
  have hends : Json.Ends [125] := fun b hb => .inr (.inr (Option.some.inj hb).symm)
  exact validate_singleton_of_ok
    (validate_number presence posted (Json.readValue_int hlow hhigh 126 hends) (by simp))

/-- Any other integer in the body is the least signed one, or is refused. -/
theorem validate_posted_large (posted : view.request.body = intBody name n)
    (hlarge : n < Json.minInt ∨ Json.maxUnsigned < n) :
    (Json.minInt - 1024 ≤ n ∧ n < Json.minInt ∧
      validate [⟨.body, .mk name .int presence⟩] view =
        .ok (.ofList [(name, .int Json.minInt)])) ∨
    ((n < Json.minInt - 1024 ∨ Json.maxUnsigned < n) ∧
      ∃ e, validate [⟨.body, .mk name .int presence⟩] view = .error [e] ∧
        (e.kind = "int_parsing" ∨ e.kind = "json_invalid")) := by
  have hends : Json.Ends [125] := fun b hb => .inr (.inr (Option.some.inj hb).symm)
  rcases Json.readValue_int_large hlarge 126 hends with ⟨x, hread, hint⟩ | ⟨hfar, hfails⟩
  · have hvalue := validate_number presence posted hread (by simp)
    by_cases hedge : Json.minInt - 1024 ≤ n ∧ n < Json.minInt
    · rw [if_pos hedge] at hint
      refine .inl ⟨hedge.1, hedge.2, validate_singleton_of_ok ?_⟩
      rw [hvalue, coerce, coerceScalar, hint]
    · rw [if_neg hedge] at hint
      have hrefused : coerce .int [.key "body", .key name] (.float x) =
          reject .intNumber [.key "body", .key name] (.float x) := by
        rw [coerce, coerceScalar, hint]
      refine .inr ⟨by omega, Defect.intNumber.error [.key "body", .key name] (.float x),
        validate_singleton_of_error ?_ (List.cons_ne_nil _ _), .inl rfl⟩
      rw [hvalue, hrefused]
      rfl
  · obtain ⟨e, he⟩ := Json.parse_single_fails name hfails
    have hbody : bodyError? (readBody view.request.body) = some (Defect.error .jsonText
        [.key "body", .index e.column] (.str (Utf8.decodeLossy (intBody name n)))) := by
      rw [posted, readBody_intBody, intBody, he]
      rfl
    exact .inr ⟨hfar, _, validate_singleton_of_bodyError hbody, .inr rfl⟩

end Posted

/-! ## Query and body -/

/-- How an integer is read from the query and from the body. -/
structure ComparesSources (n : Int) (name : String) (queried posted : Checked (Fields Json)) :
    Prop where
  /-- A signed integer of 64 bits is read from both. -/
  exact : Json.minInt ≤ n → n ≤ Json.maxSigned →
    queried = .ok (.ofList [(name, .int n)]) ∧ posted = .ok (.ofList [(name, .int n)])
  /-- Just below these both give the least of them. -/
  rounded : Json.minInt - 1024 ≤ n → n < Json.minInt →
    queried = .ok (.ofList [(name, .int Json.minInt)]) ∧
      posted = .ok (.ofList [(name, .int Json.minInt)])
  /-- Below that, and above the unsigned integers of 64 bits, both refuse it. -/
  refused : n < Json.minInt - 1024 ∨ Json.maxUnsigned < n →
    (∃ e, queried = .error [e] ∧ e.kind = "int_parsing") ∧
      ∃ e, posted = .error [e] ∧ (e.kind = "int_parsing" ∨ e.kind = "json_invalid")
  /-- An unsigned integer of 64 bits that is no signed one is read from the body alone. -/
  apart : Json.maxSigned < n → n ≤ Json.maxUnsigned →
    (∃ e, queried = .error [e] ∧ e.kind = "int_parsing") ∧ posted = .ok (.ofList [(name, .int n)])

section Queried

variable {n : Int} {name : String} {view : RequestView}

/-- An integer in the query is read as its text is. -/
theorem read_queried (queried : (view.queryValues name).getLast? = some (toString n))
    (presence : Presence) :
    ∃ result, (Param.mk .query (.mk name .int presence)).read view (readBody view.request.body) =
        some result ∧
      CoercesInt n [.key "query", .key name] (.str (toString n)) result := by
  have hdenotes := denotesInt_toString n
  have hread := Param.read_last (p := ⟨.query, .mk name .int presence⟩) rfl queried
    (readBody view.request.body)
  exact ⟨_, hread, coerceText_int (hdenotes.trim.symm ▸ hdenotes) _⟩

/-- An integer in the query that is no signed one of 64 bits is refused, but for those that are
rounded to the least one. -/
theorem validate_queried_error (queried : (view.queryValues name).getLast? = some (toString n))
    (presence : Presence) (hfar : n < Json.minInt - 1024 ∨ Json.maxSigned < n) :
    ∃ e, validate [⟨.query, .mk name .int presence⟩] view = .error [e] ∧
      e.kind = "int_parsing" := by
  obtain ⟨result, hread, hcoerces⟩ := read_queried queried presence
  rw [hcoerces.refused hfar] at hread
  exact ⟨_, validate_singleton_of_error hread (List.cons_ne_nil _ _), rfl⟩

end Queried

/-- The same integer, as a text in the query and as a number in the body, is read alike from both,
unless only an unsigned integer of 64 bits can hold it: then the body alone gives it. -/
theorem int_sources_compare {n : Int} {name : String} {view view' : RequestView}
    (queried : (view.queryValues name).getLast? = some (toString n))
    (posted : view'.request.body = intBody name n) (presence : Presence) :
    ComparesSources n name (validate [⟨.query, .mk name .int presence⟩] view)
      (validate [⟨.body, .mk name .int presence⟩] view') := by
  obtain ⟨result, hread, hcoerces⟩ := read_queried queried presence
  have hrange : Json.minInt ≤ Json.maxSigned ∧ Json.maxSigned ≤ Json.maxUnsigned := by decide
  constructor
  case exact =>
    intro hlow hhigh
    rw [hcoerces.exact hlow hhigh] at hread
    exact ⟨validate_singleton_of_ok hread, validate_posted presence posted hlow (by omega)⟩
  case rounded =>
    intro hlow hhigh
    rw [hcoerces.rounded hlow hhigh] at hread
    refine ⟨validate_singleton_of_ok hread, ?_⟩
    -- past the greatest number of the range, the rounding of the text decides
    rcases validate_posted_large presence posted (.inl hhigh) with
      ⟨-, -, hok⟩ | ⟨hfar, -⟩
    · exact hok
    · omega
  case refused =>
    intro hfar
    refine ⟨validate_queried_error queried presence (by omega), ?_⟩
    rcases validate_posted_large presence posted (by omega) with
      ⟨hlow, hhigh, -⟩ | ⟨-, herror⟩
    · omega
    · exact herror
  case apart =>
    intro hlow hhigh
    exact ⟨validate_queried_error queried presence (.inr hlow),
      validate_posted presence posted (by omega) hhigh⟩

/-- A request with an integer in the query and in the body. -/
def countView (n : Int) : RequestView :=
  .bind { Request.new "POST" "/counts" with
    query := Utf8.encode ("n=" ++ toString n), body := intBody "n" n } []

theorem seven_compares :
    ((countView 7).queryValues "n").getLast? = some (toString (7 : Int)) ∧
      (countView 7).request.body = intBody "n" 7 ∧
      ComparesSources 7 "n" (validate [⟨.query, .required "n" .int⟩] (countView 7))
        (validate [⟨.body, .required "n" .int⟩] (countView 7)) := by
  have queried : ((countView 7).queryValues "n").getLast? = some (toString (7 : Int)) := by
    decide +kernel
  exact ⟨queried, rfl, int_sources_compare queried rfl .required⟩

/-- The integer above the greatest signed one is refused in the query and accepted in the body. -/
theorem unsigned_int_from_body_alone :
    ((countView 9223372036854775808).queryValues "n").getLast? =
        some (toString (9223372036854775808 : Int)) ∧
      (countView 9223372036854775808).request.body = intBody "n" 9223372036854775808 ∧
      (∃ e, validate [⟨.query, .required "n" .int⟩] (countView 9223372036854775808) =
        .error [e]) ∧
      validate [⟨.body, .required "n" .int⟩] (countView 9223372036854775808) =
        .ok (.ofList [("n", .int 9223372036854775808)]) := by
  have queried : ((countView 9223372036854775808).queryValues "n").getLast? =
      some (toString (9223372036854775808 : Int)) := by decide +kernel
  obtain ⟨e, he, -⟩ := validate_queried_error queried .required (.inr (by decide))
  exact ⟨queried, rfl, ⟨e, he⟩, validate_posted .required rfl (by decide) (by decide)⟩

end RequestDispatch
