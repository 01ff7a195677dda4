import RequestDispatch.Json.Parser
import RequestDispatch.Json.Printer
import RequestDispatch.Proofs.Encoding
import RequestDispatch.Proofs.Numerals

/-!
# Reading words, strings and numbers of JSON

A part of a JSON text is read up to its end and no further, whatever follows it, as long as what
follows a number cannot go on with it. `readText_reads` says so of quoted texts, with the escapes in
which they are written, and `readNumber_reads` of whole numbers.
-/

namespace RequestDispatch

namespace Utf8

/-- The octets of characters. -/
def encodeChars (cs : List Char) : Bytes := cs.flatMap encodeChar

@[simp] theorem encodeChars_nil : encodeChars [] = [] := rfl

@[simp] theorem encodeChars_cons (c : Char) (cs : List Char) :
    encodeChars (c :: cs) = encodeChar c ++ encodeChars cs := List.flatMap_cons ..

@[simp] theorem encodeChars_append (cs ds : List Char) :
    encodeChars (cs ++ ds) = encodeChars cs ++ encodeChars ds := List.flatMap_append ..

theorem encode_ofList (cs : List Char) : encode (String.ofList cs) = encodeChars cs := by
  rw [encode, String.toList_ofList, encodeChars]

end Utf8

namespace Json

open Utf8 (encodeChars encodeChar)

/-- A reader takes octets for a value, and leaves what comes after them. -/
def Reads {α : Type} (read : Cursor → Reading α) (bytes : Bytes) (a : α) (rest : Bytes) : Prop :=
  ∀ offset, read ⟨offset, bytes ++ rest⟩ = .ok (a, ⟨offset + bytes.length, rest⟩)

/-! ## Words -/

/-- A word is read from its octets. -/
theorem readWord_append (word rest : Bytes) (offset : Nat) :
    readWord offset word (word ++ rest) = .ok ⟨offset + word.length, rest⟩ := by
  induction word generalizing offset with
  | nil => rw [List.nil_append, readWord, List.length_nil, Nat.add_zero]
  | cons b word ih =>
    rw [List.cons_append, readWord, if_pos rfl, ih, List.length_cons, Nat.add_assoc, Nat.add_comm 1]

/-- White space is passed over, and an octet that is none is not. -/
theorem skipBlank_cons {b : UInt8} (h : ¬ (b = 32 ∨ b = 10 ∨ b = 9 ∨ b = 13)) (offset : Nat)
    (rest : Bytes) : skipBlank offset (b :: rest) = ⟨offset, b :: rest⟩ := by
  rw [skipBlank, if_neg h]

/-! ## Strings -/

/-- A quote ends a string, whose octets are read as UTF-8. -/
theorem readString_end (done rest : Bytes) (offset : Nat) :
    readString done offset (34 :: rest) =
      match Utf8.decode? done.reverse with
      | some text => .ok (text, ⟨offset + 1, rest⟩)
      | none => .error ⟨.invalidCodePoint, offset + 1⟩ := by
  rw [readString.eq_def]
  rfl

/-- An escape with one letter stands for one octet. -/
theorem readString_escape {e octet : UInt8} (h : simpleEscape? e = some octet) (hu : e ≠ 117)
    (done rest : Bytes) (offset : Nat) :
    readString done offset (92 :: e :: rest) = readString (octet :: done) (offset + 2) rest := by
  rw [readString.eq_def]
  simp [h, hu]

/-- An escape with a number stands for the octets of a character. -/
theorem readString_unicode {a b c d : UInt8} {n : Nat} (h : hexQuad? a b c d = some n)
    (hn : n < 0xD800) (done rest : Bytes) (offset : Nat) :
    readString done offset (92 :: 117 :: a :: b :: c :: d :: rest) =
      readString ((encodeChar (Char.ofNat n)).reverse ++ done) (offset + 6) rest := by
  rw [readString.eq_def]
  simp only [h]
  simp
  rw [if_neg (by omega), if_pos (by omega)]

/-- Any other octet stands for itself. -/
theorem readString_octet {b : UInt8} (hquote : b ≠ 34) (hslash : b ≠ 92) (hcontrol : 32 ≤ b.toNat)
    (done rest : Bytes) (offset : Nat) :
    readString done offset (b :: rest) = readString (b :: done) (offset + 1) rest := by
  rw [readString.eq_def]
  simp [hquote, hslash, Nat.not_lt.mpr hcontrol]

/-- Octets that are neither marks nor control characters stand for themselves. -/
theorem readString_octets {bytes : Bytes} (h : ∀ b ∈ bytes, b ≠ 34 ∧ b ≠ 92 ∧ 32 ≤ b.toNat)
    (done rest : Bytes) (offset : Nat) :
    readString done offset (bytes ++ rest) =
      readString (bytes.reverse ++ done) (offset + bytes.length) rest := by
  induction bytes generalizing done offset with
  | nil => rfl
  | cons b bytes ih =>
    obtain ⟨hquote, hslash, hcontrol⟩ := h b List.mem_cons_self
    rw [List.cons_append, readString_octet hquote hslash hcontrol,
      ih fun b hb => h b (List.mem_cons_of_mem _ hb), List.reverse_cons, List.append_assoc,
      List.singleton_append, List.length_cons, Nat.add_assoc, Nat.add_comm 1]

theorem eq_ofNat {c : Char} {n : Nat} (h : c.toNat = n) : c = Char.ofNat n := by
  rw [← h, Char.ofNat_toNat]

/-- A control character is written with a letter or with two hexadecimal digits. -/
theorem escapeChar_control : ∀ n < 32,
    (∃ e ∈ ([98, 102, 110, 114, 116] : Bytes), encodeChars (escapeChar (Char.ofNat n)) = [92, e] ∧
      simpleEscape? e = some (UInt8.ofNat n)) ∨
    (encodeChars (escapeChar (Char.ofNat n)) =
        [92, 117, 48, 48, UInt8.ofNat (hexDigit (n / 16)).toNat,
          UInt8.ofNat (hexDigit (n % 16)).toNat] ∧
      hexQuad? 48 48 (UInt8.ofNat (hexDigit (n / 16)).toNat)
        (UInt8.ofNat (hexDigit (n % 16)).toNat) = some n) := by
  decide

/-- The octets of a character that stands for itself are neither marks nor control characters. -/
theorem encodeChar_plain {c : Char} (hquote : c ≠ '"') (hslash : c ≠ '\\')
    (hcontrol : ¬ c.toNat < 0x20) : ∀ b ∈ encodeChar c, b ≠ 34 ∧ b ≠ 92 ∧ 32 ≤ b.toNat := by
  intro b hb
  by_cases hascii : c.toNat < 0x80
  · rw [Utf8.encodeChar_ascii hascii, List.mem_singleton] at hb
    have hcode : b.toNat = c.toNat := by rw [hb, Utf8.toNat_ofNat (by omega)]
    refine ⟨?_, ?_, by omega⟩
    · rintro rfl
      exact hquote (eq_ofNat hcode.symm)
    · rintro rfl
      exact hslash (eq_ofNat hcode.symm)
  · have hhigh := Utf8.encodeChar_high (Nat.not_lt.mp hascii) b hb
    refine ⟨?_, ?_, by omega⟩
    · rintro rfl
      exact absurd hhigh (by decide)
    · rintro rfl
      exact absurd hhigh (by decide)

/-- A character is read from its form inside a string. -/
theorem readString_escapeChar (c : Char) (done rest : Bytes) (offset : Nat) :
    readString done offset (encodeChars (escapeChar c) ++ rest) =
      readString ((encodeChar c).reverse ++ done) (offset + (encodeChars (escapeChar c)).length)
        rest := by
  by_cases hquote : c = '"'
  · subst hquote
    exact readString_escape rfl (by decide) done rest offset
  by_cases hslash : c = '\\'
  · subst hslash
    exact readString_escape rfl (by decide) done rest offset
  by_cases hcontrol : c.toNat < 0x20
  · have hself := Char.ofNat_toNat c
    rcases escapeChar_control c.toNat hcontrol with ⟨e, he, hoctets, hread⟩ | ⟨hoctets, hread⟩
    · have hu : e ≠ 117 := by
        rintro rfl
        exact absurd he (by decide)
      rw [hself] at hoctets
      rw [hoctets, Utf8.encodeChar_ascii (by omega)]
      exact readString_escape hread hu done rest offset
    · have hquad := readString_unicode hread (by omega) done rest offset
      rw [hself] at hoctets hquad
      rw [hoctets]
      exact hquad
  · -- the character stands for itself
    have hform : encodeChars (escapeChar c) = encodeChar c := by
      rw [escapeChar, if_neg hquote, if_neg hslash, if_neg hcontrol, Utf8.encodeChars_cons,
        Utf8.encodeChars_nil, List.append_nil]
    rw [hform]
    exact readString_octets (encodeChar_plain hquote hslash hcontrol) done rest offset

/-- The characters of a text are read from their forms inside a string. -/
theorem readString_flatMap (cs : List Char) (done rest : Bytes) (offset : Nat) :
    readString done offset (encodeChars (cs.flatMap escapeChar) ++ rest) =
      readString ((encodeChars cs).reverse ++ done)
        (offset + (encodeChars (cs.flatMap escapeChar)).length) rest := by
  induction cs generalizing done offset with
  | nil => rfl
  | cons c cs ih =>
    rw [List.flatMap_cons, Utf8.encodeChars_append, List.append_assoc, readString_escapeChar, ih,
      Utf8.encodeChars_cons, List.reverse_append, List.append_assoc, List.length_append,
      Nat.add_assoc]

/-- A text is read from its quoted form, after the opening quote. -/
theorem readText_reads (text : String) (rest : Bytes) :
    Reads readText (encodeChars (text.toList.flatMap escapeChar) ++ [34]) text rest := by
  intro offset
  have htext : Utf8.decode? (encodeChars text.toList) = some text := Utf8.decode?_encode text
  rw [readText, List.append_assoc, List.singleton_append, readString_flatMap, readString_end,
    List.append_nil, List.reverse_reverse, htext, List.length_append, List.length_singleton,
    ← Nat.add_assoc]

/-! ## Numbers -/

/-- What may come after a value: nothing, a comma or a closing mark. -/
def Ends (rest : Bytes) : Prop := ∀ b ∈ rest.head?, b = 44 ∨ b = 93 ∨ b = 125

theorem digit?_of_isDigit {b : UInt8} (h : IsDigit b) : digit? b = some (b.toNat - 48) :=
  if_pos h

/-- Digits are read onto the number before them up to their end. -/
theorem takeDigits_append {limit start : Nat} {digits rest : Bytes}
    (hdigits : ∀ b ∈ digits, IsDigit b) (hrest : ∀ b ∈ rest.head?, digit? b = none)
    (hlimit : digitsValue start digits ≤ limit) (count offset : Nat) :
    takeDigits limit start count offset (digits ++ rest) =
      ⟨digitsValue start digits, count + digits.length, false, offset + digits.length, rest⟩ := by
  induction digits generalizing start count offset with
  | nil =>
    rw [List.nil_append, digitsValue_nil]
    cases rest with
    | nil => rfl
    | cons b rest =>
      rw [takeDigits, hrest b rfl]
      rfl
  | cons b digits ih =>
    rw [digitsValue_cons] at hlimit
    have hfits := Nat.le_trans (le_digitsValue _ digits) hlimit
    rw [List.cons_append, takeDigits, digit?_of_isDigit (hdigits b List.mem_cons_self)]
    simp only [if_neg (Nat.not_lt.mpr hfits)]
    rw [ih (fun d hd => hdigits d (List.mem_cons_of_mem _ hd)) hlimit, digitsValue_cons,
      List.length_cons, Nat.add_assoc, Nat.add_assoc, Nat.add_comm 1]

theorem Ends.digit? {rest : Bytes} (h : Ends rest) : ∀ b ∈ rest.head?, digit? b = none := by
  intro b hb
  rcases h b hb with rfl | rfl | rfl <;> rfl

/-- At the end of a value whole digits are a number. -/
theorem afterWhole_of_ends {rest : Bytes} (h : Ends rest) (negative : Bool) (n offset : Nat) :
    afterWhole negative n ⟨offset, rest⟩ = .ok (wholeNumber negative n, ⟨offset, rest⟩) := by
  cases rest with
  | nil => rfl
  | cons b rest =>
    have hb : ¬ (b = 46 ∨ b = 101 ∨ b = 69) := by
      rcases h b rfl with rfl | rfl | rfl <;> decide
    rw [afterWhole]
    simp only [if_neg hb]

/-- A numeral is read as its number. -/
theorem readNumber_reads {bytes rest : Bytes} {n : Nat} (h : IsNumeral bytes n)
    (hn : n ≤ significandLimit) (hrest : Ends rest) (negative : Bool) :
    Reads (readNumber negative) bytes (wholeNumber negative n) rest := by
  intro offset
  obtain ⟨b, digits, rfl⟩ := List.exists_cons_of_ne_nil h.nonempty
  have hvalue := h.value
  rw [digitsValue_cons] at hvalue
  have hdigit := digit?_of_isDigit (h.digits b List.mem_cons_self)
  rw [readNumber]
  simp only [List.cons_append, hdigit]
  by_cases hzero : b = 48
  · subst hzero
    obtain rfl : digits = [] := (List.cons.inj (h.shortest rfl)).2
    obtain rfl : n = 0 := hvalue.symm.trans (digitsValue_nil _)
    have hnone : ((rest.head?).bind digit?).isSome = false := by
      rcases hhead : rest.head? with _ | c
      · rfl
      · rw [Option.bind_some, hrest.digit? c hhead]
        rfl
    simp only [List.nil_append, hnone]
    exact afterWhole_of_ends hrest negative 0 (offset + 1)
  · have hdigits := h.digits b List.mem_cons_self
    obtain ⟨first, hfirst⟩ : ∃ m, b.toNat - 48 = m + 1 := by
      refine Nat.exists_eq_add_one.mpr (Nat.sub_pos_of_lt (lt_of_le_of_ne hdigits.1 fun heq => ?_))
      exact hzero (UInt8.toNat_inj.mp heq.symm)
    rw [Nat.zero_mul, Nat.zero_add, hfirst] at hvalue
    have hlimit : digitsValue (first + 1) digits ≤ significandLimit := hvalue.le.trans hn
    have htake := takeDigits_append (fun d hd => h.digits d (List.mem_cons_of_mem _ hd))
      hrest.digit? hlimit 1 (offset + 1)
    simp only [hfirst, htake, hvalue, Bool.false_eq_true, if_false]
    rw [List.length_cons, Nat.add_comm digits.length, ← Nat.add_assoc]
    exact afterWhole_of_ends hrest negative n (offset + 1 + digits.length)

end Json

end RequestDispatch
