import RequestDispatch.Proofs.Fields
import RequestDispatch.Proofs.Scanning

/-!
# JSON text is read back

The text of a value without floating-point numbers is read as this value. `Json.parse_render` puts
the parts of the text together, by induction on how deep the value nests: a list and an object are
read item by item, and each item ends where a comma or a closing mark begins.
-/

namespace RequestDispatch

namespace Json

open Utf8 (encodeChars)

/-- A JSON value as programs hold it, without floating-point numbers, in which lists and objects
nest at most `depth` deep: integers have 64 bits, signed or unsigned, and the keys of an object
ascend. -/
inductive Whole : Nat → Json → Prop where
  | null (depth : Nat) : Whole depth .null
  | bool (depth : Nat) (value : Bool) : Whole depth (.bool value)
  | int (depth : Nat) {value : Int} (low : minInt ≤ value) (high : value ≤ maxUnsigned) :
      Whole depth (.int value)
  | str (depth : Nat) (text : String) : Whole depth (.str text)
  | arr {depth : Nat} {items : List Json} (items_whole : ∀ item ∈ items, Whole depth item) :
      Whole (depth + 1) (.arr items)
  | obj {depth : Nat} {fields : List (String × Json)}
      (keys : Entries.Ascending fields)
      (values_whole : ∀ field ∈ fields, Whole depth field.2) : Whole (depth + 1) (.obj fields)

/-! ## Values without others in them -/

/-- An octet that may begin the text of a value. -/
def IsStart (b : UInt8) : Prop := ¬ (b = 32 ∨ b = 10 ∨ b = 9 ∨ b = 13) ∧ b ≠ 93

instance (b : UInt8) : Decidable (IsStart b) := inferInstanceAs (Decidable (_ ∧ _))

instance (b : UInt8) : Decidable (IsDigit b) := inferInstanceAs (Decidable (_ ∧ _))

theorem isStart_of_isDigit {b : UInt8} (h : IsDigit b) : IsStart b := by
  obtain ⟨hlow, hhigh⟩ := h
  refine ⟨?_, ?_⟩
  · rintro (rfl | rfl | rfl | rfl) <;> exact absurd hlow (by decide)
  · rintro rfl
    exact absurd hhigh (by decide)

/-- A digit begins a number. -/
theorem readScalar_digit {b : UInt8} (h : IsDigit b) (c : Cursor) :
    readScalar b c = readNumber false c := by
  obtain ⟨hlow, hhigh⟩ := h
  have hother {a : UInt8} (ha : a.toNat < 48 ∨ 57 < a.toNat) : b ≠ a := by
    rintro rfl
    omega
  rw [readScalar, if_neg (hother (by decide)), if_neg (hother (by decide)),
    if_neg (hother (by decide)), if_neg (hother (by decide)),
    if_pos (by rw [digit?_of_isDigit ⟨hlow, hhigh⟩]; rfl)]

/-- A value that is no list and no object is read by its first octet. -/
theorem readValue_scalar {b : UInt8} (hstart : IsStart b) (hlist : b ≠ 91) (hobject : b ≠ 123)
    (depth offset : Nat) (bytes : Bytes) :
    readValue depth ⟨offset, b :: bytes⟩ = readScalar b ⟨offset, b :: bytes⟩ := by
  rw [readValue.eq_def]
  simp only [Cursor.skipBlank, skipBlank_cons hstart.1, hlist, hobject, or_self, if_false]

/-- A value that starts with a digit is a number. -/
theorem readValue_digit {b : UInt8} (h : IsDigit b) (depth offset : Nat) (bytes : Bytes) :
    readValue depth ⟨offset, b :: bytes⟩ = readNumber false ⟨offset, b :: bytes⟩ := by
  have hother {a : UInt8} (ha : ¬ IsDigit a) : b ≠ a := fun heq => ha (heq ▸ h)
  rw [readValue_scalar (isStart_of_isDigit h) (hother (by decide)) (hother (by decide)),
    readScalar_digit h]

/-- The text of a value, as octets. -/
def written (value : Json) : Bytes := encodeChars (chars value)

/-- The quoted form of a text, as octets. -/
theorem encodeChars_quoteChars (s : String) :
    encodeChars (quoteChars s) = 34 :: (encodeChars (s.toList.flatMap escapeChar) ++ [34]) := by
  rw [quoteChars, List.cons_append, Utf8.encodeChars_cons, Utf8.encodeChars_append]
  rfl

/-- A text is written in quotes. -/
theorem written_str (s : String) :
    written (.str s) = 34 :: (encodeChars (s.toList.flatMap escapeChar) ++ [34]) :=
  encodeChars_quoteChars s

/-- A negative number is written with its sign. -/
theorem written_negSucc (m : Nat) :
    written (.int (.negSucc m)) = 45 :: Utf8.encode (toString (m + 1)) := by
  have hsign : toString (Int.negSucc m) = "-" ++ toString (m + 1) := rfl
  rw [written, chars, hsign, String.toList_append, Utf8.encodeChars_append]
  rfl

/-- A list is written in brackets, with its items behind commas. -/
theorem written_arr_cons (item : Json) (items : List Json) :
    written (.arr (item :: items)) = 91 :: (item.written ++ encodeChars (itemsChars items)) := by
  rw [written, chars, List.cons_append, Utf8.encodeChars_cons, Utf8.encodeChars_append]
  rfl

/-- The text of a field: its key, a colon and its value. -/
def writtenField (field : String × Json) : Bytes :=
  encodeChars (quoteChars field.1) ++ 58 :: field.2.written

/-- An object is written in braces, with its fields behind commas. -/
theorem written_obj_cons (field : String × Json) (fields : List (String × Json)) :
    written (.obj (field :: fields)) =
      123 :: (writtenField field ++ encodeChars (fieldsChars fields)) := by
  obtain ⟨key, value⟩ := field
  rw [written, chars]
  simp only [List.cons_append, List.append_assoc, Utf8.encodeChars_cons, Utf8.encodeChars_append]
  rw [writtenField, List.append_assoc]
  rfl

/-- A word is read as the value that it stands for. -/
theorem readValue_word (b : UInt8) (word : Bytes) {value : Json} (hstart : IsStart b)
    (hlist : b ≠ 91) (hobject : b ≠ 123)
    (hscalar : ∀ c, readScalar b c =
      (readWord (c.offset + 1) word (c.rest.drop 1)).map fun c => (value, c))
    (depth : Nat) (rest : Bytes) : Reads (readValue depth) (b :: word) value rest := by
  intro offset
  rw [List.cons_append, readValue_scalar hstart hlist hobject, hscalar, List.drop_succ_cons,
    List.drop_zero, readWord_append, List.length_cons, Nat.add_comm word.length, ← Nat.add_assoc]
  rfl

/-- A quoted text is read as a string. -/
theorem readValue_str (depth : Nat) (s : String) (rest : Bytes) :
    Reads (readValue depth) (written (.str s)) (.str s) rest := by
  intro offset
  have hscalar (c : Cursor) : readScalar 34 c =
      (readText ⟨c.offset + 1, c.rest.drop 1⟩).map fun read => (.str read.1, read.2) := rfl
  rw [written_str, List.cons_append, readValue_scalar (by decide) (by decide) (by decide), hscalar,
    List.drop_succ_cons, List.drop_zero, readText_reads s rest, List.length_cons,
    Nat.add_comm (List.length _) 1, ← Nat.add_assoc]
  rfl

/-- An integer without a sign is read from its digits. -/
theorem readValue_ofNat (depth n offset : Nat) (rest : Bytes) :
    readValue depth ⟨offset, written (.int (.ofNat n)) ++ rest⟩ =
      readNumber false ⟨offset, Utf8.encode (toString n) ++ rest⟩ := by
  have htext : written (.int (.ofNat n)) = Utf8.encode (toString n) := rfl
  have hnumeral := isNumeral_encode n
  obtain ⟨b, digits, hoctets⟩ := List.exists_cons_of_ne_nil hnumeral.nonempty
  rw [htext, hoctets, List.cons_append,
    readValue_digit (hnumeral.digits b (hoctets ▸ List.mem_cons_self))]

/-- A negative integer is read from the digits after its sign. -/
theorem readValue_negSucc (depth m offset : Nat) (rest : Bytes) :
    readValue depth ⟨offset, written (.int (.negSucc m)) ++ rest⟩ =
      readNumber true ⟨offset + 1, Utf8.encode (toString (m + 1)) ++ rest⟩ := by
  have hscalar (c : Cursor) : readScalar 45 c = readNumber true ⟨c.offset + 1, c.rest.drop 1⟩ :=
    rfl
  rw [written_negSucc, List.cons_append, readValue_scalar (by decide) (by decide) (by decide),
    hscalar, List.drop_succ_cons, List.drop_zero]

/-- An integer is read from its digits. -/
theorem readValue_int {value : Int} (hlow : minInt ≤ value) (hhigh : value ≤ maxUnsigned)
    (depth : Nat) {rest : Bytes} (hrest : Ends rest) :
    Reads (readValue depth) (written (.int value)) (.int value) rest := by
  intro offset
  cases value with
  | ofNat n =>
    have hn : n ≤ significandLimit := Int.ofNat_le.mp hhigh
    rw [readValue_ofNat, readNumber_reads (isNumeral_encode n) hn hrest]
    rfl
  | negSucc m =>
    have hn : m + 1 ≤ 9223372036854775808 := by
      rw [minInt] at hlow
      omega
    have hlimit : m + 1 ≤ significandLimit := by
      rw [significandLimit]
      omega
    have hwhole : wholeNumber true (m + 1) = .int (.negSucc m) := by
      rw [wholeNumber, Bool.not_true, if_neg Bool.false_ne_true, if_neg (by omega)]
      rfl
    rw [readValue_negSucc, readNumber_reads (isNumeral_encode (m + 1)) hlimit hrest,
      written_negSucc, List.length_cons, hwhole, Nat.add_comm (List.length _) 1, ← Nat.add_assoc]

/-! ## Lists -/

/-- The text of a value begins with none of the octets that are passed over or end a list. -/
theorem written_start {depth : Nat} {value : Json} (h : Whole depth value) :
    ∃ b more, value.written = b :: more ∧ IsStart b := by
  cases h with
  | null => exact ⟨110, _, rfl, by decide⟩
  | bool _ value => cases value with
    | true => exact ⟨116, _, rfl, by decide⟩
    | false => exact ⟨102, _, rfl, by decide⟩
  | @int _ value => cases value with
    | ofNat n =>
      have hnumeral := isNumeral_encode n
      obtain ⟨b, digits, hoctets⟩ := List.exists_cons_of_ne_nil hnumeral.nonempty
      exact ⟨b, digits, hoctets,
        isStart_of_isDigit (hnumeral.digits b (hoctets ▸ List.mem_cons_self))⟩
    | negSucc m => exact ⟨45, _, written_negSucc m, by decide⟩
  | str => exact ⟨34, _, written_str _, by decide⟩
  | @arr _ items => cases items with
    | nil => exact ⟨91, _, rfl, by decide⟩
    | cons item items => exact ⟨91, _, written_arr_cons item items, by decide⟩
  | @obj _ fields => cases fields with
    | nil => exact ⟨123, _, rfl, by decide⟩
    | cons field fields => exact ⟨123, _, written_obj_cons field fields, by decide⟩

/-- A list is read from its opening bracket on. -/
theorem readValue_list (depth offset : Nat) (bytes : Bytes) :
    readValue (depth + 1) ⟨offset, 91 :: bytes⟩ =
      (readItems (readValue depth) (91 :: bytes) true [] ⟨offset + 1, bytes⟩).map
        fun (items, c) => (.arr items, c) := by
  rw [readValue.eq_def]
  simp only [Cursor.skipBlank, skipBlank_cons (b := 91) (by decide), true_or, if_true]

section Items

variable {readItem : Cursor → Reading Json} {item : Json} {bytes tail : Bytes} {c : Cursor}

/-- The closing bracket ends a list. -/
theorem readItems_end {rounds : Bytes} (hrounds : rounds ≠ []) (first : Bool) (done : List Json)
    (offset : Nat) (rest : Bytes) :
    readItems readItem rounds first done ⟨offset, 93 :: rest⟩ =
      .ok (done.reverse, ⟨offset + 1, rest⟩) := by
  obtain ⟨_, rounds, rfl⟩ := List.exists_cons_of_ne_nil hrounds
  rw [readItems]
  simp only [Cursor.skipBlank, skipBlank_cons (b := 93) (by decide), if_true]

/-- The first item follows the opening bracket. -/
theorem readItems_first {offset : Nat} (hstart : ∃ b more, bytes = b :: more ∧ IsStart b)
    (hread : readItem ⟨offset, bytes ++ tail⟩ = .ok (item, c)) (octet : UInt8) (rounds : Bytes) :
    readItems readItem (octet :: rounds) true [] ⟨offset, bytes ++ tail⟩ =
      readItems readItem rounds false [item] c := by
  obtain ⟨b, more, rfl, hblank, hclose⟩ := hstart
  rw [List.cons_append] at hread ⊢
  rw [readItems]
  simp only [Cursor.skipBlank, skipBlank_cons hblank, if_neg hclose, if_true, hread]

/-- Any other item follows a comma. -/
theorem readItems_next {offset : Nat} (hstart : ∃ b more, bytes = b :: more ∧ IsStart b)
    (hread : readItem ⟨offset + 1, bytes ++ tail⟩ = .ok (item, c)) (octet : UInt8) (rounds : Bytes)
    (done : List Json) :
    readItems readItem (octet :: rounds) false done ⟨offset, 44 :: (bytes ++ tail)⟩ =
      readItems readItem rounds false (item :: done) c := by
  obtain ⟨b, more, rfl, hblank, hclose⟩ := hstart
  have hcomma : ¬ (44 : UInt8) = 93 := by decide
  rw [List.cons_append] at hread ⊢
  rw [readItems]
  simp only [Cursor.skipBlank, skipBlank_cons (b := 44) (by decide), if_neg hcomma,
    Bool.false_eq_true, if_false, if_true, skipBlank_cons hblank, if_neg hclose, hread]

end Items

theorem encodeChars_itemsChars_cons (item : Json) (items : List Json) :
    encodeChars (itemsChars (item :: items)) =
      44 :: (item.written ++ encodeChars (itemsChars items)) := by
  rw [itemsChars, List.cons_append, Utf8.encodeChars_cons, Utf8.encodeChars_append]
  rfl

/-- Every item after the first has a comma, and the list its closing bracket. -/
theorem length_lt_encodeChars_itemsChars (items : List Json) :
    items.length < (encodeChars (itemsChars items)).length := by
  induction items with
  | nil => exact Nat.zero_lt_one
  | cons item items ih =>
    rw [encodeChars_itemsChars_cons, List.length_cons, List.length_cons, List.length_append]
    omega

/-- A comma or the closing bracket follows every item. -/
theorem ends_itemsChars (items : List Json) (rest : Bytes) :
    Ends (encodeChars (itemsChars items) ++ rest) := by
  intro b hb
  cases items with
  | nil => exact .inr (.inl (Option.some.inj hb).symm)
  | cons item items =>
    rw [encodeChars_itemsChars_cons] at hb
    exact .inl (Option.some.inj hb).symm

/-- The items after the first are read up to the closing bracket. -/
theorem readItems_reads {readItem : Cursor → Reading Json} {items : List Json}
    (hread : ∀ item ∈ items, ∀ rest, Ends rest → Reads readItem item.written item rest)
    (hstart : ∀ item ∈ items, ∃ b more, item.written = b :: more ∧ IsStart b) {rounds : Bytes}
    (hrounds : items.length < rounds.length) (done : List Json) (rest : Bytes) :
    Reads (readItems readItem rounds false done) (encodeChars (itemsChars items))
      (done.reverse ++ items) rest := by
  induction items generalizing rounds done with
  | nil =>
    intro offset
    rw [List.append_nil]
    exact readItems_end (List.ne_nil_of_length_pos hrounds) false done offset rest
  | cons item items ih =>
    intro offset
    obtain ⟨octet, rounds, rfl⟩ := List.exists_cons_of_length_pos (Nat.zero_lt_of_lt hrounds)
    have hitem := hread item List.mem_cons_self _ (ends_itemsChars items rest) (offset + 1)
    have hitems := ih (fun other hother => hread other (List.mem_cons_of_mem _ hother))
      (fun other hother => hstart other (List.mem_cons_of_mem _ hother))
      (Nat.lt_of_succ_lt_succ hrounds) (item :: done) (offset + 1 + item.written.length)
    rw [encodeChars_itemsChars_cons, List.cons_append, List.append_assoc,
      readItems_next (hstart item List.mem_cons_self) hitem, hitems, List.reverse_cons,
      List.append_assoc, List.singleton_append, List.length_cons, List.length_append]
    simp only [Nat.add_assoc, Nat.add_comm]

/-- A list whose items are read is read. -/
theorem readValue_arr {depth : Nat} {items : List Json}
    (hread : ∀ item ∈ items, ∀ rest, Ends rest → Reads (readValue depth) item.written item rest)
    (hstart : ∀ item ∈ items, ∃ b more, item.written = b :: more ∧ IsStart b) (rest : Bytes) :
    Reads (readValue (depth + 1)) (written (.arr items)) (.arr items) rest := by
  intro offset
  cases items with
  | nil =>
    have hempty : written (.arr []) = [91, 93] := rfl
    rw [hempty, List.cons_append, readValue_list, List.singleton_append,
      readItems_end (List.cons_ne_nil _ _)]
    rfl
  | cons item items =>
    have hitem := hread item List.mem_cons_self _ (ends_itemsChars items rest) (offset + 1)
    have hrounds :
        items.length < (item.written ++ (encodeChars (itemsChars items) ++ rest)).length := by
      have hlength := length_lt_encodeChars_itemsChars items
      rw [List.length_append, List.length_append]
      omega
    have hitems := readItems_reads (fun other hother => hread other (List.mem_cons_of_mem _ hother))
      (fun other hother => hstart other (List.mem_cons_of_mem _ hother)) hrounds [item] rest
      (offset + 1 + item.written.length)
    rw [written_arr_cons, List.cons_append, List.append_assoc, readValue_list,
      readItems_first (hstart item List.mem_cons_self) hitem, hitems, List.length_cons,
      List.length_append]
    simp only [Nat.add_assoc, Nat.add_comm, List.reverse_singleton, List.singleton_append]
    rfl

/-! ## Objects -/

section Fields

variable {readItem : Cursor → Reading Json}

theorem writtenField_start (field : String × Json) : ∃ more, writtenField field = 34 :: more := by
  rw [writtenField, encodeChars_quoteChars]
  exact ⟨_, rfl⟩

theorem encodeChars_fieldsChars_cons (field : String × Json) (fields : List (String × Json)) :
    encodeChars (fieldsChars (field :: fields)) =
      44 :: (writtenField field ++ encodeChars (fieldsChars fields)) := by
  obtain ⟨key, value⟩ := field
  rw [fieldsChars]
  simp only [List.cons_append, List.append_assoc, Utf8.encodeChars_cons, Utf8.encodeChars_append]
  rw [writtenField, List.append_assoc]
  rfl

/-- A field is read if its value is. -/
theorem readField_reads {field : String × Json} {value : Json} {rest : Bytes}
    (hread : Reads readItem field.2.written value rest) :
    Reads (readField readItem) (writtenField field) (field.1, value) rest := by
  intro offset
  have hkey := readText_reads field.1 (58 :: (field.2.written ++ rest)) (offset + 1)
  rw [writtenField, encodeChars_quoteChars, List.append_assoc, List.cons_append, readField,
    List.drop_succ_cons, List.drop_zero, List.cons_append, hkey]
  simp only [Cursor.skipBlank, skipBlank_cons (b := 58) (by decide), if_true]
  rw [hread]
  refine congrArg (fun offset => Except.ok ((field.1, value), (⟨offset, rest⟩ : Cursor))) ?_
  simp only [List.length_cons, List.length_append]
  omega

/-- A field is at fault if its value is. -/
theorem readField_fails {field : String × Json} {rest : Bytes}
    (hread : ∀ offset, ∃ e, readItem ⟨offset, field.2.written ++ rest⟩ = .error e) (offset : Nat) :
    ∃ e, readField readItem ⟨offset, writtenField field ++ rest⟩ = .error e := by
  have hkey := readText_reads field.1 (58 :: (field.2.written ++ rest)) (offset + 1)
  rw [writtenField, encodeChars_quoteChars, List.append_assoc, List.cons_append, readField,
    List.drop_succ_cons, List.drop_zero, List.cons_append, hkey]
  simp only [Cursor.skipBlank, skipBlank_cons (b := 58) (by decide), if_true]
  obtain ⟨e, he⟩ := hread (offset + 1 + (encodeChars (field.1.toList.flatMap escapeChar) ++
    [34]).length + 1)
  exact ⟨e, by rw [he]⟩

/-- The closing brace ends an object. -/
theorem readFields_end {rounds : Bytes} (hrounds : rounds ≠ []) (first : Bool)
    (done : List (String × Json)) (offset : Nat) (rest : Bytes) :
    readFields readItem rounds first done ⟨offset, 125 :: rest⟩ =
      .ok (done.reverse, ⟨offset + 1, rest⟩) := by
  obtain ⟨_, rounds, rfl⟩ := List.exists_cons_of_ne_nil hrounds
  rw [readFields]
  simp only [Cursor.skipBlank, skipBlank_cons (b := 125) (by decide), if_true]

/-- The first field follows the opening brace. -/
theorem readFields_first {field : String × Json} {value : Json} {rest : Bytes}
    (hread : Reads readItem field.2.written value rest) (octet : UInt8) (rounds : Bytes)
    (offset : Nat) :
    readFields readItem (octet :: rounds) true [] ⟨offset, writtenField field ++ rest⟩ =
      readFields readItem rounds false [(field.1, value)]
        ⟨offset + (writtenField field).length, rest⟩ := by
  have hfield := readField_reads hread offset
  have hquote : ¬ (34 : UInt8) = 125 := by decide
  obtain ⟨more, hmore⟩ := writtenField_start field
  rw [hmore, List.cons_append] at hfield ⊢
  rw [readFields]
  simp only [Cursor.skipBlank, skipBlank_cons (b := 34) (by decide), if_neg hquote, if_true, hfield]

/-- An object whose first field is not read is not read. -/
theorem readFields_fails (field : String × Json) {rest : Bytes}
    (hread : ∀ offset, ∃ e, readItem ⟨offset, field.2.written ++ rest⟩ = .error e)
    (octet : UInt8) (rounds : Bytes) (offset : Nat) :
    ∃ e, readFields readItem (octet :: rounds) true [] ⟨offset, writtenField field ++ rest⟩ =
      .error e := by
  obtain ⟨e, hfield⟩ := readField_fails hread offset
  have hquote : ¬ (34 : UInt8) = 125 := by decide
  obtain ⟨more, hmore⟩ := writtenField_start field
  rw [hmore, List.cons_append] at hfield ⊢
  rw [readFields]
  simp only [Cursor.skipBlank, skipBlank_cons (b := 34) (by decide), if_neg hquote, if_true, hfield]
  exact ⟨e, rfl⟩

/-- Any other field follows a comma. -/
theorem readFields_next {field : String × Json} {rest : Bytes}
    (hread : Reads readItem field.2.written field.2 rest) (octet : UInt8) (rounds : Bytes)
    (done : List (String × Json)) (offset : Nat) :
    readFields readItem (octet :: rounds) false done ⟨offset, 44 :: (writtenField field ++ rest)⟩ =
      readFields readItem rounds false (field :: done)
        ⟨offset + 1 + (writtenField field).length, rest⟩ := by
  have hfield := readField_reads hread (offset + 1)
  have hcomma : ¬ (44 : UInt8) = 125 := by decide
  obtain ⟨more, hmore⟩ := writtenField_start field
  rw [hmore, List.cons_append] at hfield ⊢
  rw [readFields]
  simp only [Cursor.skipBlank, skipBlank_cons (b := 44) (by decide), if_neg hcomma,
    Bool.false_eq_true, if_false, if_true, skipBlank_cons (b := 34) (by decide), hfield]

/-- Every field after the first has a comma, and the object its closing brace. -/
theorem length_lt_encodeChars_fieldsChars (fields : List (String × Json)) :
    fields.length < (encodeChars (fieldsChars fields)).length := by
  induction fields with
  | nil => exact Nat.zero_lt_one
  | cons field fields ih =>
    rw [encodeChars_fieldsChars_cons, List.length_cons, List.length_cons, List.length_append]
    omega

/-- A comma or the closing brace follows every field. -/
theorem ends_fieldsChars (fields : List (String × Json)) (rest : Bytes) :
    Ends (encodeChars (fieldsChars fields) ++ rest) := by
  intro b hb
  cases fields with
  | nil => exact .inr (.inr (Option.some.inj hb).symm)
  | cons field fields =>
    rw [encodeChars_fieldsChars_cons] at hb
    exact .inl (Option.some.inj hb).symm

/-- The fields after the first are read up to the closing brace. -/
theorem readFields_reads {fields : List (String × Json)}
    (hread : ∀ field ∈ fields, ∀ rest, Ends rest → Reads readItem field.2.written field.2 rest)
    {rounds : Bytes} (hrounds : fields.length < rounds.length) (done : List (String × Json))
    (rest : Bytes) :
    Reads (readFields readItem rounds false done) (encodeChars (fieldsChars fields))
      (done.reverse ++ fields) rest := by
  induction fields generalizing rounds done with
  | nil =>
    intro offset
    rw [List.append_nil]
    exact readFields_end (List.ne_nil_of_length_pos hrounds) false done offset rest
  | cons field fields ih =>
    intro offset
    obtain ⟨octet, rounds, rfl⟩ := List.exists_cons_of_length_pos (Nat.zero_lt_of_lt hrounds)
    have hfield := hread field List.mem_cons_self _ (ends_fieldsChars fields rest)
    have hfields := ih (fun other hother => hread other (List.mem_cons_of_mem _ hother))
      (Nat.lt_of_succ_lt_succ hrounds) (field :: done) (offset + 1 + (writtenField field).length)
    rw [encodeChars_fieldsChars_cons, List.cons_append, List.append_assoc, readFields_next hfield,
      hfields, List.reverse_cons, List.append_assoc, List.singleton_append, List.length_cons,
      List.length_append]
    simp only [Nat.add_assoc, Nat.add_comm]

end Fields

/-- An object is read from its opening brace on. -/
theorem readValue_object (depth offset : Nat) (bytes : Bytes) :
    readValue (depth + 1) ⟨offset, 123 :: bytes⟩ =
      (readFields (readValue depth) (123 :: bytes) true [] ⟨offset + 1, bytes⟩).map
        fun (fields, c) => (object fields, c) := by
  have hbrace : ¬ (123 : UInt8) = 91 := by decide
  rw [readValue.eq_def]
  simp only [Cursor.skipBlank, skipBlank_cons (b := 123) (by decide), or_true, if_true,
    if_neg hbrace]

/-- An object with ascending keys whose values are read is read. -/
theorem readValue_obj {depth : Nat} {fields : List (String × Json)}
    (keys : Entries.Ascending fields)
    (hread : ∀ field ∈ fields, ∀ rest, Ends rest →
      Reads (readValue depth) field.2.written field.2 rest) (rest : Bytes) :
    Reads (readValue (depth + 1)) (written (.obj fields)) (.obj fields) rest := by
  intro offset
  have hobject : object fields = .obj fields := congrArg Json.obj (Entries.ofList_of_ascending keys)
  cases fields with
  | nil =>
    have hempty : written (.obj []) = [123, 125] := rfl
    rw [hempty, List.cons_append, readValue_object, List.singleton_append,
      readFields_end (List.cons_ne_nil _ _)]
    rfl
  | cons field fields =>
    have hfield := hread field List.mem_cons_self _ (ends_fieldsChars fields rest)
    have hrounds : fields.length <
        (writtenField field ++ (encodeChars (fieldsChars fields) ++ rest)).length := by
      have hlength := length_lt_encodeChars_fieldsChars fields
      rw [List.length_append, List.length_append]
      omega
    have hfields := readFields_reads
      (fun other hother => hread other (List.mem_cons_of_mem _ hother)) hrounds [field] rest
      (offset + 1 + (writtenField field).length)
    rw [written_obj_cons, List.cons_append, List.append_assoc, readValue_object,
      readFields_first hfield, hfields, ← hobject, List.length_cons, List.length_append]
    simp only [Nat.add_assoc, Nat.add_comm, List.reverse_singleton, List.singleton_append]
    rfl

/-! ## Whole texts -/

theorem ends_nil : Ends [] := fun _ hb => by cases hb

/-- A value is read from its text. -/
theorem readValue_reads {depth : Nat} {value : Json} (h : Whole depth value) {rest : Bytes}
    (hrest : Ends rest) : Reads (readValue depth) value.written value rest := by
  induction h generalizing rest with
  | null depth =>
    exact readValue_word 110 [117, 108, 108] (by decide) (by decide) (by decide)
      (fun _ => rfl) depth rest
  | bool depth value =>
    cases value with
    | true =>
      exact readValue_word 116 [114, 117, 101] (by decide) (by decide) (by decide)
        (fun _ => rfl) depth rest
    | false =>
      exact readValue_word 102 [97, 108, 115, 101] (by decide) (by decide)
        (by decide) (fun _ => rfl) depth rest
  | int depth low high => exact readValue_int low high depth hrest
  | str depth text => exact readValue_str depth text rest
  | arr items_whole ih =>
    exact readValue_arr (fun item hitem _ hrest => ih item hitem hrest)
      (fun item hitem => written_start (items_whole item hitem)) rest
  | obj keys _ ih =>
    exact readValue_obj keys (fun field hfield _ hrest => ih field hfield hrest) rest

/-- The text of a value that is not too deep is read as this value. -/
theorem parse_render {value : Json} (h : Whole maxDepth value) :
    parse (Utf8.encode value.render) = .ok value := by
  have hread := readValue_reads h ends_nil 0
  rw [List.append_nil] at hread
  rw [render, Utf8.encode_ofList, parse, ← written, hread]
  rfl

end Json

end RequestDispatch
