import KeyDigest.Json.Reader
import KeyDigest.Json.Value
import KeyDigest.Proofs.Json.Integer
import KeyDigest.Proofs.Json.Literal

/-! # Reading what was written

The reader undoes the writer on every value whose numbers are integers that fit in 64 bits.  Each
written value is read up to where it ends: a string ends at its quote, a list or an object at its
bracket, and a number at the comma or the bracket that follows it.

The bound of the readers goes down with every call, once for a value and once for the item or the
entry that it is.  A value is written with at least one character and every further item with a
comma in front, so twice the length of the written text is enough throughout.
-/

namespace KeyDigest.Json

open Scan Grammar

/-! ## Strings -/

theorem digit_digitChar {n : Nat} (h : n < 16) : Digit (Nat.digitChar n) n := by
  have hall : ∀ n : Fin 16, Digit (Nat.digitChar n) n := by decide
  exact hall ⟨n, h⟩

theorem escape_of_control {c : Char} (h : c.toNat < 0x20) :
    Escape ['u', '0', '0', Nat.digitChar (c.toNat / 16), Nat.digitChar (c.toNat % 16)] c := by
  have hunit : HexUnit ['0', '0', Nat.digitChar (c.toNat / 16), Nat.digitChar (c.toNat % 16)]
      (4096 * 0 + 256 * 0 + 16 * (c.toNat / 16) + c.toNat % 16) :=
    .digits (digit_digitChar (n := 0) (by decide)) (digit_digitChar (n := 0) (by decide))
      (digit_digitChar (by omega)) (digit_digitChar (by omega))
  have hvalue : 4096 * 0 + 256 * 0 + 16 * (c.toNat / 16) + c.toNat % 16 = c.toNat := by omega
  rw [hvalue] at hunit
  have hescape := Escape.unit hunit (.inl (by omega))
  rwa [Char.ofNat_toNat] at hescape

theorem toNat_lt_of_not_isPlain {c : Char} (h : ¬ isPlain c) : c.toNat < 128 := by
  by_cases hquote : c = '"'
  · subst c
    decide
  · by_cases hbackslash : c = '\\'
    · subst c
      decide
    · have hcontrol : ¬ 0x20 ≤ c.toNat := fun hseen =>
        h (isPlain_iff.mpr ⟨hquote, hbackslash, hseen⟩)
      omega

/-- For every character that does not stand for itself an escape is written. -/
theorem exists_escape_of_not_isPlain {c : Char} (h : ¬ isPlain c) :
    ∃ escape, Escape escape c ∧ writeChar c = '\\' :: escape := by
  have hall : ∀ n : Fin 128, ¬ isPlain (Char.ofNat n) →
      (∃ letter ∈ letters, letter.2 = Char.ofNat n ∧
        writeChar (Char.ofNat n) = ['\\', letter.1]) ∨
      n.val < 0x20 ∧ writeChar (Char.ofNat n) =
        ['\\', 'u', '0', '0', Nat.digitChar (n.val / 16), Nat.digitChar (n.val % 16)] := by
    decide
  have hc := hall ⟨c.toNat, toNat_lt_of_not_isPlain h⟩
  rw [Char.ofNat_toNat] at hc
  obtain ⟨⟨letter, stands⟩, hletter, rfl, hwrite⟩ | ⟨hcontrol, hwrite⟩ := hc h
  · exact ⟨[letter], .letter hletter, hwrite⟩
  · exact ⟨_, escape_of_control hcontrol, hwrite⟩

theorem body_flatMap_writeChar (text : List Char) : Body (text.flatMap writeChar) text := by
  induction text with
  | nil => exact .nil
  | cons c text ih =>
    rw [List.flatMap_cons]
    by_cases hplain : isPlain c
    · obtain ⟨hquote, hbackslash, hseen⟩ := isPlain_iff.mp hplain
      rw [writeChar_of_isPlain hplain]
      exact .plain hquote hbackslash hseen ih
    · obtain ⟨escape, hescape, hwrite⟩ := exists_escape_of_not_isPlain hplain
      rw [hwrite]
      exact .escape hescape ih

theorem writeString_append (text : String) (rest : List Char) :
    (writeString text).toList ++ rest = '"' :: (text.toList.flatMap writeChar ++ '"' :: rest) := by
  simp [writeString]

theorem literal_flatMap_writeChar (text : String) (rest : List Char) :
    literal (text.toList.flatMap writeChar ++ '"' :: rest) = .ok (text, rest) :=
  literal_eq_ok_iff.mpr ⟨_, body_flatMap_writeChar _, rfl⟩

/-! ## One call of a reader -/

section Calls

variable {bound : Nat} {text rest : List Char} {item value : Json} {items : List Json}
  {entries : List (String × Json)}

theorem readValue_digit {c : Char} (h : c.isDigit) (bound : Nat) (text : List Char) :
    readValue (bound + 1) (c :: text) =
      (Scan.number false (c :: text)).map fun (value, rest) => (.number value, rest) := by
  have hne {d : Char} (hd : d.isDigit = false) : c ≠ d := by
    rintro rfl
    rw [h] at hd
    cases hd
  have hblank : isBlank c = false := by
    simp [isBlank, hne (d := ' ') rfl, hne (d := '\t') rfl, hne (d := '\n') rfl,
      hne (d := '\r') rfl]
  rw [readValue, skipBlanks_cons hblank]
  split
  case h_1 heq => cases heq
  case h_9 =>
    rename_i heq
    obtain ⟨rfl, rfl⟩ := List.cons.inj heq
    rw [if_pos h]
  -- Every letter, sign or bracket that is tried before is no digit.
  all_goals
    rename_i heq
    obtain ⟨rfl, rfl⟩ := List.cons.inj heq
    exact absurd rfl (hne rfl)

/-- No item begins with the bracket that closes a list. -/
theorem readItems_bracket (bound : Nat) (done : List Json) (rest : List Char) :
    readItems bound done (']' :: rest) = .error .malformed := by
  have hvalue (bound : Nat) : readValue bound (']' :: rest) = .error .malformed := by
    cases bound <;> rfl
  cases bound with
  | zero => rfl
  | succ bound => rw [readItems, hvalue]

theorem readEntries_brace (bound : Nat) (done : List (String × Json)) (rest : List Char) :
    readEntries bound done ('\x7d' :: rest) = .error .malformed := by
  cases bound <;> rfl

theorem readValue_list (h : readItems bound [] text = .ok (items, rest)) :
    readValue (bound + 1) ('[' :: text) = .ok (.list items, rest) := by
  rw [readValue, skipBlanks_cons rfl]
  simp only
  split
  · -- A bracket here would end the list, but then no item could have been read from it.
    rename_i hclosed
    rw [← readItems_skipBlanks, hclosed, readItems_bracket] at h
    cases h
  · rw [readItems_skipBlanks, h]
    rfl

theorem readValue_object (h : readEntries bound [] text = .ok (entries, rest)) :
    readValue (bound + 1) ('\x7b' :: text) = .ok (.object entries, rest) := by
  rw [readValue, skipBlanks_cons rfl]
  simp only
  split
  · rename_i hclosed
    rw [← readEntries_skipBlanks, hclosed, readEntries_brace] at h
    cases h
  · rw [readEntries_skipBlanks, h]
    rfl

theorem readItems_last (h : readValue bound text = .ok (item, ']' :: rest)) (done : List Json) :
    readItems (bound + 1) done text = .ok (done.reverse ++ [item], rest) := by
  rw [readItems, h, ← List.reverse_cons]
  rfl

theorem readItems_more (h : readValue bound text = .ok (item, ',' :: rest)) (done : List Json) :
    readItems (bound + 1) done text = readItems bound (item :: done) rest := by
  rw [readItems, h]
  rfl

theorem readEntries_last (h : readValue bound text = .ok (value, '\x7d' :: rest))
    (done : List (String × Json)) (key : String) :
    readEntries (bound + 1) done ((writeString key).toList ++ ':' :: text) =
      .ok (done.reverse ++ [(key, value)], rest) := by
  rw [readEntries, writeString_append, skipBlanks_cons rfl, ← List.reverse_cons]
  simp only [literal_flatMap_writeChar, skipBlanks_cons (c := ':') rfl, h]
  rfl

theorem readEntries_more (h : readValue bound text = .ok (value, ',' :: rest))
    (done : List (String × Json)) (key : String) :
    readEntries (bound + 1) done ((writeString key).toList ++ ':' :: text) =
      readEntries bound ((key, value) :: done) rest := by
  rw [readEntries, writeString_append, skipBlanks_cons rfl]
  simp only [literal_flatMap_writeChar, skipBlanks_cons (c := ':') rfl, h]
  rfl

end Calls

/-! ## Values -/

/-- The numbers of the value are integers that fit in 64 bits, with or without a sign. -/
inductive Exact : Json → Prop where
  | null : Exact .null
  | bool (value : Bool) : Exact (.bool value)
  | natural {n : Nat} : n < UInt64.size → Exact (.number (.integer n))
  | negative {n : Nat} : 0 < n → n ≤ UInt64.size / 2 → Exact (.number (.integer (-n)))
  | string (text : String) : Exact (.string text)
  | list {items : List Json} : (∀ item ∈ items, Exact item) → Exact (.list items)
  | object {entries : List (String × Json)} :
      (∀ entry ∈ entries, Exact entry.2) → Exact (.object entries)

/-- The value is read back from what is written for it, whatever follows. -/
def Reads (value : Json) : Prop :=
  ∀ bound rest, 2 * value.write.toList.length ≤ bound → EndsNumber rest →
    readValue bound (value.write.toList ++ rest) = .ok (value, rest)

/-- The first character pays for the call that looks at it. -/
theorem reads_of_cons {value : Json} {first : Char} {written : List Char}
    (hwrite : value.write.toList = first :: written)
    (h : ∀ bound rest, 2 * written.length + 1 ≤ bound → EndsNumber rest →
      readValue (bound + 1) (first :: (written ++ rest)) = .ok (value, rest)) :
    Reads value := by
  intro bound rest hbound hrest
  rw [hwrite, List.length_cons] at hbound
  rw [hwrite, List.cons_append]
  cases bound with
  | zero => omega
  | succ bound => exact h bound rest (by omega) hrest

theorem endsNumber_cons {c : Char} (h : c ∈ [',', ']', '\x7d']) (rest : List Char) :
    EndsNumber (c :: rest) := by
  have hall : ∀ c ∈ [',', ']', '\x7d'], c.isDigit = false ∧ c ≠ '.' ∧ c ≠ 'e' ∧ c ≠ 'E' := by
    simp [Char.isDigit]
  rintro _ ⟨⟩
  exact hall c h

theorem reads_natural {n : Nat} (h : n < UInt64.size) : Reads (.number (.integer n)) := by
  have hwrite : (Json.number (.integer n)).write.toList = Nat.toDigits 10 n :=
    String.toList_ofList
  cases hdigits : Nat.toDigits 10 n with
  | nil => exact absurd hdigits Nat.toDigits_ne_nil
  | cons c digits =>
    refine reads_of_cons (hwrite.trans hdigits) fun bound rest _ hrest => ?_
    have hc : c.isDigit := isDigit_of_mem_toDigits (n := n) (by simp [hdigits])
    rw [readValue_digit hc, ← List.cons_append, ← hdigits, number_toDigits h hrest]
    rfl

theorem reads_negative {n : Nat} (hpos : 0 < n) (h : n ≤ UInt64.size / 2) :
    Reads (.number (.integer (-n))) := by
  have hwrite : (Json.number (.integer (-n))).write.toList = '-' :: Nat.toDigits 10 n := by
    cases n with
    | zero => cases hpos
    | succ n =>
      rw [write, Number.text]
      show ("-" ++ (n + 1).repr).toList = _
      rw [String.toList_append, Nat.repr, String.toList_ofList]
      simp
  refine reads_of_cons hwrite fun bound rest _ hrest => ?_
  rw [readValue, skipBlanks_cons rfl]
  simp only [number_negative_toDigits hpos h hrest]
  rfl

theorem reads_string (text : String) : Reads (.string text) := by
  have hwrite : (Json.string text).write.toList =
      '"' :: (text.toList.flatMap writeChar ++ ['"']) := by
    rw [write, writeString, String.toList_ofList]
  refine reads_of_cons hwrite fun bound rest _ _ => ?_
  rw [readValue, skipBlanks_cons rfl, List.append_assoc]
  simp only [List.singleton_append, literal_flatMap_writeChar]
  rfl

/-! ## Lists and objects -/

section Sequences

variable {α : Type} {readAll : Nat → List α → List Char → Except Fault (List α × List Char)}
  {text : α → String} {closing : Char}

/-- One item or entry is read from its text, whether it is the last or a comma follows. -/
structure ReadsOne (readAll : Nat → List α → List Char → Except Fault (List α × List Char))
    (text : α → String) (closing : Char) (a : α) : Prop where
  last : ∀ bound done rest, 2 * (text a).toList.length ≤ bound →
    readAll (bound + 1) done ((text a).toList ++ closing :: rest) =
      .ok (done.reverse ++ [a], rest)
  more : ∀ bound done rest, 2 * (text a).toList.length ≤ bound →
    readAll (bound + 1) done ((text a).toList ++ ',' :: rest) = readAll bound (a :: done) rest

theorem toList_join_cons (first second : String) (rest : List String) :
    (",".intercalate (first :: second :: rest)).toList =
      first.toList ++ ',' :: (",".intercalate (second :: rest)).toList := by
  rw [String.intercalate_cons_cons, String.toList_append, String.toList_append, List.append_assoc]
  simp

/-- The texts of several items or entries are read up to the bracket that closes them.  Each of
them takes one call on top of what it takes to read its value, and pays for it with its comma. -/
theorem readAll_join {l : List α} (hne : l ≠ []) (h : ∀ a ∈ l, ReadsOne readAll text closing a)
    {bound : Nat} (hbound : 2 * (",".intercalate (l.map text)).toList.length + 1 ≤ bound)
    (done : List α) (rest : List Char) :
    readAll bound done ((",".intercalate (l.map text)).toList ++ closing :: rest) =
      .ok (done.reverse ++ l, rest) := by
  induction l generalizing bound done with
  | nil => exact absurd rfl hne
  | cons a l ih =>
    obtain ⟨ha, hl⟩ := List.forall_mem_cons.mp h
    obtain ⟨bound, rfl⟩ : ∃ b, bound = b + 1 := ⟨bound - 1, by omega⟩
    cases l with
    | nil =>
      rw [List.map_singleton, String.intercalate_singleton] at hbound ⊢
      exact ha.last bound done rest (by omega)
    | cons b l =>
      -- The comma behind the first text leaves one call for each of the texts after it.
      rw [List.map_cons, List.map_cons, toList_join_cons, ← List.map_cons] at hbound ⊢
      rw [List.length_append, List.length_cons] at hbound
      rw [List.append_assoc, List.cons_append, ha.more bound done _ (by omega),
        ih (by simp) hl (by omega)]
      simp

end Sequences

theorem writeItems_eq_map (items : List Json) : writeItems items = items.map write := by
  induction items with
  | nil => rfl
  | cons item items ih => rw [writeItems, ih, List.map_cons]

/-- What is written for one entry of an object. -/
def entryText (entry : String × Json) : String :=
  writeString entry.1 ++ ":" ++ write entry.2

theorem writeEntries_eq_map (entries : List (String × Json)) :
    writeEntries entries = entries.map entryText := by
  induction entries with
  | nil => rfl
  | cons entry entries ih => rw [writeEntries, ih, List.map_cons, entryText]

theorem readsOne_item {item : Json} (h : Reads item) : ReadsOne readItems write ']' item where
  last bound done rest hbound :=
    readItems_last (h bound _ hbound (endsNumber_cons (by decide) rest)) done
  more bound done rest hbound :=
    readItems_more (h bound _ hbound (endsNumber_cons (by decide) rest)) done

theorem entryText_append (entry : String × Json) (rest : List Char) :
    (entryText entry).toList ++ rest =
      (writeString entry.1).toList ++ ':' :: (entry.2.write.toList ++ rest) := by
  simp [entryText]

theorem length_write_le_entryText (entry : String × Json) :
    entry.2.write.toList.length ≤ (entryText entry).toList.length := by
  simp only [entryText, String.toList_append, List.length_append]
  omega

theorem readsOne_entry {entry : String × Json} (h : Reads entry.2) :
    ReadsOne readEntries entryText '\x7d' entry where
  last bound done rest hbound := by
    have hlength := length_write_le_entryText entry
    rw [entryText_append]
    exact readEntries_last
      (h bound _ (by omega) (endsNumber_cons (by decide) rest)) done entry.1
  more bound done rest hbound := by
    have hlength := length_write_le_entryText entry
    rw [entryText_append]
    exact readEntries_more
      (h bound _ (by omega) (endsNumber_cons (by decide) rest)) done entry.1

theorem reads_list {items : List Json} (h : ∀ item ∈ items, Reads item) : Reads (.list items) := by
  have hwrite : (Json.list items).write.toList =
      '[' :: ((",".intercalate (items.map write)).toList ++ [']']) := by
    rw [write, writeItems_eq_map]
    simp
  refine reads_of_cons hwrite fun bound rest hbound _ => ?_
  rw [List.length_append, List.length_singleton] at hbound
  rw [List.append_assoc, List.singleton_append]
  cases items with
  | nil => rfl
  | cons item items =>
    have hone : ∀ a ∈ item :: items, ReadsOne readItems write ']' a :=
      fun a ha => readsOne_item (h a ha)
    exact readValue_list (readAll_join (by simp) hone (by omega) [] rest)

theorem reads_object {entries : List (String × Json)} (h : ∀ entry ∈ entries, Reads entry.2) :
    Reads (.object entries) := by
  have hwrite : (Json.object entries).write.toList =
      '\x7b' :: ((",".intercalate (entries.map entryText)).toList ++ ['\x7d']) := by
    rw [write, writeEntries_eq_map]
    simp
  refine reads_of_cons hwrite fun bound rest hbound _ => ?_
  rw [List.length_append, List.length_singleton] at hbound
  rw [List.append_assoc, List.singleton_append]
  cases entries with
  | nil => rfl
  | cons entry entries =>
    have hone : ∀ a ∈ entry :: entries, ReadsOne readEntries entryText '\x7d' a :=
      fun a ha => readsOne_entry (h a ha)
    exact readValue_object (readAll_join (by simp) hone (by omega) [] rest)

/-! ## The whole document -/

theorem reads_of_exact {value : Json} (h : Exact value) : Reads value := by
  induction h with
  | null => exact reads_of_cons rfl fun _ _ _ _ => rfl
  | bool value =>
    cases value with
    | true => exact reads_of_cons rfl fun _ _ _ _ => rfl
    | false => exact reads_of_cons rfl fun _ _ _ _ => rfl
  | natural h => exact reads_natural h
  | negative hpos h => exact reads_negative hpos h
  | string text => exact reads_string text
  | list _ ih => exact reads_list ih
  | object _ ih => exact reads_object ih

/-- The reader undoes the writer on every value whose numbers are integers of 64 bits. -/
theorem read_write {value : Json} (h : Exact value) : read value.write = .ok value := by
  have hread := reads_of_exact h (2 * value.write.toList.length + 2) [] (by omega) nofun
  rw [List.append_nil] at hread
  simp only [read, hread]
  rfl

end KeyDigest.Json
