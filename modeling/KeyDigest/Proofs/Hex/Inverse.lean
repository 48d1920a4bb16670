import KeyDigest.Hex
import KeyDigest.Proofs.Hex.Reading
import KeyDigest.Proofs.Text.Utf8

/-! # Written hexadecimal texts

Bytes have one lowercase text and as many spellings as there are ways to put letters of it in
capitals.  The reader accepts exactly these, each as the bytes that it spells (`decode_eq_ok_iff`,
from `decode_encode` and `encode_of_decode`).  Written texts stand in the order of the byte
sequences that they write (`encode_lt_iff`).
-/

namespace KeyDigest.Hex

/-! ## Writing -/

def lowercase : List Char :=
  ['0', '1', '2', '3', '4', '5', '6', '7', '8', '9', 'a', 'b', 'c', 'd', 'e', 'f']

theorem digitChar_mem_lowercase {n : Nat} (h : n < 16) : Nat.digitChar n ∈ lowercase := by
  have hall : ∀ n : Fin 16, Nat.digitChar n ∈ lowercase := by decide
  exact hall ⟨n, h⟩

theorem toList_encode (bytes : List UInt8) : (encode bytes).toList = bytes.flatMap digits := by
  rw [encode, String.toList_ofList]

theorem length_encode (bytes : List UInt8) :
    (encode bytes).toList.length = 2 * bytes.length := by
  rw [toList_encode]
  induction bytes with
  | nil => rfl
  | cons byte bytes ih =>
    rw [List.flatMap_cons, List.length_append, ih, List.length_cons, digits]
    simp only [List.length_cons, List.length_nil]
    omega

/-- The first characters are the text of the first bytes. -/
theorem take_toList_encode (n : Nat) (bytes : List UInt8) :
    (encode bytes).toList.take (2 * n) = (encode (bytes.take n)).toList := by
  rw [toList_encode, toList_encode]
  induction n generalizing bytes with
  | zero => rfl
  | succ n ih =>
    cases bytes with
    | nil => rfl
    | cons byte bytes =>
      rw [List.flatMap_cons, List.take_succ_cons, List.flatMap_cons, ← ih]
      rfl

theorem mem_lowercase_of_mem_encode {bytes : List UInt8} {c : Char}
    (h : c ∈ (encode bytes).toList) : c ∈ lowercase := by
  rw [toList_encode, List.mem_flatMap] at h
  obtain ⟨byte, -, hc⟩ := h
  have hbyte := byte.toNat_lt
  simp only [digits, List.mem_cons, List.not_mem_nil, or_false] at hc
  obtain rfl | rfl := hc
  · exact digitChar_mem_lowercase (by omega)
  · exact digitChar_mem_lowercase (by omega)

/-! ## Reading undoes writing -/

/-! ### Digits -/

theorem weight_digitChar {n : Nat} (h : n < 16) :
    IsDigit (Nat.digitChar n).toUInt8 ∧ weight (Nat.digitChar n).toUInt8 = n := by
  have hall : ∀ n : Fin 16, IsDigit (Nat.digitChar n).toUInt8 ∧
      weight (Nat.digitChar n).toUInt8 = n := by decide
  exact hall ⟨n, h⟩

/-- A digit is written as it was read, except that its case is lost. -/
theorem digitChar_weight {digit : UInt8} (h : IsDigit digit) :
    Nat.digitChar (weight digit) = (Char.ofUInt8 digit).toLower := by
  have hall : ∀ n : Fin 256, IsDigit (UInt8.ofNat n) →
      Nat.digitChar (weight (UInt8.ofNat n)) = (Char.ofUInt8 (UInt8.ofNat n)).toLower := by
    decide +kernel
  have hdigit := hall ⟨digit.toNat, digit.toNat_lt⟩
  simp only [UInt8.ofNat_toNat] at hdigit
  exact hdigit h

theorem toNat_lt_of_mem_lowercase {c : Char} (h : c ∈ lowercase) : c.toNat < 128 := by
  have hall : ∀ c ∈ lowercase, c.toNat < 128 := by simp [lowercase]
  exact hall c h

/-- Only digits become lowercase digits when letters lose their case. -/
theorem isDigit_of_toLower {c : Char} (h : c.toLower ∈ lowercase) :
    c.toNat < 128 ∧ IsDigit c.toUInt8 := by
  have hascii : c.toNat < 128 := by
    unfold Char.toLower at h
    split at h
    · rename_i hletter
      have hmost : c.val.toNat ≤ 90 := UInt32.le_iff_toNat_le.mp hletter.2
      exact Nat.lt_of_le_of_lt hmost (by decide)
    · exact toNat_lt_of_mem_lowercase h
  have hall : ∀ n : Fin 128, (Char.ofNat n).toLower ∈ lowercase →
      IsDigit (Char.ofNat n).toUInt8 := by decide
  have hdigit := hall ⟨c.toNat, hascii⟩
  simp only [Char.ofNat_toNat] at hdigit
  exact ⟨hascii, hdigit h⟩

/-! ### Pairs -/

theorem pairBytes_digits (bytes : List UInt8) :
    pairBytes ((bytes.flatMap digits).map Char.toUInt8) = bytes := by
  induction bytes with
  | nil => rfl
  | cons byte bytes ih =>
    have hbyte := byte.toNat_lt
    have hhigh := (weight_digitChar (n := byte.toNat / 16) (by omega)).2
    have hlow := (weight_digitChar (n := byte.toNat % 16) (by omega)).2
    have hhalves : 16 * (byte.toNat / 16) + byte.toNat % 16 = byte.toNat := by omega
    simp only [List.flatMap_cons, digits, List.cons_append, List.nil_append, List.map_cons,
      pairBytes, hhigh, hlow, hhalves, UInt8.ofNat_toNat]
    exact congrArg (byte :: ·) ih

theorem flatMap_digits_pairBytes {text : List UInt8} (heven : text.length % 2 = 0)
    (h : ∀ digit ∈ text, IsDigit digit) :
    (pairBytes text).flatMap digits = text.map fun digit => (Char.ofUInt8 digit).toLower := by
  fun_induction pairBytes text with
  | case1 => rfl
  | case2 => cases heven
  | case3 high low rest ih =>
    obtain ⟨hhigh, hlow, hrest⟩ : IsDigit high ∧ IsDigit low ∧ ∀ digit ∈ rest, IsDigit digit := by
      simpa using h
    have heven : rest.length % 2 = 0 := by
      simp only [List.length_cons] at heven
      omega
    -- The halves of the byte are worth the two digits again.
    have hlt := weight_lt hlow
    have hfirst : (16 * weight high + weight low) / 16 = weight high := by omega
    have hsecond : (16 * weight high + weight low) % 16 = weight low := by omega
    rw [List.flatMap_cons, ih heven hrest, digits, toNat_pair hhigh hlow, hfirst, hsecond,
      digitChar_weight hhigh, digitChar_weight hlow]
    rfl

/-! ### Texts -/

theorem toList_toLower (text : String) : text.toLower.toList = text.toList.map Char.toLower :=
  String.toList_map

theorem bytes_encode (bytes : List UInt8) :
    Utf8.bytes (encode bytes) = (bytes.flatMap digits).map Char.toUInt8 := by
  apply Utf8.bytes_ofList_of_ascii
  intro c hc
  rw [← toList_encode] at hc
  exact toNat_lt_of_mem_lowercase (mem_lowercase_of_mem_encode hc)

/-- A text of which every character becomes a lowercase digit is a text of digits. -/
theorem digits_of_toLower {text : String} (h : ∀ c ∈ text.toLower.toList, c ∈ lowercase) :
    (Utf8.bytes text).length = text.toList.length ∧
      ∀ digit ∈ Utf8.bytes text, IsDigit digit := by
  have hdigits : ∀ c ∈ text.toList, c.toNat < 128 ∧ IsDigit c.toUInt8 := by
    intro c hc
    apply isDigit_of_toLower
    apply h
    rw [toList_toLower]
    exact List.mem_map_of_mem hc
  have hbytes : Utf8.bytes text = text.toList.map Char.toUInt8 := by
    rw [← Utf8.bytes_ofList_of_ascii fun c hc => (hdigits c hc).1, String.ofList_toList]
  rw [hbytes]
  refine ⟨List.length_map _, fun digit hdigit => ?_⟩
  obtain ⟨c, hc, rfl⟩ := List.mem_map.mp hdigit
  exact (hdigits c hc).2

theorem digits_of_encode {text : String} {bytes : List UInt8} (h : text.toLower = encode bytes) :
    (Utf8.bytes text).length = 2 * bytes.length ∧ ∀ digit ∈ Utf8.bytes text, IsDigit digit := by
  have hlower : ∀ c ∈ text.toLower.toList, c ∈ lowercase := by
    rw [h]
    intro c hc
    exact mem_lowercase_of_mem_encode hc
  have hlength : text.toList.length = 2 * bytes.length := by
    rw [← length_encode, ← h, toList_toLower, List.length_map]
  obtain ⟨hbytes, hdigits⟩ := digits_of_toLower hlower
  exact ⟨hbytes.trans hlength, hdigits⟩

theorem toLower_encode (bytes : List UInt8) : (encode bytes).toLower = encode bytes := by
  have hall : ∀ c ∈ lowercase, c.toLower = c := by simp [lowercase]
  apply String.toList_inj.mp
  rw [toList_toLower]
  have hkeep : ∀ c ∈ (encode bytes).toList, c.toLower = id c := by
    intro c hc
    exact hall c (mem_lowercase_of_mem_encode hc)
  rw [List.map_congr_left hkeep, List.map_id]

theorem decode_encode (bytes : List UInt8) : decode (encode bytes) = .ok bytes := by
  obtain ⟨hlength, hdigits⟩ := digits_of_encode (toLower_encode bytes)
  rw [decode, decodeBytes_of_digits (by omega) hdigits, bytes_encode, pairBytes_digits]

theorem encode_inj {a b : List UInt8} (h : encode a = encode b) : a = b := by
  have hread := decode_encode a
  rw [h, decode_encode] at hread
  exact (Except.ok.inj hread).symm

theorem encode_of_decode {text : String} {bytes : List UInt8} (h : decode text = .ok bytes) :
    encode bytes = text.toLower := by
  obtain ⟨heven, hdigits, rfl⟩ := decodeBytes_eq_ok h
  have hascii : ∀ byte ∈ Utf8.bytes text, byte.toNat < 128 := fun byte hbyte =>
    toNat_lt_of_isDigit (hdigits byte hbyte)
  apply String.toList_inj.mp
  rw [toList_encode, flatMap_digits_pairBytes heven hdigits, toList_toLower,
    Utf8.toList_of_ascii hascii, List.map_map]
  rfl

/-- The reader accepts the spellings of bytes and nothing else. -/
theorem decode_eq_ok_iff {text : String} {bytes : List UInt8} :
    decode text = .ok bytes ↔ text.toLower = encode bytes := by
  constructor
  · intro h
    exact (encode_of_decode h).symm
  · intro h
    obtain ⟨hlength, hdigits⟩ := digits_of_encode h
    have hread := decodeBytes_of_digits (by omega) hdigits
    have hsame : encode (pairBytes (Utf8.bytes text)) = encode bytes :=
      (encode_of_decode hread).trans h
    rw [decode, hread, encode_inj hsame]

/-! ### Capitals -/

/-- The text with its letters at the chosen places in capitals. -/
def capitalize (chosen : Nat → Bool) (text : String) : String :=
  String.ofList (text.toList.mapIdx fun place c => if chosen place then c.toUpper else c)

theorem toLower_capitalize (chosen : Nat → Bool) (bytes : List UInt8) :
    (capitalize chosen (encode bytes)).toLower = encode bytes := by
  have hall : ∀ c ∈ lowercase, c.toUpper.toLower = c ∧ c.toLower = c := by simp [lowercase]
  apply String.toList_inj.mp
  rw [toList_toLower, capitalize, String.toList_ofList]
  apply List.ext_getElem
  · simp
  · intro place _ hplace
    obtain ⟨hcapital, hsmall⟩ := hall _ (mem_lowercase_of_mem_encode (List.getElem_mem hplace))
    cases hchosen : chosen place
    · simpa [hchosen] using hsmall
    · simpa [hchosen] using hcapital

/-! ## Order

Written digits ascend as what they are worth, and every byte has two of them.  A byte is compared by
its high half first, as a text is by its first character.
-/

theorem digitChar_lt_iff {m n : Nat} (hm : m < 16) (hn : n < 16) :
    Nat.digitChar m < Nat.digitChar n ↔ m < n := by
  have hall : ∀ m n : Fin 16, Nat.digitChar m < Nat.digitChar n ↔ m < n := by decide
  exact hall ⟨m, hm⟩ ⟨n, hn⟩

theorem digitChar_inj {m n : Nat} (hm : m < 16) (hn : n < 16) :
    Nat.digitChar m = Nat.digitChar n ↔ m = n := by
  have hall : ∀ m n : Fin 16, Nat.digitChar m = Nat.digitChar n → m = n := by decide
  exact ⟨fun h => Fin.mk.inj (hall ⟨m, hm⟩ ⟨n, hn⟩ h), congrArg Nat.digitChar⟩

/-- The first byte decides, unless both have the same. -/
theorem digits_append_lt_iff {x y : UInt8} {a b : List Char} :
    digits x ++ a < digits y ++ b ↔ x < y ∨ x = y ∧ a < b := by
  have hx := x.toNat_lt
  have hy := y.toNat_lt
  simp only [digits, List.cons_append, List.nil_append, List.cons_lt_cons_iff,
    digitChar_lt_iff (m := x.toNat / 16) (n := y.toNat / 16) (by omega) (by omega),
    digitChar_inj (m := x.toNat / 16) (n := y.toNat / 16) (by omega) (by omega),
    digitChar_lt_iff (m := x.toNat % 16) (n := y.toNat % 16) (by omega) (by omega),
    digitChar_inj (m := x.toNat % 16) (n := y.toNat % 16) (by omega) (by omega),
    UInt8.lt_iff_toNat_lt, ← UInt8.toNat_inj]
  -- What is left compares the quotients and remainders by sixteen with the numbers themselves.
  by_cases hab : a < b
  · simp only [hab, and_true]
    omega
  · simp only [hab, and_false, or_false]
    omega

theorem flatMap_digits_lt_iff {a b : List UInt8} :
    a.flatMap digits < b.flatMap digits ↔ a < b := by
  induction a generalizing b with
  | nil => cases b <;> simp [digits]
  | cons x a ih =>
    cases b with
    | nil => simp
    | cons y b =>
      rw [List.flatMap_cons, List.flatMap_cons, digits_append_lt_iff, ih, List.cons_lt_cons_iff]

theorem encode_lt_iff {a b : List UInt8} : encode a < encode b ↔ a < b := by
  rw [String.lt_iff, toList_encode, toList_encode, flatMap_digits_lt_iff]

example : encode [0x0f, 0xff] < encode [0x10] := by decide

end KeyDigest.Hex
