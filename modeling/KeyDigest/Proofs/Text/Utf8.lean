import KeyDigest.Hex

/-! # Encoded texts

Bytes are a text just when they are the encoding of one, and then of no other.  An ASCII text and
its bytes are each other's image character by character.  A character above ASCII is encoded by
several bytes, of which the first, its lead byte, neither is an ASCII byte nor continues a
character; its number is that of the character for one character alone.
-/

namespace KeyDigest.Utf8

/-! ## ASCII texts -/

theorem bytes_singleton_of_ascii {c : Char} (h : c.toNat < 128) :
    bytes (String.ofList [c]) = [c.toUInt8] := by
  have hone : c.val.toNat ≤ 127 := Nat.le_of_lt_succ h
  rw [bytes, String.toByteArray_ofList, List.utf8Encode_singleton, List.toList_data_toByteArray]
  simp only [String.utf8EncodeChar, if_pos hone]
  rfl

theorem bytes_ofList_of_ascii {text : List Char} (h : ∀ c ∈ text, c.toNat < 128) :
    bytes (String.ofList text) = text.map Char.toUInt8 := by
  induction text with
  | nil => rfl
  | cons c text ih =>
    obtain ⟨hc, htext⟩ := List.forall_mem_cons.mp h
    rw [← List.singleton_append, String.ofList_append, bytes_append,
      bytes_singleton_of_ascii hc, ih htext]
    rfl

theorem toNat_ofUInt8 (byte : UInt8) : (Char.ofUInt8 byte).toNat = byte.toNat := rfl

theorem ofUInt8_toUInt8 {c : Char} (h : c.toNat < 128) : Char.ofUInt8 c.toUInt8 = c := by
  apply Char.toNat_inj.mp
  rw [toNat_ofUInt8]
  exact Nat.mod_eq_of_lt (Nat.lt_trans h (by decide))

theorem toUInt8_ofUInt8 (byte : UInt8) : (Char.ofUInt8 byte).toUInt8 = byte := by
  show byte.toUInt32.toUInt8 = byte
  simp

/-- ASCII bytes are the encoding of the characters with their numbers. -/
theorem bytes_ofList_map_ofUInt8 {encoded : List UInt8} (h : ∀ byte ∈ encoded, byte.toNat < 128) :
    bytes (String.ofList (encoded.map Char.ofUInt8)) = encoded := by
  rw [bytes_ofList_of_ascii, List.map_map]
  · exact List.map_id'' toUInt8_ofUInt8 _
  · intro c hc
    obtain ⟨byte, hbyte, rfl⟩ := List.mem_map.mp hc
    exact h byte hbyte

theorem toList_of_ascii {text : String} (h : ∀ byte ∈ bytes text, byte.toNat < 128) :
    text.toList = (bytes text).map Char.ofUInt8 := by
  rw [← String.toList_ofList (l := (bytes text).map Char.ofUInt8),
    bytes_inj.mp (bytes_ofList_map_ofUInt8 h)]

/-! ## All texts -/

theorem length_bytes (text : String) : (bytes text).length = text.utf8ByteSize := by
  rw [bytes, Array.length_toList]
  rfl

theorem text?_eq_some_iff {encoded : List UInt8} {text : String} :
    text? encoded = some text ↔ bytes text = encoded := by
  rw [text?, String.fromUTF8?]
  constructor
  · intro h
    split at h
    · cases h
      rfl
    · cases h
  · rintro rfl
    have hvalid : (ByteArray.mk (bytes text).toArray).IsValidUTF8 := text.isValidUTF8
    rw [dif_pos hvalid]
    rfl

theorem text?_eq_none_iff {encoded : List UInt8} :
    text? encoded = none ↔ ∀ text, bytes text ≠ encoded := by
  rw [Option.eq_none_iff_forall_ne_some]
  exact forall_congr' fun text => not_congr text?_eq_some_iff

/-! ### Character by character -/

theorem bytes_singleton (c : Char) : bytes (String.singleton c) = String.utf8EncodeChar c := by
  rw [bytes, String.toByteArray_singleton, List.utf8Encode_singleton, List.toList_data_toByteArray]

theorem bytes_ofList_cons (c : Char) (text : List Char) :
    bytes (String.ofList (c :: text)) = String.utf8EncodeChar c ++ bytes (String.ofList text) := by
  rw [← List.singleton_append, String.ofList_append, bytes_append, ← String.singleton_eq_ofList,
    bytes_singleton]

theorem length_bytes_singleton (c : Char) : (bytes (String.singleton c)).length = c.utf8Size := by
  rw [bytes_singleton, String.length_utf8EncodeChar]

theorem utf8EncodeChar_of_ascii {c : Char} (h : c.toNat < 128) :
    String.utf8EncodeChar c = [c.toUInt8] := by
  rw [← bytes_singleton, String.singleton_eq_ofList, bytes_singleton_of_ascii h]

/-! ### Lead bytes -/

/-- The number of the lead byte of the character numbered `n`. -/
def leadNumber (n : Nat) : Nat :=
  if n ≤ 0x7FF then 0xC0 + n / 64
  else if n ≤ 0xFFFF then 0xE0 + n / 4096
  else 0xF0 + n / 262144

theorem leadNumber_bounds {n : Nat} (h : 128 ≤ n) (hmost : n < 0x110000) :
    0xC2 ≤ leadNumber n ∧ leadNumber n ≤ 0xF4 := by
  rw [leadNumber]
  split
  · omega
  · split <;> omega

theorem leadNumber_eq_self_iff {n : Nat} (h : 128 ≤ n) : leadNumber n = n ↔ n = 0xC3 := by
  rw [leadNumber]
  split
  · omega
  · split <;> omega

theorem toNat_lt (c : Char) : c.toNat < 0x110000 := by
  have hvalid : c.toNat < 0xD800 ∨ 0xDFFF < c.toNat ∧ c.toNat < 0x110000 := c.valid
  omega

theorem exists_lead {c : Char} (h : 128 ≤ c.toNat) :
    ∃ lead rest, String.utf8EncodeChar c = lead :: rest ∧ lead.toNat = leadNumber c.toNat := by
  have hmost := toNat_lt c
  have hval : c.val.toNat = c.toNat := rfl
  rw [String.utf8EncodeChar, leadNumber]
  simp only [hval]
  -- The encoder cuts the bits of the lead byte to size, which takes nothing off a valid number.
  rw [if_neg (by omega)]
  split
  · refine ⟨_, _, rfl, ?_⟩
    rw [UInt8.toNat_ofNat']
    omega
  · split
    · refine ⟨_, _, rfl, ?_⟩
      rw [UInt8.toNat_ofNat']
      omega
    · refine ⟨_, _, rfl, ?_⟩
      rw [UInt8.toNat_ofNat']
      omega

end KeyDigest.Utf8
