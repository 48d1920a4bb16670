import KeyDigest.Proofs.Digest.Parse
import KeyDigest.Proofs.Hashing.Text
import KeyDigest.Proofs.Text.Utf8

/-! # Where a fault stands

The readers of hexadecimal texts look at bytes, and report the first that is no digit by its
position and by the character of its number.  A text is made of characters, though.  All bytes
before the fault are digits, so each of them is a character of its own, and the fault begins the
next one: the position is never inside a character, and the byte is never one that continues a
character.  For an ASCII character the report is exact; of any other it shows the lead byte.
-/

namespace KeyDigest

namespace Hex

/-- The first fault of an encoded text is the first byte of a character, and the characters before
it are as many as the bytes. -/
theorem FirstFault.exists_character {text : List Char} {index : Nat} {byte : UInt8}
    (h : FirstFault (Utf8.bytes (String.ofList text)) index byte) :
    ∃ before fault after, text = before ++ fault :: after ∧ before.length = index ∧
      (∀ c ∈ before, c.toNat < 128) ∧ (String.utf8EncodeChar fault).head? = some byte := by
  -- On the characters, not on the bytes: a character is passed over only when all of it is a digit.
  induction text generalizing index with
  | nil => cases h.getElem?_eq
  | cons c text ih =>
    rw [Utf8.bytes_ofList_cons] at h
    by_cases hc : c.toNat < 128
    · rw [Utf8.utf8EncodeChar_of_ascii hc] at h
      obtain ⟨rfl, rfl, -⟩ | ⟨index, rfl, -, hrest⟩ := h.eq_zero_or_succ
      · refine ⟨[], c, text, rfl, rfl, List.forall_mem_nil _, ?_⟩
        rw [Utf8.utf8EncodeChar_of_ascii hc]
        rfl
      · obtain ⟨before, fault, after, rfl, rfl, hbefore, hfault⟩ := ih hrest
        exact ⟨c :: before, fault, after, rfl, rfl, List.forall_mem_cons.mpr ⟨hc, hbefore⟩, hfault⟩
    -- A lead byte is no digit, so nothing behind it is looked at.
    · have hascii : 128 ≤ c.toNat := Nat.le_of_not_lt hc
      obtain ⟨lead, rest, hencode, hlead⟩ := Utf8.exists_lead hascii
      have hbounds := Utf8.leadNumber_bounds hascii (Utf8.toNat_lt c)
      have hdigit : ¬ IsDigit lead := by
        intro hdigit
        have := toNat_lt_of_isDigit hdigit
        omega
      rw [hencode, List.cons_append] at h
      obtain ⟨rfl, rfl, -⟩ | ⟨_, _, hfirst, _⟩ := h.eq_zero_or_succ
      · refine ⟨[], c, text, rfl, rfl, List.forall_mem_nil _, ?_⟩
        rw [hencode]
        rfl
      · exact absurd hfirst hdigit

end Hex

namespace Digest

open Log

/-- A report that names `c` at `index` is about the character `fault` of a text, which stands behind
`before`. -/
structure PointsAt (text : String) (c : Char) (index : Nat) (before : List Char) (fault : Char)
    (after : List Char) : Prop where
  toList_eq : text.toList = before ++ fault :: after
  index_lt : index < (Utf8.bytes text).length
  isDigit_before : ∀ digit ∈ (Utf8.bytes text).take index, Hex.IsDigit digit
  isValid : String.Pos.Raw.IsValid text ⟨index⟩
  length_bytes_before : (Utf8.bytes (String.ofList before)).length = index
  length_before : before.length = index
  of_ascii : fault.toNat < 128 → c = fault ∧ ¬ Hex.IsDigit fault.toUInt8
  of_not_ascii : 128 ≤ fault.toNat →
    (∃ lead rest, Utf8.bytes (String.singleton fault) = lead :: rest ∧ c.toNat = lead.toNat) ∧
      0xC2 ≤ c.toNat ∧ c.toNat ≤ 0xF4 ∧ (c = fault ↔ fault.toNat = 0xC3)

theorem exists_pointsAt {text : String} {index : Nat} {byte : UInt8}
    (h : Hex.FirstFault (Utf8.bytes text) index byte) :
    ∃ before fault after, PointsAt text (Char.ofUInt8 byte) index before fault after := by
  have hchars : Hex.FirstFault (Utf8.bytes (String.ofList text.toList)) index byte := by
    rwa [String.ofList_toList]
  obtain ⟨before, fault, after, htext, rfl, hbefore, hfault⟩ := hchars.exists_character
  have hlength : (Utf8.bytes (String.ofList before)).length = before.length := by
    rw [Utf8.bytes_ofList_of_ascii hbefore, List.length_map]
  refine ⟨before, fault, after,
    { toList_eq := htext
      index_lt := (List.getElem?_eq_some_iff.mp h.getElem?_eq).1
      isDigit_before := h.isDigit_before
      isValid := String.Pos.Raw.isValid_iff_exists_append.mpr
        ⟨String.ofList before, String.ofList (fault :: after), ?_, ?_⟩
      length_bytes_before := hlength
      length_before := rfl
      of_ascii := fun hascii => ?_
      of_not_ascii := fun hascii => ?_ }⟩
  · rw [← String.ofList_append, ← htext, String.ofList_toList]
  · rw [← hlength, Utf8.length_bytes]
    rfl
  -- An ASCII character is its own byte; of any other it is the lead byte that is looked at.
  · rw [Utf8.utf8EncodeChar_of_ascii hascii] at hfault
    obtain rfl : fault.toUInt8 = byte := Option.some.inj hfault
    exact ⟨Utf8.ofUInt8_toUInt8 hascii, h.not_isDigit⟩
  · obtain ⟨lead, rest, hencode, hlead⟩ := Utf8.exists_lead hascii
    rw [hencode] at hfault
    obtain rfl : lead = byte := Option.some.inj hfault
    have hbounds := Utf8.leadNumber_bounds hascii (Utf8.toNat_lt fault)
    rw [← hlead] at hbounds
    refine ⟨⟨lead, rest, ?_, rfl⟩, hbounds.1, hbounds.2, ?_⟩
    · rw [Utf8.bytes_singleton, hencode]
    · rw [← Char.toNat_inj, Utf8.toNat_ofUInt8, hlead, Utf8.leadNumber_eq_self_iff hascii]

/-- A text that is refused for a character, as a digest or as key data, has a first fault. -/
theorem firstFault_of_report {text : String} {c : Char} {index : Nat} {threshold : Threshold}
    (h : parse text = .error (.encoding (.invalidCharacter c index)) ∨
      (Hashing.content (.hex text)).run.value threshold =
        .error (.encoding (.invalidCharacter c index))) :
    ∃ byte, c = Char.ofUInt8 byte ∧ Hex.FirstFault (Utf8.bytes text) index byte := by
  have hread : Hex.decodeBytes (Utf8.bytes text) = .error (.invalidCharacter c index) := by
    -- Both readers leave the digits to one decoder's judgement, whatever they do with the bytes.
    obtain hparse | hcontent := h
    · exact decodeBytes_of_parse_error hparse
    · obtain ⟨reason, hread, hreason⟩ := Hashing.decodeBytes_of_content_error hcontent
      rw [hread, DigestError.encoding.inj hreason]
  obtain ⟨-, hodd⟩ | ⟨place, byte, -, hfault, hreason⟩ := Hex.decodeBytes_eq_error hread
  · cases hodd
  · obtain ⟨rfl, rfl⟩ := HexError.invalidCharacter.inj hreason
    exact ⟨byte, rfl, hfault⟩

/-- A bad character is reported where a character of the text begins: by itself if it is ASCII, and
otherwise by its lead byte. -/
theorem report_points_at_character {text : String} {c : Char} {index : Nat} {threshold : Threshold}
    (h : parse text = .error (.encoding (.invalidCharacter c index)) ∨
      (Hashing.content (.hex text)).run.value threshold =
        .error (.encoding (.invalidCharacter c index))) :
    ∃ before fault after, PointsAt text c index before fault after := by
  obtain ⟨byte, rfl, hfault⟩ := firstFault_of_report h
  exact exists_pointsAt hfault

theorem report_points_at_accent :
    (Hashing.content (.hex "0é0")).run.value .off =
        .error (.encoding (.invalidCharacter 'Ã' 1)) ∧
      ∃ before fault after, PointsAt "0é0" 'Ã' 1 before fault after := by
  have hreport : (Hashing.content (.hex "0é0")).run.value .off =
      .error (.encoding (.invalidCharacter 'Ã' 1)) := rfl
  exact ⟨hreport, report_points_at_character (.inr hreport)⟩

end Digest

end KeyDigest
