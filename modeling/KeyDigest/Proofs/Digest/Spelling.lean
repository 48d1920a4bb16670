import KeyDigest.Digest.Format
import KeyDigest.Digest.Json
import KeyDigest.Json.Value
import KeyDigest.Proofs.Digest.Parse
import KeyDigest.Proofs.Hashing.Text
import KeyDigest.Proofs.Hex.Inverse

/-! # Spellings of a digest

A digest is written in one way and read in many.  Its plain form, its hexadecimal form and the
string that data formats get are one text of forty lowercase digits; the readers take back that
text and every other one that differs from it in the case of letters, and nothing else.  The
alternate form is the one that no reader takes: the mark in front of its digits is no digit.
-/

namespace KeyDigest.Digest

open Log

theorem toList_inj {a b : Digest} : a.toList = b.toList ↔ a = b := by
  constructor
  · intro h
    cases a
    cases b
    exact congrArg Digest.mk (Vector.toList_inj.mp h)
  · rintro rfl
    rfl

theorem toHex_inj {a b : Digest} (h : a.toHex = b.toHex) : a = b :=
  toList_inj.mp (Hex.encode_inj h)

/-! ## Readers -/

/-- A text gives a digest when it has forty bytes and they read as the bytes of it. -/
theorem parse_eq_ok_iff_decodeBytes {text : String} {digest : Digest} :
    parse text = .ok digest ↔ (Utf8.bytes text).length = 2 * digestSize ∧
      Hex.decodeBytes (Utf8.bytes text) = .ok digest.toList := by
  by_cases hlength : (Utf8.bytes text).length = 2 * digestSize
  · have hread : (parse text).map toList = .ok digest.toList ↔
        Hex.decodeBytes (Utf8.bytes text) = .ok digest.toList := by
      rw [map_toList_parse hlength, mapError_eq_ok_iff]
    rw [and_iff_right hlength, ← hread, map_eq_ok_iff]
    simp only [toList_inj, exists_eq_right]
  · rw [parse_of_length_ne hlength]
    exact ⟨nofun, fun ⟨h, _⟩ => absurd h hlength⟩

theorem parse_eq_ok_iff {text : String} {digest : Digest} :
    parse text = .ok digest ↔ text.toLower = digest.toHex := by
  rw [parse_eq_ok_iff_decodeBytes, toHex, ← Hex.decode_eq_ok_iff, Hex.decode]
  refine ⟨And.right, fun h => ⟨?_, h⟩⟩
  rw [(Hex.digits_of_encode (Hex.decode_eq_ok_iff.mp h)).1, length_toList]

theorem ofText_eq_ok_iff {text : String} {digest : Digest} :
    ofText text = .ok digest ↔ parse text = .ok digest := by
  rw [ofText, mapError_eq_ok_iff]

theorem parse_toHex (digest : Digest) : parse digest.toHex = .ok digest :=
  parse_eq_ok_iff.mpr (Hex.toLower_encode _)

/-! ## Writers -/

theorem length_toHex (digest : Digest) : digest.toHex.toList.length = 40 := by
  rw [toHex, Hex.length_encode, length_toList]
  rfl

theorem mem_lowercase_of_mem_toHex {digest : Digest} {c : Char} (h : c ∈ digest.toHex.toList) :
    c ∈ Hex.lowercase :=
  Hex.mem_lowercase_of_mem_encode h

theorem write_toJson (digest : Digest) :
    digest.toJson.write = "\"" ++ digest.toHex ++ "\"" := by
  have hall : ∀ c ∈ Hex.lowercase, Json.isPlain c := by simp [Hex.lowercase, Json.isPlain]
  rw [toJson, Json.write]
  apply Json.writeString_of_isPlain
  intro c hc
  exact hall c (mem_lowercase_of_mem_toHex hc)

/-- The alternate form as bytes: a zero, the letter `x` and forty digits. -/
theorem bytes_alternate (digest : Digest) :
    Utf8.bytes (digest.format .hexadecimal { alternate := true }) =
      48 :: 120 :: Utf8.bytes digest.toHex := by
  rw [format, FieldSpec.layText_of_none rfl rfl, hexadecimal, if_pos rfl, Utf8.bytes_append]
  rfl

theorem length_bytes_alternate (digest : Digest) :
    (Utf8.bytes (digest.format .hexadecimal { alternate := true })).length = 42 := by
  have hlength := (Hex.digits_of_encode (Hex.toLower_encode digest.toList)).1
  rw [length_toList] at hlength
  rw [bytes_alternate, toHex, List.length_cons, List.length_cons, hlength]
  rfl

theorem firstFault_alternate (digest : Digest) :
    Hex.FirstFault (Utf8.bytes (digest.format .hexadecimal { alternate := true })) 1 120 := by
  rw [bytes_alternate]
  exact ⟨rfl, by decide, by simp [Hex.IsDigit]⟩

/-! ## Both directions -/

/-- The text of a digest: all writers agree on it, and the readers accept its spellings alone. -/
structure IsTextOf (text : String) (digest : Digest) : Prop where
  plain_eq : digest.format .plain { } = text
  hexadecimal_eq : digest.format .hexadecimal { } = text
  toJson_eq : digest.toJson = .string text
  write_eq : digest.toJson.write = "\"" ++ text ++ "\""
  length_eq : text.toList.length = 40
  lowercase : ∀ c ∈ text.toList, c ∈ Hex.lowercase
  parse_capitalize : ∀ chosen, parse (Hex.capitalize chosen text) = .ok digest
  parse_iff : ∀ spelling, parse spelling = .ok digest ↔ spelling.toLower = text
  ofJson_iff : ∀ spelling, ofJson (.string spelling) = .ok digest ↔ spelling.toLower = text

theorem isTextOf_toHex (digest : Digest) : IsTextOf digest.toHex digest where
  plain_eq := FieldSpec.layText_of_none rfl rfl _
  hexadecimal_eq := FieldSpec.layText_of_none rfl rfl _
  toJson_eq := rfl
  write_eq := write_toJson digest
  length_eq := length_toHex digest
  lowercase _ := mem_lowercase_of_mem_toHex
  parse_capitalize chosen := parse_eq_ok_iff.mpr (Hex.toLower_capitalize chosen _)
  parse_iff _ := parse_eq_ok_iff
  ofJson_iff _ := ofText_eq_ok_iff.trans parse_eq_ok_iff

/-- Writing and reading are inverse up to the case of letters, for bytes of any number, for every
digest and its forms, and for what hashing returns. -/
theorem reading_inverts_writing (threshold : Threshold) :
    (∀ bytes : List UInt8,
      (Hashing.content (.hex (Hex.encode bytes))).run.value threshold = .ok (.decoded bytes)) ∧
    (∀ (text : String) (content : Content),
      (Hashing.content (.hex text)).run.value threshold = .ok content →
        Hex.encode content.bytes = text.toLower) ∧
    (∀ (s t : String) (b c : Content),
      (Hashing.content (.hex s)).run.value threshold = .ok b →
      (Hashing.content (.hex t)).run.value threshold = .ok c →
        (b.bytes = c.bytes ↔ s.toLower = t.toLower)) ∧
    (∀ digest : Digest, IsTextOf (digest.format .plain { }) digest) ∧
    (∀ (preimage : Preimage) (text : String),
      (Hashing.hexOfPreimage preimage).run.value threshold = .ok text →
        ∃ digest, (Hashing.digestPreimage preimage).run.value threshold = .ok digest ∧
          parse text = .ok digest) ∧
    ∀ digest : Digest,
      parse (digest.format .hexadecimal { alternate := true }) = .error (.length 42) ∧
      (Hashing.content (.hex (digest.format .hexadecimal { alternate := true }))).run.value
        threshold = .error (.encoding (.invalidCharacter 'x' 1)) := by
  have hread (text : String) (content : Content)
      (h : (Hashing.content (.hex text)).run.value threshold = .ok content) :
      Hex.encode content.bytes = text.toLower :=
    Hex.encode_of_decode (Hashing.decodeBytes_of_content_ok h)
  refine ⟨fun bytes => ?_, hread, fun s t b c hs ht => ?_, fun digest => ?_,
    fun preimage text h => ?_, fun digest => ⟨?_, ?_⟩⟩
  · rw [Hashing.content_hex, ← Hex.decode, Hex.decode_encode]
    rfl
  · rw [← hread s b hs, ← hread t c ht]
    exact ⟨congrArg Hex.encode, Hex.encode_inj⟩
  · rw [(isTextOf_toHex digest).plain_eq]
    exact isTextOf_toHex digest
  · rw [Hashing.value_hexOfPreimage, map_eq_ok_iff] at h
    obtain ⟨digest, hdigest, rfl⟩ := h
    exact ⟨digest, hdigest, parse_toHex digest⟩
  · have hlength : (Utf8.bytes (digest.format .hexadecimal { alternate := true })).length ≠
        2 * digestSize := by
      rw [length_bytes_alternate]
      decide
    rw [parse_of_length_ne hlength, length_bytes_alternate]
  · have heven :
        (Utf8.bytes (digest.format .hexadecimal { alternate := true })).length % 2 = 0 := by
      rw [length_bytes_alternate]
    rw [Hashing.content_hex, Hex.decodeBytes_of_firstFault heven (firstFault_alternate digest)]
    rfl

end KeyDigest.Digest
