import KeyDigest.Digest.Json
import KeyDigest.Proofs.Digest.Document
import KeyDigest.Proofs.Text.Utf8

/-! # Digests in single values

However a text is handed over, it is read as `parse` reads it.  Bytes are handed over as a text only
if they are the encoding of one, and that is judged before their number or any digit.  It never
stands in the way of a digest: forty digits are always the encoding of a text.  A character is a
text of at most four bytes, which is too short for a digest, and no other value is a text at all.
-/

namespace KeyDigest.Digest

open Json Json.Grammar

/-- What is accepted are forty digits, and the digest is what their pairs are worth. -/
theorem parse_eq_ok_iff_digits {text : String} {digest : Digest} :
    parse text = .ok digest ↔ (Utf8.bytes text).length = 40 ∧
      (∀ digit ∈ Utf8.bytes text, Hex.IsDigit digit) ∧
      digest.toList = Hex.pairBytes (Utf8.bytes text) := by
  rw [parse_eq_ok_iff_decodeBytes]
  refine and_congr_right fun hlength => ⟨fun h => ?_, fun ⟨hdigits, hdigest⟩ => ?_⟩
  · obtain ⟨-, hdigits, hdigest⟩ := Hex.decodeBytes_eq_ok h
    exact ⟨hdigits, hdigest⟩
  · rw [Hex.decodeBytes_of_digits (by omega) hdigits, hdigest]

/-! ## Bytes -/

theorem ofScalar_bytes (text : String) : ofScalar (.bytes (Utf8.bytes text)) = ofText text := by
  have htext : Utf8.text? (Utf8.bytes text) = some text := Utf8.text?_eq_some_iff.mpr rfl
  simp only [ofScalar, htext]

theorem ofScalar_bytes_of_not_text {encoded : List UInt8}
    (h : ∀ text, Utf8.bytes text ≠ encoded) : ofScalar (.bytes encoded) = .error .invalidBytes := by
  have htext : Utf8.text? encoded = none := Utf8.text?_eq_none_iff.mpr h
  simp only [ofScalar, htext]

theorem exists_text_of_digits {encoded : List UInt8} (h : ∀ digit ∈ encoded, Hex.IsDigit digit) :
    ∃ text, Utf8.bytes text = encoded :=
  ⟨_, Utf8.bytes_ofList_map_ofUInt8 fun digit hdigit => Hex.toNat_lt_of_isDigit (h digit hdigit)⟩

theorem ofScalar_bytes_eq_ok_iff {encoded : List UInt8} {digest : Digest} :
    ofScalar (.bytes encoded) = .ok digest ↔ encoded.length = 40 ∧
      (∀ digit ∈ encoded, Hex.IsDigit digit) ∧ digest.toList = Hex.pairBytes encoded := by
  -- Digits are ASCII, so what is no text at all is not forty digits either.
  by_cases htext : ∃ text, Utf8.bytes text = encoded
  · obtain ⟨text, rfl⟩ := htext
    rw [ofScalar_bytes, ofText_eq_ok_iff, parse_eq_ok_iff_digits]
  · rw [ofScalar_bytes_of_not_text fun text h => htext ⟨text, h⟩]
    exact ⟨nofun, fun ⟨_, hdigits, _⟩ => absurd (exists_text_of_digits hdigits) htext⟩

/-! ## Characters -/

theorem ofScalar_character (c : Char) :
    ofScalar (.character c) = .error (.digest (.length c.utf8Size)) := by
  have hlength := Utf8.length_bytes_singleton c
  have hshort : (Utf8.bytes (String.singleton c)).length ≠ 2 * digestSize := by
    rw [hlength]
    exact Nat.ne_of_lt (Nat.lt_of_le_of_lt c.utf8Size_le_four (by decide))
  rw [ofScalar, ofText, parse_of_length_ne hshort, hlength]
  rfl

/-! ## Documents -/

theorem ofDocument_eq_parse {document text : String} {before literal after : List Char}
    (hdocument : document.toList = before ++ literal ++ after) (hbefore : Blanks before)
    (hafter : Blanks after) (hliteral : Literal literal text) :
    ofDocument document = (parse text).mapError fun error => .data (.digest error) := by
  cases hparse : parse text with
  | ok digest =>
    rw [ofDocument_of_parse_ok hdocument hbefore hliteral hparse,
      Scan.finish_eq_ok_iff.mpr hafter]
    rfl
  | error error =>
    rw [ofDocument_of_parse_error hdocument hbefore hliteral hparse]
    rfl

/-! ## All values -/

theorem ofJson_of_ne_string {value : Json} (h : ∀ text, value ≠ .string text) :
    ofJson value = .error (.invalidType value.found .string) := by
  cases value with
  | string text => exact absurd rfl (h text)
  | null | bool _ | number _ | list _ | object _ => rfl

/-- Every way to hand over a text ends as parsing it does, and every other value is refused for what
it is.  Bytes give a digest just when they are forty digits. -/
theorem values_read_as_texts :
    (∀ (encoded : List UInt8) (digest : Digest), ofScalar (.bytes encoded) = .ok digest ↔
      encoded.length = 40 ∧ (∀ digit ∈ encoded, Hex.IsDigit digit) ∧
        digest.toList = Hex.pairBytes encoded) ∧
    (∀ encoded : List UInt8, (∀ text, Utf8.bytes text ≠ encoded) →
      ofScalar (.bytes encoded) = .error .invalidBytes) ∧
    ReadError.invalidBytes.message = "invalid value: byte array, expected a string" ∧
    (∀ text : String, ∀ outcome ∈ [ofScalar (.bytes (Utf8.bytes text)), ofScalar (.text text),
        ofScalar (.ownedText text), ofJson (.string text)],
      outcome = (parse text).mapError .digest) ∧
    (∀ (document text : String) (before literal after : List Char),
      document.toList = before ++ literal ++ after → Blanks before → Blanks after →
        Literal literal text →
          ofDocument document = (parse text).mapError fun error => .data (.digest error)) ∧
    (∀ error, (ReadError.digest error).message = error.message) ∧
    (∀ c : Char, ofScalar (.character c) = .error (.digest (.length c.utf8Size))) ∧
    ofScalar .unit = .error (.invalidType .unit .string) ∧
    (∀ value, ofScalar (.boolean value) = .error (.invalidType (.boolean value) .string)) ∧
    (∀ value, ofScalar (.unsigned value) = .error (.invalidType (.integer value.toNat) .string)) ∧
    (∀ value, ofScalar (.signed value) = .error (.invalidType (.integer value.toInt) .string)) ∧
    ∀ value : Json, (∀ text, value ≠ .string text) →
      ofJson value = .error (.invalidType value.found .string) := by
  refine ⟨fun _ _ => ofScalar_bytes_eq_ok_iff, fun _ => ofScalar_bytes_of_not_text, rfl,
    fun text => ?_, fun _ _ _ _ _ => ofDocument_eq_parse, fun _ => rfl, ofScalar_character, rfl,
    fun _ => rfl, fun _ => rfl, fun _ => rfl, fun _ => ofJson_of_ne_string⟩
  rw [ofScalar_bytes]
  simp only [List.forall_mem_cons]
  exact ⟨rfl, rfl, rfl, rfl, List.forall_mem_nil _⟩

/-- Forty bytes, all but the last of them digits. -/
theorem values_read_as_texts_invalid :
    (∀ text, Utf8.bytes text ≠ List.replicate 39 0x30 ++ [0xFF]) ∧
      ofScalar (.bytes (List.replicate 39 0x30 ++ [0xFF])) = .error .invalidBytes := by
  have hinvalid : ∀ text, Utf8.bytes text ≠ List.replicate 39 0x30 ++ [0xFF] :=
    Utf8.text?_eq_none_iff.mp (by decide)
  exact ⟨hinvalid, values_read_as_texts.2.1 _ hinvalid⟩

end KeyDigest.Digest
