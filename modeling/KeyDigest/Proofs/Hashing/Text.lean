import KeyDigest.Hashing
import KeyDigest.Proofs.Collection.Traversal
import KeyDigest.Proofs.Hex.Inverse
import KeyDigest.Proofs.Hex.Reading

/-! # Hashing hexadecimal texts

Which texts are hashed, and as what.  The outcome of every text is fixed by its bytes: an odd
number of them is refused before any is looked at, then the first that is no digit is, and all
other texts hash as the bytes that their pairs of digits are worth.  The three ways to hash a text
agree on all of this.
-/

namespace KeyDigest.Hashing

open Log

/-! ## Texts as key data -/

/-- How a text comes out as key data, from how its bytes are read. -/
theorem content_hex (text : String) (threshold : Threshold) :
    (content (.hex text)).run.value threshold =
      ((Hex.decodeBytes (Utf8.bytes text)).map Content.decoded).mapError .encoding := by
  rw [value_content, Preimage.content, Hex.decode]

theorem decodeBytes_of_content_ok {text : String} {threshold : Threshold} {given : Content}
    (h : (content (.hex text)).run.value threshold = .ok given) :
    Hex.decodeBytes (Utf8.bytes text) = .ok given.bytes := by
  rw [content_hex, mapError_eq_ok_iff, map_eq_ok_iff] at h
  obtain ⟨bytes, hread, rfl⟩ := h
  exact hread

theorem decodeBytes_of_content_error {text : String} {threshold : Threshold} {error : DigestError}
    (h : (content (.hex text)).run.value threshold = .error error) :
    ∃ reason, Hex.decodeBytes (Utf8.bytes text) = .error reason ∧ error = .encoding reason := by
  rw [content_hex, mapError_eq_error_iff] at h
  obtain ⟨reason, hread, rfl⟩ := h
  exact ⟨reason, map_eq_error_iff.mp hread, rfl⟩

/-! ## Hashing -/

/-- The ways to hash a text end alike: in the digest of the bytes that the outcome gives, as the
byte entry points compute it, or in the outcome's error. -/
structure TextEnds (text : String) (threshold : Threshold)
    (outcome : Except DigestError (List UInt8)) : Prop where
  digest_eq : (digestPreimage (.hex text)).run.value threshold =
    outcome.map fun message => (digest message).value threshold
  preimage_eq : (hexOfPreimage (.hex text)).run.value threshold =
    outcome.map fun message => (hexOfBytes message).value threshold
  text_eq : (hexOfText text).run.value threshold =
    outcome.map fun message => (hexOfBytes message).value threshold

theorem textEnds_decode (text : String) (threshold : Threshold) :
    TextEnds text threshold ((Hex.decode text).mapError .encoding) := by
  constructor
  · rw [value_digestPreimage, value_content, Preimage.content]
    cases Hex.decode text <;> rfl
  · rw [value_hexOfPreimage, value_digestPreimage, value_content, Preimage.content]
    cases Hex.decode text <;> rfl
  · rw [hexOfText_eq, value_hexOfPreimage, value_digestPreimage, value_content, Preimage.content]
    cases Hex.decode text <;> rfl

/-- A digest is written with forty lowercase digits. -/
theorem hexOfBytes_lowercase (message : List UInt8) (threshold : Threshold) :
    ((hexOfBytes message).value threshold).toList.length = 40 ∧
      ∀ c ∈ ((hexOfBytes message).value threshold).toList, c ∈ Hex.lowercase := by
  rw [value_hexOfBytes, Digest.toHex]
  refine ⟨?_, fun c hc => Hex.mem_lowercase_of_mem_encode hc⟩
  rw [Hex.length_encode, Digest.length_toList]
  rfl

/-- What hashing a text comes to, for every text. -/
theorem textEnds_cases (text : String) (threshold : Threshold) :
    ((Utf8.bytes text).length % 2 = 1 →
      TextEnds text threshold (.error (.encoding .oddLength))) ∧
    ((Utf8.bytes text).length % 2 = 0 → (∃ byte ∈ Utf8.bytes text, ¬ Hex.IsDigit byte) →
      ∃ (index : Nat) (byte : UInt8) (c : Char), Hex.FirstFault (Utf8.bytes text) index byte ∧
        c.toNat = byte.toNat ∧
        TextEnds text threshold (.error (.encoding (.invalidCharacter c index)))) ∧
    ((Utf8.bytes text).length % 2 = 0 → (∀ digit ∈ Utf8.bytes text, Hex.IsDigit digit) →
      ∃ message : List UInt8, message.length = (Utf8.bytes text).length / 2 ∧
        (∀ (k : Nat) (high low : UInt8), (Utf8.bytes text)[2 * k]? = some high →
          (Utf8.bytes text)[2 * k + 1]? = some low →
          ∃ byte, message[k]? = some byte ∧
            byte.toNat = 16 * Hex.weight high + Hex.weight low) ∧
        TextEnds text threshold (.ok message) ∧
        (hexOfBytes message).value threshold =
          Hex.encode ((digest message).value threshold).toList ∧
        ((hexOfBytes message).value threshold).toList.length = 40 ∧
        ∀ c ∈ ((hexOfBytes message).value threshold).toList, c ∈ Hex.lowercase) ∧
    ∀ error : DigestError,
      (digestPreimage (.hex text)).run.value threshold = .error error ∨
        (hexOfPreimage (.hex text)).run.value threshold = .error error ∨
        (hexOfText text).run.value threshold = .error error →
      error = .encoding .oddLength ∨
        ∃ c index, error = .encoding (.invalidCharacter c index) := by
  have hends := textEnds_decode text threshold
  rw [Hex.decode] at hends
  refine ⟨fun hodd => ?_, fun heven hsome => ?_, fun heven hdigits => ?_, fun error herror => ?_⟩
  · rwa [Hex.decodeBytes_of_odd hodd] at hends
  · obtain hdigits | ⟨index, byte, hfault⟩ := Hex.digits_or_firstFault (Utf8.bytes text)
    · obtain ⟨bad, hmem, hbad⟩ := hsome
      exact absurd (hdigits bad hmem) hbad
    · rw [Hex.decodeBytes_of_firstFault heven hfault] at hends
      exact ⟨index, byte, Char.ofUInt8 byte, hfault, rfl, hends⟩
  · rw [Hex.decodeBytes_of_digits heven hdigits] at hends
    refine ⟨_, Hex.length_pairBytes _, fun k high low hhigh hlow => ?_, hends, rfl,
      hexOfBytes_lowercase _ threshold⟩
    have hpair := Hex.toNat_pair (hdigits high (List.mem_of_getElem? hhigh))
      (hdigits low (List.mem_of_getElem? hlow))
    exact ⟨_, Hex.getElem?_pairBytes hhigh hlow, hpair⟩
  -- An error can only come from the decoder, which gives it for the length or for a fault.
  · cases hdecode : Hex.decodeBytes (Utf8.bytes text) with
    | ok message =>
      rw [hdecode] at hends
      rw [hends.digest_eq, hends.preimage_eq, hends.text_eq] at herror
      obtain herror | herror | herror := herror <;> cases herror
    | error reason =>
      rw [hdecode] at hends
      rw [hends.digest_eq, hends.preimage_eq, hends.text_eq] at herror
      obtain rfl : error = .encoding reason := by
        obtain herror | herror | herror := herror <;> exact (Except.error.inj herror).symm
      obtain ⟨-, rfl⟩ | ⟨index, byte, -, -, rfl⟩ := Hex.decodeBytes_eq_error hdecode
      · exact .inl rfl
      · exact .inr ⟨_, _, rfl⟩

-- A character that is no digit is reported by its first byte.
example : (hexOfText "0é0").run.value .off = .error (.encoding (.invalidCharacter 'Ã' 1)) := rfl

end KeyDigest.Hashing
