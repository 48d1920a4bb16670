import KeyDigest.Digest.Json
import KeyDigest.Proofs.Digest.Spelling
import KeyDigest.Proofs.Json.Literal

/-! # Digests in documents

Which documents hold a digest, and which fail for the digest that they would hold.  Both are said of
the grammar of string literals: there are blanks, a literal and more blanks, and the text that the
literal stands for is what the reader of digests gets.  That text is judged before anything behind
the literal is looked at, so when it gives no digest, what follows may be anything; but the literal
itself has to end.

A character of a digest may stand for itself or be written by its number, and its case does not
matter.  `Respelled` collects all these ways to write a digest between quotes.
-/

namespace KeyDigest.Digest

open Json Json.Grammar

/-! ## Documents with a literal -/

section Literals

variable {document text : String} {before literal rest : List Char}

/-- A document that begins with a literal is scanned up to the end of it. -/
theorem ofDocument_of_literal (hdocument : document.toList = before ++ literal ++ rest)
    (hbefore : Blanks before) (hliteral : Literal literal text) :
    ofDocument document = do
      let digest ← (ofText text).mapError .data
      (Scan.finish rest).mapError .text
      return digest := by
  obtain ⟨body, hbody, rfl⟩ := hliteral
  have hskip : Scan.skipBlanks document.toList = '"' :: (body ++ '"' :: rest) := by
    rw [hdocument, List.append_assoc, Scan.skipBlanks_append hbefore]
    simp [Scan.skipBlanks, Scan.isBlank]
  have hscan : Scan.literal (body ++ '"' :: rest) = .ok (text, rest) :=
    Scan.literal_eq_ok_iff.mpr ⟨body, hbody, rfl⟩
  rw [ofDocument, hskip]
  simp only [hscan]
  rfl

theorem ofDocument_of_parse_error (hdocument : document.toList = before ++ literal ++ rest)
    (hbefore : Blanks before) (hliteral : Literal literal text) {error : DigestError}
    (hparse : parse text = .error error) :
    ofDocument document = .error (.data (.digest error)) := by
  rw [ofDocument_of_literal hdocument hbefore hliteral, ofText, hparse]
  rfl

/-- What follows the literal is looked at only when its text gives a digest. -/
theorem ofDocument_of_parse_ok (hdocument : document.toList = before ++ literal ++ rest)
    (hbefore : Blanks before) (hliteral : Literal literal text) {digest : Digest}
    (hparse : parse text = .ok digest) :
    ofDocument document = ((Scan.finish rest).mapError .text).map fun _ => digest := by
  rw [ofDocument_of_literal hdocument hbefore hliteral, ofText, hparse]
  cases Scan.finish rest <;> rfl

end Literals

/-- A document that begins with no literal fails, and not for the text of one. -/
theorem exists_literal_or_error (document : String) :
    (∃ before literal rest text, document.toList = before ++ literal ++ rest ∧ Blanks before ∧
      Literal literal text) ∨
    ∃ error, ofDocument document = .error error ∧ ∀ reason, error ≠ .data (.digest reason) := by
  obtain ⟨before, hbefore, hdocument⟩ := Scan.exists_blanks document.toList
  by_cases hquote : ∃ rest, Scan.skipBlanks document.toList = '"' :: rest
  · obtain ⟨rest, hskip⟩ := hquote
    cases hscan : Scan.literal rest with
    | ok read =>
      obtain ⟨text, rest⟩ := read
      obtain ⟨body, hbody, rfl⟩ := Scan.literal_eq_ok_iff.mp hscan
      refine .inl ⟨before, '"' :: body ++ ['"'], rest, text, ?_, hbefore, body, hbody, rfl⟩
      rw [hdocument, hskip]
      simp
    | error fault =>
      refine .inr ⟨.text fault, ?_, nofun⟩
      rw [ofDocument, hskip]
      simp only [hscan]
      rfl
  -- Without a quote in front there is no literal, and the error names what stands there instead.
  · refine .inr ?_
    rw [ofDocument]
    split
    · rename_i rest hskip
      exact absurd ⟨rest, hskip⟩ hquote
    · cases Scan.foundAt (Scan.skipBlanks document.toList) with
      | ok found => exact ⟨.data (.invalidType found .string), rfl, nofun⟩
      | error fault => exact ⟨.text fault, rfl, nofun⟩

theorem ofDocument_eq_ok_iff {document : String} {digest : Digest} :
    ofDocument document = .ok digest ↔
      ∃ before literal after text, document.toList = before ++ literal ++ after ∧
        Blanks before ∧ Blanks after ∧ Literal literal text ∧ parse text = .ok digest := by
  constructor
  · intro h
    obtain ⟨before, literal, rest, text, hdocument, hbefore, hliteral⟩ | ⟨error, herror, -⟩ :=
      exists_literal_or_error document
    · cases hparse : parse text with
      | ok other =>
        rw [ofDocument_of_parse_ok hdocument hbefore hliteral hparse, map_eq_ok_iff] at h
        obtain ⟨_, hfinish, rfl⟩ := h
        rw [mapError_eq_ok_iff, Scan.finish_eq_ok_iff] at hfinish
        exact ⟨before, literal, rest, text, hdocument, hbefore, hfinish, hliteral, hparse⟩
      | error reason =>
        rw [ofDocument_of_parse_error hdocument hbefore hliteral hparse] at h
        cases h
    · rw [herror] at h
      cases h
  · rintro ⟨before, literal, after, text, hdocument, hbefore, hafter, hliteral, hparse⟩
    rw [ofDocument_of_parse_ok hdocument hbefore hliteral hparse, Scan.finish_eq_ok_iff.mpr hafter]
    rfl

theorem ofDocument_eq_error_iff {document : String} {error : DigestError} :
    ofDocument document = .error (.data (.digest error)) ↔
      ∃ before literal rest text, document.toList = before ++ literal ++ rest ∧
        Blanks before ∧ Literal literal text ∧ parse text = .error error := by
  constructor
  · intro h
    obtain ⟨before, literal, rest, text, hdocument, hbefore, hliteral⟩ | ⟨other, herror, hother⟩ :=
      exists_literal_or_error document
    · cases hparse : parse text with
      | ok digest =>
        rw [ofDocument_of_parse_ok hdocument hbefore hliteral hparse, map_eq_error_iff,
          mapError_eq_error_iff] at h
        obtain ⟨fault, -, hfault⟩ := h
        cases hfault
      | error reason =>
        rw [ofDocument_of_parse_error hdocument hbefore hliteral hparse] at h
        cases h
        exact ⟨before, literal, rest, text, hdocument, hbefore, hliteral, hparse⟩
    · rw [herror] at h
      exact absurd (Except.error.inj h) (hother error)
  · rintro ⟨before, literal, rest, text, hdocument, hbefore, hliteral, hparse⟩
    exact ofDocument_of_parse_error hdocument hbefore hliteral hparse

-- The text of the literal has two characters, and the bracket behind it is never reached.
example : ofDocument "\"\\u0030f\" ]" = .error (.data (.digest (.length 2))) := by decide +kernel

/-! ## Respelled digests -/

/-- A text written between quotes, where each character stands for itself or is written by its
number, and either way may change its case. -/
inductive Respelled : List Char → List Char → Prop where
  | nil : Respelled [] []
  | plain {c spelled : Char} {written text : List Char} :
      spelled.toLower = c → Respelled written text → Respelled (spelled :: written) (c :: text)
  | numbered {c spelled : Char} {digits written text : List Char} :
      spelled.toLower = c → HexUnit digits spelled.toNat → Respelled written text →
      Respelled ('\\' :: 'u' :: digits ++ written) (c :: text)

/-- A character that is a digit in either case needs no escape. -/
theorem plain_of_toLower {c : Char} (h : c.toLower ∈ Hex.lowercase) :
    c ≠ '"' ∧ c ≠ '\\' ∧ 0x20 ≤ c.toNat := by
  obtain ⟨hascii, hdigit⟩ := Hex.isDigit_of_toLower h
  have hsame : c.toUInt8.toNat = c.toNat := Nat.mod_eq_of_lt (Nat.lt_trans hascii (by decide))
  rw [Hex.IsDigit, hsame] at hdigit
  refine ⟨?_, ?_, by omega⟩
  · rintro rfl
    exact absurd hdigit (by decide)
  · rintro rfl
    exact absurd hdigit (by decide)

/-- A respelling is the body of a literal for the same text in another case. -/
theorem Respelled.exists_body {written text : List Char} (h : Respelled written text)
    (hdigits : ∀ c ∈ text, c ∈ Hex.lowercase) :
    ∃ spelling, Body written spelling ∧ spelling.map Char.toLower = text := by
  induction h with
  | nil => exact ⟨[], .nil, rfl⟩
  | @plain c spelled written text hcase _ ih =>
    obtain ⟨hc, htext⟩ := List.forall_mem_cons.mp hdigits
    obtain ⟨spelling, hbody, rfl⟩ := ih htext
    obtain ⟨hquote, hbackslash, hseen⟩ := plain_of_toLower (hcase ▸ hc)
    exact ⟨spelled :: spelling, .plain hquote hbackslash hseen hbody, by rw [List.map_cons, hcase]⟩
  | @numbered c spelled digits written text hcase hunit _ ih =>
    obtain ⟨hc, htext⟩ := List.forall_mem_cons.mp hdigits
    obtain ⟨spelling, hbody, rfl⟩ := ih htext
    have hascii : spelled.toNat < 128 := (Hex.isDigit_of_toLower (hcase ▸ hc)).1
    have hescape : Escape ('u' :: digits) spelled := by
      rw [← Char.ofNat_toNat spelled]
      exact .unit hunit (by omega)
    exact ⟨spelled :: spelling, .escape hescape hbody, by rw [List.map_cons, hcase]⟩

theorem ofDocument_of_respelled {digest : Digest} {before body after : List Char}
    (hbefore : Blanks before) (hafter : Blanks after)
    (hbody : Respelled body digest.toHex.toList) :
    ofDocument (String.ofList (before ++ ('"' :: body ++ ['"']) ++ after)) = .ok digest := by
  obtain ⟨spelling, hliteral, hcase⟩ := hbody.exists_body fun c => mem_lowercase_of_mem_toHex
  refine ofDocument_eq_ok_iff.mpr ⟨before, '"' :: body ++ ['"'], after, String.ofList spelling,
    String.toList_ofList, hbefore, hafter, ⟨body, ?_, rfl⟩, ?_⟩
  · rwa [String.toList_ofList]
  · rw [parse_eq_ok_iff]
    apply String.toList_inj.mp
    rw [Hex.toList_toLower, String.toList_ofList, hcase]

/-! ## Both outcomes -/

/-- A document holds a digest just when it is a literal for a text of it, with nothing but blanks
around; and it fails for the reason that a text gives no digest just when it begins with a literal
for that text.  So the string that is written for a digest may be respelled. -/
theorem ofDocument_reads_literals :
    (∀ document digest, ofDocument document = .ok digest ↔
      ∃ before literal after text, document.toList = before ++ literal ++ after ∧
        Blanks before ∧ Blanks after ∧ Literal literal text ∧ parse text = .ok digest) ∧
    (∀ document error, ofDocument document = .error (.data (.digest error)) ↔
      ∃ before literal rest text, document.toList = before ++ literal ++ rest ∧
        Blanks before ∧ Literal literal text ∧ parse text = .error error) ∧
    (∀ error, (ReadError.digest error).message = error.message) ∧
    ∀ digest : Digest,
      digest.toJson.write.toList = '"' :: digest.toHex.toList ++ ['"'] ∧
      ∀ before body after, Blanks before → Blanks after → Respelled body digest.toHex.toList →
        ofDocument (String.ofList (before ++ ('"' :: body ++ ['"']) ++ after)) = .ok digest := by
  refine ⟨fun _ _ => ofDocument_eq_ok_iff, fun _ _ => ofDocument_eq_error_iff, fun _ => rfl,
    fun digest => ⟨?_, fun _ _ _ => ofDocument_of_respelled⟩⟩
  rw [write_toJson]
  simp

end KeyDigest.Digest
