import KeyDigest.Proofs.Log.Accounting
import KeyDigest.Proofs.Text.Shown

/-! # Errors told apart

An error can be known from every text that is made of it: from its message, and from its shown form
on one line or spread out.  The texts of different kinds of error open in different ways.  Within a
kind, the character comes first, between quotes that it cannot imitate, and the number last.  All
three texts are made on this one plan, so what it gives away is proved once for each type of error.

Whoever passes on nothing but the message of an error, as the readers of data and the log do,
therefore passes on the error.
-/

namespace KeyDigest

open Text Log

/-! ## Faults of hexadecimal texts -/

namespace HexError

/-- A text that opens in its own way for a bad character, and then has the character quoted before
the index, is the text of one fault only. -/
theorem text_inj_of_plan (text : HexError → String) {opening between closing : String}
    (hcharacter : ∀ c index, text (invalidCharacter c index) =
      opening ++ (quotedChar c ++ (between ++ (toString index ++ closing))))
    (hodd : Apart (text oddLength) opening) (hwrong : Apart (text wrongLength) opening)
    (hne : text oddLength ≠ text wrongLength) {a b : HexError} : text a = text b ↔ a = b := by
  refine ⟨fun h => ?_, congrArg text⟩
  cases a with
  | oddLength =>
    cases b with
    | oddLength => rfl
    | wrongLength => exact absurd h hne
    | invalidCharacter d j =>
      rw [hcharacter] at h
      exact absurd h (hodd.ne_append _)
  | wrongLength =>
    cases b with
    | oddLength => exact absurd h.symm hne
    | wrongLength => rfl
    | invalidCharacter d j =>
      rw [hcharacter] at h
      exact absurd h (hwrong.ne_append _)
  | invalidCharacter c i =>
    rw [hcharacter] at h
    cases b with
    | oddLength => exact absurd h.symm (hodd.ne_append _)
    | wrongLength => exact absurd h.symm (hwrong.ne_append _)
    | invalidCharacter d j =>
      -- A quoted character shows where it ends, so what stands behind it is the same as well.
      rw [hcharacter, String.append_right_inj] at h
      obtain ⟨rfl, hindex⟩ := quotedChar_append_inj h
      rw [String.append_right_inj, String.append_left_inj, toString_inj] at hindex
      rw [hindex]

theorem message_invalidCharacter (c : Char) (index : Nat) :
    (invalidCharacter c index).message =
      "Invalid character " ++ (quotedChar c ++ (" at position " ++ (toString index ++ ""))) := by
  show "Invalid character " ++ quotedChar c ++ " at position " ++ toString index = _
  rw [String.append_empty, String.append_assoc, String.append_assoc]

theorem message_inj {a b : HexError} : a.message = b.message ↔ a = b :=
  text_inj_of_plan message message_invalidCharacter (by decide) (by decide) (by decide)

theorem line_invalidCharacter (c : Char) (index : Nat) :
    (invalidCharacter c index).shown.render false =
      "InvalidHexCharacter \x7b c: " ++
        (quotedChar c ++ (", index: " ++ (toString index ++ " \x7d"))) := by
  generalize hquoted : quotedChar c = quoted
  generalize hnumeral : toString index = numeral
  simp [shown, Shown.render, Shown.record, Shown.joined, Shown.field, Shown.atom, hquoted,
    hnumeral, ← String.toList_inj]

theorem lines_invalidCharacter (c : Char) (index : Nat) :
    (invalidCharacter c index).shown.render true =
      "InvalidHexCharacter \x7b\n    c: " ++
        (quotedChar c ++ (",\n    index: " ++ (toString index ++ ",\n\x7d"))) := by
  generalize hquoted : quotedChar c = quoted
  generalize hnumeral : toString index = numeral
  simp [shown, Shown.render, Shown.record, Shown.spread, Shown.partLines, Shown.field, Shown.atom,
    hquoted, hnumeral, ← String.toList_inj]

theorem render_shown_inj (spreadOut : Bool) {a b : HexError} :
    a.shown.render spreadOut = b.shown.render spreadOut ↔ a = b := by
  cases spreadOut with
  | false =>
    exact text_inj_of_plan (fun error => error.shown.render false) line_invalidCharacter
      (by decide) (by decide) (by decide)
  | true =>
    exact text_inj_of_plan (fun error => error.shown.render true) lines_invalidCharacter
      (by decide) (by decide) (by decide)

theorem unbroken_shown (error : HexError) : error.shown.Unbroken := by
  cases error with
  | oddLength => exact Shown.unbroken_atom (by decide)
  | wrongLength => exact Shown.unbroken_atom (by decide)
  | invalidCharacter c index =>
    refine Shown.unbroken_record (by decide) ?_
    simp only [List.forall_mem_cons]
    refine ⟨Shown.unbroken_field (by decide) (Shown.unbroken_atom ?_),
      Shown.unbroken_field (by decide) (Shown.unbroken_atom (not_mem_toString (by decide) index)),
      List.forall_mem_nil _⟩
    rw [quotedChar, String.toList_ofList]
    exact newline_not_mem_enclose (by decide) [c]

end HexError

/-! ## Errors -/

namespace DigestError

theorem message_encoding (reason : HexError) :
    (encoding reason).message = "invalid hex encoding: " ++ reason.message := rfl

theorem message_length (n : Nat) :
    (length n).message =
      "invalid digest length: expected 40 hex characters, got " ++ toString n := rfl

theorem message_inj {a b : DigestError} : a.message = b.message ↔ a = b := by
  refine ⟨fun h => ?_, congrArg message⟩
  have hapart : Apart "invalid hex encoding: "
      "invalid digest length: expected 40 hex characters, got " := by decide
  cases a with
  | encoding reason =>
    rw [message_encoding] at h
    cases b with
    | encoding reason' =>
      rw [message_encoding, String.append_right_inj, HexError.message_inj] at h
      rw [h]
    | length n =>
      rw [message_length] at h
      exact absurd h (hapart.append_ne_append _ _)
  | length m =>
    rw [message_length] at h
    cases b with
    | encoding reason =>
      rw [message_encoding] at h
      exact absurd h (hapart.symm.append_ne_append _ _)
    | length n =>
      rw [message_length, String.append_right_inj, toString_inj] at h
      rw [h]

theorem render_shown_inj (spreadOut : Bool) {a b : DigestError} :
    a.shown.render spreadOut = b.shown.render spreadOut ↔ a = b := by
  refine ⟨fun h => ?_, fun h => h ▸ rfl⟩
  have hapart : Apart "InvalidEncoding" "InvalidLength" := by decide
  have hnumeral (n : Nat) : (Shown.atom (toString n)).Unbroken :=
    Shown.unbroken_atom (not_mem_toString (by decide) n)
  cases a with
  | encoding reason =>
    have hreason := reason.unbroken_shown
    cases b with
    | encoding reason' =>
      rw [shown, shown, Shown.render_applied_inj hreason reason'.unbroken_shown,
        HexError.render_shown_inj] at h
      rw [h]
    | length n => exact absurd h (Shown.render_applied_ne hapart hreason (hnumeral n) spreadOut)
  | length m =>
    cases b with
    | encoding reason =>
      exact absurd h
        (Shown.render_applied_ne hapart.symm (hnumeral m) reason.unbroken_shown spreadOut)
    | length n =>
      rw [shown, shown, Shown.render_applied_inj (hnumeral m) (hnumeral n), Shown.render_atom,
        Shown.render_atom, toString_inj] at h
      rw [h]

theorem source?_eq_some_iff {error : DigestError} {reason : HexError} :
    error.source? = some reason ↔ error = .encoding reason := by
  cases error <;> simp [source?]

end DigestError

/-! ## Errors passed on -/

theorem rejectedLine_inj {m n : Nat} {r s : String} :
    rejectedLine m r = rejectedLine n s ↔ m = n ∧ r = s := by
  constructor
  · intro h
    rw [rejectedLine_eq, rejectedLine_eq, String.append_right_inj] at h
    have hlist : (toString m).toList ++ ':' :: ' ' :: r.toList =
        (toString n).toList ++ ':' :: ' ' :: s.toList := by
      have htext := congrArg String.toList h
      rwa [String.toList_append, String.toList_append, String.toList_append,
        String.toList_append] at htext
    -- No digit of the length is a colon, so the length ends where the first one stands.
    obtain ⟨hlength, hrest⟩ := append_cons_inj (not_mem_toString (by decide) m)
      (not_mem_toString (by decide) n) hlist
    rw [String.toList_inj, toString_inj] at hlength
    exact ⟨hlength, String.toList_inj.mp (List.cons.inj hrest).2⟩
  · rintro ⟨rfl, rfl⟩
    rfl

/-- What a refused text leaves in the log. -/
theorem records_content_of_error {text : String} {error : DigestError} {threshold : Threshold}
    (hadmits : threshold.admits .debug = true)
    (h : (Hashing.content (.hex text)).run.value threshold = .error error) :
    ∃ reason, error = .encoding reason ∧ (Hashing.content (.hex text)).run.records threshold =
      [.rejected (Utf8.bytes text).length reason] := by
  rw [Hashing.value_content, mapError_eq_error_iff] at h
  obtain ⟨reason, hcontent, rfl⟩ := h
  refine ⟨reason, rfl, ?_⟩
  have hrecord : threshold.admits
      (Record.rejected (Utf8.bytes text).length reason).level = true := hadmits
  rw [Hashing.content, hcontent]
  show (Traced.report (.rejected (Utf8.bytes text).length reason)).records threshold ++ [] ++ [] = _
  rw [Traced.records_report, if_pos hrecord]
  rfl

theorem mapError_message_ofText (text : String) :
    (Digest.ofText text).mapError ReadError.message =
      (Digest.parse text).mapError DigestError.message := by
  rw [Digest.ofText]
  cases Digest.parse text <;> rfl

/-- No two errors read alike, as they are or as they are passed on. -/
theorem errors_told_apart :
    (∀ a b : DigestError,
      (a = b ↔ a.message = b.message) ∧
      (a = b ↔ a.shown.render false = b.shown.render false) ∧
      (a = b ↔ a.shown.render true = b.shown.render true)) ∧
    (∀ (error : DigestError) (reason : HexError),
      error.source? = some reason ↔ error = .encoding reason) ∧
    (∀ reason : HexError,
      (DigestError.encoding reason).message = "invalid hex encoding: " ++ reason.message) ∧
    (∀ s t : String,
      (Digest.ofText s).mapError ReadError.message = (Digest.ofText t).mapError ReadError.message ↔
        Digest.parse s = Digest.parse t) ∧
    ∀ (s t : String) (e f : DigestError) (threshold : Threshold),
      threshold.admits .debug = true →
      (Hashing.content (.hex s)).run.value threshold = .error e →
      (Hashing.content (.hex t)).run.value threshold = .error f →
      (((Hashing.content (.hex s)).run.records threshold).map Record.line =
          ((Hashing.content (.hex t)).run.records threshold).map Record.line ↔
        (Utf8.bytes s).length = (Utf8.bytes t).length ∧ e = f) := by
  refine ⟨fun a b => ⟨DigestError.message_inj.symm, (DigestError.render_shown_inj false).symm,
      (DigestError.render_shown_inj true).symm⟩,
    fun _ _ => DigestError.source?_eq_some_iff, DigestError.message_encoding, fun s t => ?_,
    fun s t e f threshold hadmits hs ht => ?_⟩
  · rw [mapError_message_ofText, mapError_message_ofText]
    cases Digest.parse s with
    | ok d => cases Digest.parse t <;> simp [Except.mapError]
    | error e => cases Digest.parse t <;> simp [Except.mapError, DigestError.message_inj]
  · obtain ⟨reason, rfl, hrecords⟩ := records_content_of_error hadmits hs
    obtain ⟨reason', rfl, hrecords'⟩ := records_content_of_error hadmits ht
    rw [hrecords, hrecords', List.map_singleton, List.map_singleton, List.singleton_inj,
      line_rejected, line_rejected, rejectedLine_inj, HexError.message_inj,
      DigestError.encoding.injEq]

/-- The same character at two places of texts of the same length. -/
theorem errors_told_apart_by_index :
    (Threshold.upTo .debug).admits .debug = true ∧
      (Hashing.content (.hex "zz")).run.value (.upTo .debug) =
        .error (.encoding (.invalidCharacter 'z' 0)) ∧
      (Hashing.content (.hex "0z")).run.value (.upTo .debug) =
        .error (.encoding (.invalidCharacter 'z' 1)) ∧
      ((Hashing.content (.hex "zz")).run.records (.upTo .debug)).map Record.line ≠
        ((Hashing.content (.hex "0z")).run.records (.upTo .debug)).map Record.line := by
  have hfirst : (Hashing.content (.hex "zz")).run.value (.upTo .debug) =
      .error (.encoding (.invalidCharacter 'z' 0)) := rfl
  have hsecond : (Hashing.content (.hex "0z")).run.value (.upTo .debug) =
      .error (.encoding (.invalidCharacter 'z' 1)) := rfl
  refine ⟨rfl, hfirst, hsecond, fun hlines => ?_⟩
  have htold := errors_told_apart.2.2.2.2 "zz" "0z" _ _ (.upTo .debug) rfl hfirst hsecond
  exact absurd (htold.mp hlines).2 (by decide)

end KeyDigest
