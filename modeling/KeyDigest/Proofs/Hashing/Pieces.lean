import KeyDigest.Hashing
import KeyDigest.Proofs.Block.Absorbed
import KeyDigest.Proofs.Collection.Traversal
import KeyDigest.Proofs.Hashing.Text
import KeyDigest.Proofs.Hex.Reading

/-! # Hashing in slices and in pieces

Key data may be handed over in slices, which one SHA-256 engine takes one after another: the digest
depends on the message that they make up alone, and no bound on its length is needed, because the
engine counts every byte on either way.  A text may be cut into pieces of even length, so that no
pair of digits is torn; decoded piece by piece and hashed as slices it gives the digest of the
whole, and both refuse the same texts, the place of the fault counted from different starts.
-/

/-! ## Slices -/

namespace KeyDigest

open Log

theorem Digest.ofSlices_eq_ofMessage (slices : List (List UInt8)) :
    Digest.ofSlices slices = Digest.ofMessage slices.flatten := by
  rw [Digest.ofSlices, Digest.ofMessage, Sha256.sumSlices, Sha256.sum,
    BlockHash.sumSlices_eq_sum]

namespace Hashing

/-- Slices hash as their concatenation: the engine that takes them has absorbed it, SHA-256 and the
digest are those of it, and slices that are cut elsewhere in the same message give the same. -/
theorem digestSlices_eq_digest_flatten (slices : List (List UInt8)) (threshold : Threshold) :
    (slices.foldl Engine.absorb (Engine.start Sha256.hash)).Absorbed slices.flatten ∧
      Sha256.sumSlices slices = Sha256.sum slices.flatten ∧
      (digestSlices slices).value threshold = (digest slices.flatten).value threshold ∧
      ∀ others : List (List UInt8), others.flatten = slices.flatten →
        Sha256.sumSlices others = Sha256.sumSlices slices ∧
        (digestSlices others).value threshold = (digestSlices slices).value threshold := by
  have hsum (slices : List (List UInt8)) : Sha256.sumSlices slices = Sha256.sum slices.flatten :=
    Sha256.hash.sumSlices_eq_sum slices
  refine ⟨Engine.absorbed_slices Sha256.hash slices, hsum slices, ?_, fun others hsame => ⟨?_, ?_⟩⟩
  · rw [value_digestSlices, value_digest, Digest.ofSlices_eq_ofMessage]
  · rw [hsum others, hsum slices, hsame]
  · rw [value_digestSlices, value_digestSlices, Digest.ofSlices_eq_ofMessage,
      Digest.ofSlices_eq_ofMessage, hsame]

end Hashing

/-! ## Reading in pieces -/

/-- The error of a text behind `offset` bytes that were read without one. -/
def HexError.shift (offset : Nat) : HexError → HexError
  | .invalidCharacter c index => .invalidCharacter c (offset + index)
  | reason => reason

namespace Hex

theorem pairBytes_append {s : List UInt8} (h : s.length % 2 = 0) (t : List UInt8) :
    pairBytes (s ++ t) = pairBytes s ++ pairBytes t := by
  fun_induction pairBytes s with
  | case1 => rfl
  | case2 => cases h
  | case3 high low rest ih =>
    have heven : rest.length % 2 = 0 := by
      simp only [List.length_cons] at h
      omega
    rw [List.cons_append, List.cons_append, pairBytes, ih heven]
    rfl

theorem FirstFault.append {s : List UInt8} {index : Nat} {byte : UInt8}
    (h : FirstFault s index byte) (t : List UInt8) : FirstFault (s ++ t) index byte := by
  obtain ⟨hindex, hbyte⟩ := List.getElem?_eq_some_iff.mp h.getElem?_eq
  constructor
  · rw [List.getElem?_append_left hindex, h.getElem?_eq]
  · exact h.not_isDigit
  · rw [List.take_append_of_le_length (by omega)]
    exact h.isDigit_before

theorem FirstFault.append_digits {t : List UInt8} {index : Nat} {byte : UInt8}
    (h : FirstFault t index byte) {s : List UInt8} (hs : ∀ digit ∈ s, IsDigit digit) :
    FirstFault (s ++ t) (s.length + index) byte := by
  induction s with
  | nil => simpa using h
  | cons digit s ih =>
    obtain ⟨hdigit, hs⟩ := List.forall_mem_cons.mp hs
    have hindex : (digit :: s).length + index = s.length + index + 1 := by
      rw [List.length_cons]
      omega
    rw [hindex]
    exact (ih hs).cons hdigit

/-! ### Two pieces -/

theorem decodeBytes_append_of_ok {s bytes : List UInt8} (hs : decodeBytes s = .ok bytes)
    {t : List UInt8} (ht : t.length % 2 = 0) :
    decodeBytes (s ++ t) =
      ((decodeBytes t).map (bytes ++ ·)).mapError (HexError.shift s.length) := by
  obtain ⟨heven, hdigits, rfl⟩ := decodeBytes_eq_ok hs
  have hwhole : (s ++ t).length % 2 = 0 := by
    rw [List.length_append]
    omega
  obtain hrest | ⟨index, byte, hfault⟩ := digits_or_firstFault t
  · have hall : ∀ digit ∈ s ++ t, IsDigit digit := List.forall_mem_append.mpr ⟨hdigits, hrest⟩
    rw [decodeBytes_of_digits hwhole hall, decodeBytes_of_digits ht hrest, pairBytes_append heven]
    rfl
  · rw [decodeBytes_of_firstFault hwhole (hfault.append_digits hdigits),
      decodeBytes_of_firstFault ht hfault]
    rfl

theorem decodeBytes_append_of_error {s : List UInt8} {reason : HexError} (heven : s.length % 2 = 0)
    (hs : decodeBytes s = .error reason) {t : List UInt8} (ht : t.length % 2 = 0) :
    decodeBytes (s ++ t) = .error reason := by
  obtain ⟨hodd, -⟩ | ⟨index, byte, -, hfault, rfl⟩ := decodeBytes_eq_error hs
  · omega
  · have hwhole : (s ++ t).length % 2 = 0 := by
      rw [List.length_append]
      omega
    exact decodeBytes_of_firstFault hwhole (hfault.append t)

/-! ### Any number of pieces -/

theorem even_length_flatten {pieces : List (List UInt8)}
    (h : ∀ piece ∈ pieces, piece.length % 2 = 0) : pieces.flatten.length % 2 = 0 := by
  induction pieces with
  | nil => rfl
  | cons piece pieces ih =>
    obtain ⟨hpiece, hrest⟩ := List.forall_mem_cons.mp h
    have := ih hrest
    rw [List.flatten_cons, List.length_append]
    omega

theorem decodeBytes_flatten_of_ok {pieces contents : List (List UInt8)}
    (h : pieces.map decodeBytes = contents.map .ok) :
    decodeBytes pieces.flatten = .ok contents.flatten := by
  induction pieces generalizing contents with
  | nil =>
    cases contents with
    | nil => rfl
    | cons => cases h
  | cons piece pieces ih =>
    cases contents with
    | nil => cases h
    | cons content contents =>
      obtain ⟨hpiece, hpieces⟩ := List.cons.inj h
      have hrest := ih hpieces
      have heven := (decodeBytes_eq_ok hrest).1
      rw [List.flatten_cons, decodeBytes_append_of_ok hpiece heven, hrest]
      rfl

theorem decodeBytes_flatten_of_error {before after contents : List (List UInt8)}
    {piece : List UInt8} {reason : HexError}
    (heven : ∀ each ∈ before ++ piece :: after, each.length % 2 = 0)
    (hbefore : before.map decodeBytes = contents.map .ok)
    (hpiece : decodeBytes piece = .error reason) :
    decodeBytes (before ++ piece :: after).flatten =
      .error (reason.shift before.flatten.length) := by
  obtain ⟨-, hrest⟩ := List.forall_mem_append.mp heven
  have hafter : (piece :: after).flatten.length % 2 = 0 := even_length_flatten hrest
  obtain ⟨hfirst, htail⟩ := List.forall_mem_cons.mp hrest
  have hstop : decodeBytes (piece :: after).flatten = .error reason :=
    decodeBytes_append_of_error hfirst hpiece (even_length_flatten htail)
  rw [List.flatten_append, decodeBytes_append_of_ok (decodeBytes_flatten_of_ok hbefore) hafter,
    hstop]
  rfl

end Hex

/-! ## Hashing in pieces -/

namespace Hashing

theorem bytes_join (pieces : List String) :
    Utf8.bytes (String.join pieces) = (pieces.map Utf8.bytes).flatten := by
  induction pieces with
  | nil => rfl
  | cons piece pieces ih =>
    rw [String.join_cons, Utf8.bytes_append, ih, List.map_cons, List.flatten_cons]

theorem map_decodeBytes_of_content {pieces : List String} {threshold : Threshold}
    {contents : List Content}
    (h : pieces.map (fun piece => (content (.hex piece)).run.value threshold) =
      contents.map .ok) :
    (pieces.map Utf8.bytes).map Hex.decodeBytes = (contents.map Content.bytes).map .ok := by
  induction pieces generalizing contents with
  | nil =>
    cases contents with
    | nil => rfl
    | cons => cases h
  | cons piece pieces ih =>
    cases contents with
    | nil => cases h
    | cons given contents =>
      obtain ⟨hpiece, hpieces⟩ := List.cons.inj h
      simp only [List.map_cons, decodeBytes_of_content_ok hpiece, ih hpieces]

/-! ### Joined texts -/

theorem hexOfText_join_of_ok {pieces : List String} {threshold : Threshold}
    {contents : List Content}
    (h : pieces.map (fun piece => (content (.hex piece)).run.value threshold) =
      contents.map .ok) :
    (hexOfText (String.join pieces)).run.value threshold =
      .ok ((digestSlices (contents.map Content.bytes)).value threshold).toHex := by
  have hwhole := Hex.decodeBytes_flatten_of_ok (map_decodeBytes_of_content h)
  rw [(textEnds_decode _ threshold).text_eq, Hex.decode, bytes_join, hwhole, value_digestSlices,
    Digest.ofSlices_eq_ofMessage]
  rfl

theorem hexOfText_join_of_error {before after : List String} {piece : String}
    {threshold : Threshold} {error : DigestError}
    (heven : ∀ each ∈ before ++ piece :: after, (Utf8.bytes each).length % 2 = 0)
    (hbefore : ∀ each ∈ before, ∃ given, (content (.hex each)).run.value threshold = .ok given)
    (hpiece : (content (.hex piece)).run.value threshold = .error error) :
    ∃ c index, error = .encoding (.invalidCharacter c index) ∧
      (hexOfText (String.join (before ++ piece :: after))).run.value threshold =
        .error (.encoding
          (.invalidCharacter c ((before.map Utf8.bytes).flatten.length + index))) := by
  obtain ⟨reason, hread, rfl⟩ := decodeBytes_of_content_error hpiece
  obtain ⟨contents, hcontents⟩ := exists_mapM_eq_ok_iff.mpr hbefore
  have hpairs : ∀ each ∈ before.map Utf8.bytes ++ Utf8.bytes piece :: after.map Utf8.bytes,
      each.length % 2 = 0 := by
    intro each heach
    rw [← List.map_cons, ← List.map_append] at heach
    obtain ⟨text, htext, rfl⟩ := List.mem_map.mp heach
    exact heven text htext
  have hwhole := Hex.decodeBytes_flatten_of_error hpairs
    (map_decodeBytes_of_content (mapM_eq_ok_iff.mp hcontents)) hread
  -- A piece of even length is refused for a character, so the shift finds a place to move.
  obtain ⟨hodd, -⟩ | ⟨index, byte, -, -, rfl⟩ := Hex.decodeBytes_eq_error hread
  · have := heven piece (List.mem_append_right _ List.mem_cons_self)
    omega
  · refine ⟨_, index, rfl, ?_⟩
    rw [(textEnds_decode _ threshold).text_eq, Hex.decode, bytes_join, List.map_append,
      List.map_cons, hwhole]
    rfl

/-- A text in pieces of even length hashes just when every piece can be read, as the slices that
the pieces are read as.  Otherwise the first piece that cannot be read decides on the error, of
which only the place is counted from the start of the whole. -/
theorem hexOfText_join (pieces : List String)
    (heven : ∀ piece ∈ pieces, (Utf8.bytes piece).length % 2 = 0) (threshold : Threshold) :
    ((∃ text, (hexOfText (String.join pieces)).run.value threshold = .ok text) ↔
      ∀ piece ∈ pieces, ∃ given, (content (.hex piece)).run.value threshold = .ok given) ∧
    (∀ contents : List Content,
      pieces.map (fun piece => (content (.hex piece)).run.value threshold) = contents.map .ok →
      (hexOfText (String.join pieces)).run.value threshold =
        .ok ((digestSlices (contents.map Content.bytes)).value threshold).toHex) ∧
    ∀ (before : List String) (piece : String) (after : List String) (error : DigestError),
      pieces = before ++ piece :: after →
      (∀ each ∈ before, ∃ given, (content (.hex each)).run.value threshold = .ok given) →
      (content (.hex piece)).run.value threshold = .error error →
      ∃ c index, error = .encoding (.invalidCharacter c index) ∧
        (hexOfText (String.join pieces)).run.value threshold =
          .error (.encoding
            (.invalidCharacter c ((before.map Utf8.bytes).flatten.length + index))) := by
  refine ⟨⟨fun ⟨text, htext⟩ => ?_, fun hall => ?_⟩, fun contents => hexOfText_join_of_ok, ?_⟩
  · -- Were there a piece that cannot be read, the first of them would refuse the whole.
    cases hpieces : pieces.mapM fun piece => (content (.hex piece)).run.value threshold with
    | ok contents => exact exists_mapM_eq_ok_iff.mp ⟨contents, hpieces⟩
    | error error =>
      obtain ⟨before, piece, after, rfl, hbefore, hpiece⟩ := mapM_eq_error_iff.mp hpieces
      obtain ⟨c, index, -, hwhole⟩ := hexOfText_join_of_error heven hbefore hpiece
      rw [hwhole] at htext
      cases htext
  · obtain ⟨contents, hcontents⟩ := exists_mapM_eq_ok_iff.mpr hall
    exact ⟨_, hexOfText_join_of_ok (mapM_eq_ok_iff.mp hcontents)⟩
  · rintro before piece after error rfl hbefore hpiece
    exact hexOfText_join_of_error heven hbefore hpiece

/-- The third of four pieces is refused for its second byte, which is the sixth of the whole. -/
theorem hexOfText_join_fault :
    (∀ piece ∈ ["00fF", "", "0é0", "zz"], (Utf8.bytes piece).length % 2 = 0) ∧
      (hexOfText "00fF0é0zz").run.value .off =
        .error (.encoding (.invalidCharacter 'Ã' 5)) := by
  have heven : ∀ piece ∈ ["00fF", "", "0é0", "zz"], (Utf8.bytes piece).length % 2 = 0 := by decide
  have hbefore : ∀ each ∈ ["00fF", ""],
      ∃ given, (content (.hex each)).run.value .off = .ok given := by
    intro each heach
    obtain rfl | rfl : each = "00fF" ∨ each = "" := by simpa using heach
    · exact ⟨.decoded [0, 255], rfl⟩
    · exact ⟨.decoded [], rfl⟩
  obtain ⟨c, index, herror, hwhole⟩ :=
    (hexOfText_join ["00fF", "", "0é0", "zz"] heven .off).2.2 ["00fF", ""] "0é0" ["zz"]
      (.encoding (.invalidCharacter 'Ã' 1)) rfl hbefore rfl
  obtain ⟨rfl, rfl⟩ := HexError.invalidCharacter.inj (DigestError.encoding.inj herror)
  exact ⟨heven, hwhole⟩

end Hashing

end KeyDigest
