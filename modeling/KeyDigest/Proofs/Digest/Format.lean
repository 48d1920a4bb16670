import Mathlib.Data.List.DropRight
import KeyDigest.Digest.Format
import KeyDigest.Proofs.Digest.Spelling

/-! # Digests in fields

The plain and the hexadecimal form lay one text into the field that is asked for: the digits, and
before them the mark of the alternate form, which precision and width treat like any other part of
it.  A field that holds all of it can be read again once the fill characters and the mark are taken
off, if the fill character is no digit; it may be the `x` of the mark, which begins with a zero.
-/

/-! ## Laying text into a field

`Lays` says what a request asks for: how much of a text is kept, and how many fill characters stand
on either side.  `lay` writes that and nothing else.  As long as the text neither begins nor ends
with the fill character, `strip` finds it again.
-/

namespace KeyDigest

namespace FieldSpec

/-- As much of `text` is kept as the precision allows, and what then misses to the width is divided
among the two sides as the alignment says. -/
structure Lays (spec : FieldSpec) (text : List Char) (left : Nat) (kept : List Char)
    (right : Nat) : Prop where
  kept_eq : kept = text.take (min (spec.precision.getD text.length) text.length)
  missing_eq : left + right = spec.width.getD 0 - kept.length
  left_eq : left = match spec.alignment with
    | none | some .left => 0
    | some .center => (left + right) / 2
    | some .right => left + right

theorem cut_eq_take (spec : FieldSpec) (text : List Char) :
    spec.cut text = text.take (min (spec.precision.getD text.length) text.length) := by
  rw [cut]
  cases spec.precision with
  | none => simp
  | some most => simp [List.take_eq_take_min]

theorem leftShare_le (spec : FieldSpec) (missing : Nat) : spec.leftShare missing ≤ missing := by
  rw [leftShare]
  cases spec.alignment.getD .left with
  | left => exact Nat.zero_le _
  | center => exact Nat.div_le_self _ _
  | right => exact Nat.le_refl _

theorem exists_lays (spec : FieldSpec) (text : List Char) :
    ∃ left kept right, spec.Lays text left kept right ∧
      spec.lay text = List.replicate left spec.fill ++ kept ++ List.replicate right spec.fill := by
  have hshare := spec.leftShare_le (spec.width.getD 0 - (spec.cut text).length)
  refine ⟨_, _, _, ⟨spec.cut_eq_take text, Nat.add_sub_of_le hshare, ?_⟩, rfl⟩
  rw [Nat.add_sub_of_le hshare, leftShare]
  cases spec.alignment with
  | none => rfl
  | some side => cases side <;> rfl

/-- A field is never narrower than what it holds, and otherwise has the width asked for. -/
theorem Lays.length_eq {spec : FieldSpec} {text kept : List Char} {left right : Nat}
    (h : spec.Lays text left kept right) (fill : Char) :
    (List.replicate left fill ++ kept ++ List.replicate right fill).length =
      max (spec.width.getD 0) kept.length := by
  have hmissing := h.missing_eq
  rw [List.length_append, List.length_append, List.length_replicate, List.length_replicate]
  omega

end FieldSpec

/-! ### Stripping -/

/-- What is left of a text when a character is taken off both ends as often as it stands there. -/
def strip (fill : Char) (text : List Char) : List Char :=
  (text.dropWhile (· = fill)).rdropWhile (· = fill)

theorem dropWhile_replicate_append (fill : Char) (n : Nat) (text : List Char) :
    (List.replicate n fill ++ text).dropWhile (· = fill) = text.dropWhile (· = fill) := by
  apply List.dropWhile_append_of_pos
  intro c hc
  simpa using List.eq_of_mem_replicate hc

theorem dropWhile_of_head?_ne {fill : Char} {text : List Char} (h : text.head? ≠ some fill) :
    text.dropWhile (· = fill) = text := by
  cases text with
  | nil => rfl
  | cons c text =>
    have hc : c ≠ fill := by simpa using h
    simp [hc]

theorem rdropWhile_append_replicate {fill : Char} {text : List Char}
    (h : text.getLast? ≠ some fill) (n : Nat) :
    (text ++ List.replicate n fill).rdropWhile (· = fill) = text := by
  have hlast : text.reverse.head? ≠ some fill := by rwa [List.head?_reverse]
  rw [List.rdropWhile, List.reverse_append, List.reverse_replicate, dropWhile_replicate_append,
    dropWhile_of_head?_ne hlast, List.reverse_reverse]

theorem strip_replicate_append {fill : Char} {text : List Char} (hne : text ≠ [])
    (hfirst : text.head? ≠ some fill) (hlast : text.getLast? ≠ some fill) (left right : Nat) :
    strip fill (List.replicate left fill ++ text ++ List.replicate right fill) = text := by
  have hhead : (text ++ List.replicate right fill).head? ≠ some fill := by
    rwa [List.head?_append_of_ne_nil _ hne]
  -- What is dropped on the left ends at the text, whose other end is still as it was.
  rw [strip, List.append_assoc, dropWhile_replicate_append, dropWhile_of_head?_ne hhead,
    rdropWhile_append_replicate hlast]

end KeyDigest

/-! ## Forms

The labelled forms ask for their digits anew, so nothing that was asked of them reaches the digits.
-/

namespace KeyDigest.Digest

variable {digest : Digest} {spec : FieldSpec}

/-- The text of a digest behind a mark, in the field that is asked for. -/
structure IsFieldOf (output : String) (digest : Digest) (mark : List Char) (spec : FieldSpec) :
    Prop where
  exists_lays : ∃ left kept right, spec.Lays (mark ++ digest.toHex.toList) left kept right ∧
    output.toList = List.replicate left spec.fill ++ kept ++ List.replicate right spec.fill ∧
    output.length = max (spec.width.getD 0) kept.length ∧
    (kept = mark ++ digest.toHex.toList → spec.fill ∉ Hex.lowercase →
      ∃ rest, strip spec.fill output.toList = mark ++ rest ∧
        parse (String.ofList rest) = .ok digest)

theorem toHex_ne_nil (digest : Digest) : digest.toHex.toList ≠ [] := by
  intro h
  have hlength := length_toHex digest
  rw [h] at hlength
  cases hlength

/-- A text of a digest neither begins nor ends with a character that is no digit. -/
theorem ends_ne_of_not_mem_lowercase {fill : Char} (hfill : fill ∉ Hex.lowercase)
    {mark : List Char} (hmark : mark = [] ∨ mark = ['0', 'x']) (digest : Digest) :
    (mark ++ digest.toHex.toList).head? ≠ some fill ∧
      (mark ++ digest.toHex.toList).getLast? ≠ some fill := by
  have hdigit : ∀ c ∈ digest.toHex.toList, c ≠ fill := by
    rintro c hc rfl
    exact hfill (mem_lowercase_of_mem_toHex hc)
  constructor
  · obtain rfl | rfl := hmark
    · intro hhead
      exact hdigit fill (List.mem_of_head? hhead) rfl
    -- Of the mark only the zero in front counts; the fill character may well be its `x`.
    · intro hhead
      obtain rfl : '0' = fill := Option.some.inj hhead
      exact hfill (by simp [Hex.lowercase])
  · rw [List.getLast?_append_of_ne_nil _ (toHex_ne_nil digest)]
    intro hlast
    exact hdigit fill (List.mem_of_getLast? hlast) rfl

theorem isFieldOf_layText {mark : List Char} (hmark : mark = [] ∨ mark = ['0', 'x'])
    (digest : Digest) (spec : FieldSpec) :
    IsFieldOf (spec.layText (String.ofList mark ++ digest.toHex)) digest mark spec := by
  obtain ⟨left, kept, right, hlays, hlay⟩ := spec.exists_lays (mark ++ digest.toHex.toList)
  have houtput : (spec.layText (String.ofList mark ++ digest.toHex)).toList =
      List.replicate left spec.fill ++ kept ++ List.replicate right spec.fill := by
    rw [FieldSpec.layText, String.toList_ofList, String.toList_append, String.toList_ofList, hlay]
  refine ⟨left, kept, right, hlays, houtput, ?_, fun hkept hfill => ?_⟩
  · rw [← String.length_toList, houtput, hlays.length_eq]
  · obtain ⟨hfirst, hlast⟩ := ends_ne_of_not_mem_lowercase hfill hmark digest
    have hne : mark ++ digest.toHex.toList ≠ [] :=
      List.append_ne_nil_of_right_ne_nil _ (toHex_ne_nil digest)
    refine ⟨digest.toHex.toList, ?_, ?_⟩
    · rw [houtput, hkept, strip_replicate_append hne hfirst hlast]
    · rw [String.ofList_toList, parse_toHex]

theorem format_plain (digest : Digest) (spec : FieldSpec) :
    IsFieldOf (digest.format .plain spec) digest [] spec := by
  have htext : digest.format .plain spec = spec.layText (String.ofList [] ++ digest.toHex) := by
    rw [format, String.ofList_nil, String.empty_append]
  rw [htext]
  exact isFieldOf_layText (.inl rfl) digest spec

theorem format_hexadecimal (digest : Digest) (spec : FieldSpec) :
    IsFieldOf (digest.format .hexadecimal spec) digest
      (if spec.alternate then ['0', 'x'] else []) spec := by
  rw [format, hexadecimal]
  split
  · exact isFieldOf_layText (.inr rfl) digest spec
  · exact format_plain digest spec

theorem labelled_eq (digest : Digest) :
    digest.labelled = "Hash160(" ++ digest.format .hexadecimal { } ++ ")" := rfl

/-- What every form makes of every request. -/
theorem format_fills_fields (digest : Digest) (spec : FieldSpec) :
    digest.toHex.toList.length = 40 ∧ (∀ c ∈ digest.toHex.toList, c ∈ Hex.lowercase) ∧
    IsFieldOf (digest.format .plain spec) digest [] spec ∧
    IsFieldOf (digest.format .hexadecimal spec) digest
      (if spec.alternate then ['0', 'x'] else []) spec ∧
    (∀ form plus zero,
      digest.format form { spec with plus := plus, zero := zero } = digest.format form spec) ∧
    digest.format .labelled spec = "Hash160(" ++ digest.format .hexadecimal { } ++ ")" ∧
    digest.format .labelledHexadecimal spec = "Hash160(" ++ digest.format .hexadecimal { } ++ ")" ∧
    digest.format .hexadecimal { } = digest.toHex := by
  refine ⟨length_toHex digest, fun c => mem_lowercase_of_mem_toHex, format_plain digest spec,
    format_hexadecimal digest spec, fun form plus zero => ?_, labelled_eq digest,
    labelled_eq digest, (isTextOf_toHex digest).hexadecimal_eq⟩
  cases form <;> rfl

/-- The field is filled up with the letter of the mark. -/
theorem format_fills_fields_with_mark :
    'x' ∉ Hex.lowercase ∧
      ∃ rest, strip 'x' (zero.format .hexadecimal
          { fill := 'x', alignment := some .center, alternate := true, width := some 51 }).toList =
          ['0', 'x'] ++ rest ∧
        parse (String.ofList rest) = .ok zero := by
  have hfill : 'x' ∉ Hex.lowercase := by simp [Hex.lowercase]
  obtain ⟨-, -, -, hfield, -⟩ := format_fills_fields zero
    { fill := 'x', alignment := some .center, alternate := true, width := some 51 }
  obtain ⟨left, kept, right, hlays, -, -, hstrip⟩ := hfield.exists_lays
  have hkept : kept = ['0', 'x'] ++ zero.toHex.toList := by
    rw [hlays.kept_eq]
    simp
  exact ⟨hfill, hstrip hkept hfill⟩

end KeyDigest.Digest
