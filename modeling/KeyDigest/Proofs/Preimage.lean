import KeyDigest.Preimage
import KeyDigest.Proofs.Text.Shown

/-! # Preimages told apart

Two preimages are shown alike only if they are equal, on one line and spread out, whichever
characters are written by number.  Both forms open with the name of the kind.  Behind it a text
stands between quotes, where nothing ends it but its own end; and of bytes the numerals are had back
from what separates them, a comma on one line and the end of the line when spread out.

What is spread out is put together from lines.  `laidOut` says what comes of that as a writer would
who goes from left to right and puts four blanks behind every line break: since nothing that is
shown breaks a line of its own, indentation falls between the parts only.
-/

namespace KeyDigest

open Text

namespace Preimage

variable (unseen : Char → Bool)

/-! ## Shown preimages -/

theorem listable_numerals (given : List UInt8) :
    ∀ numeral ∈ given.map (toString : UInt8 → String), Shown.Listable numeral := by
  intro numeral hnumeral
  obtain ⟨byte, -, rfl⟩ := List.mem_map.mp hnumeral
  exact Shown.listable_toString byte.toNat

theorem unbroken_quotedWith (text : String) : (Shown.atom (quotedWith unseen text)).Unbroken := by
  apply Shown.unbroken_atom
  rw [quotedWith, String.toList_ofList]
  exact newline_not_mem_enclose (by decide) text.toList

theorem shownWith_bytes (given : List UInt8) :
    (bytes given).shownWith unseen =
      .applied "Bytes" [.list ((given.map toString).map .atom)] := by
  rw [shownWith, List.map_map]
  rfl

/-- A preimage spread out, as it is written from left to right. -/
def laidOut : Preimage → String
  | .bytes given =>
    "Bytes(\n" ++ Shown.indent (Shown.laidOutList (given.map toString) ++ ",\n") ++ ")"
  | .hex text => "Hex(\n" ++ Shown.indent (quotedWith unseen text ++ ",\n") ++ ")"

theorem render_shownWith_inj (spreadOut : Bool) {x y : Preimage} :
    (x.shownWith unseen).render spreadOut = (y.shownWith unseen).render spreadOut ↔ x = y := by
  refine ⟨fun h => ?_, fun h => h ▸ rfl⟩
  -- The kinds differ before either name ends, so texts of two kinds never meet.
  have hkinds : Apart "Bytes" "Hex" := by decide
  have hbytes (given : List UInt8) := Shown.unbroken_listed (listable_numerals given)
  cases x with
  | bytes given =>
    rw [shownWith_bytes] at h
    cases y with
    | bytes given' =>
      rw [shownWith_bytes, Shown.render_applied_inj (hbytes given) (hbytes given'),
        Shown.render_listed_inj spreadOut (listable_numerals given) (listable_numerals given')] at h
      rw [(List.map_inj_right fun _ _ => toString_byte_inj.mp).mp h]
    | hex text =>
      exact absurd h
        (Shown.render_applied_ne hkinds (hbytes given) (unbroken_quotedWith unseen text) spreadOut)
  | hex text =>
    cases y with
    | bytes given =>
      rw [shownWith_bytes] at h
      exact absurd h (Shown.render_applied_ne hkinds.symm (unbroken_quotedWith unseen text)
        (hbytes given) spreadOut)
    | hex text' =>
      rw [shownWith, shownWith, Shown.render_applied_inj (unbroken_quotedWith unseen text)
        (unbroken_quotedWith unseen text'), Shown.render_atom, Shown.render_atom,
        quotedWith_inj] at h
      rw [h]

theorem render_shownWith (x : Preimage) : (x.shownWith unseen).render true = x.laidOut unseen := by
  cases x with
  | bytes given =>
    rw [shownWith_bytes, Shown.render_applied _ _ (Shown.unbroken_listed (listable_numerals given)),
      Shown.render_listed (listable_numerals given)]
    rfl
  | hex text =>
    rw [shownWith, Shown.render_applied _ _ (unbroken_quotedWith unseen text), Shown.render_atom]
    rfl

/-- What is shown of a preimage is shown of no other, whichever characters count as unseen; and
indentation, which nothing is lost by, is all that is done to its parts when it is spread out. -/
theorem shown_identifies :
    (∀ x y : Preimage,
      (x = y ↔ (x.shownWith unseen).render false = (y.shownWith unseen).render false) ∧
      (x = y ↔ (x.shownWith unseen).render true = (y.shownWith unseen).render true)) ∧
    (∀ x : Preimage, (x.shownWith unseen).render true = x.laidOut unseen) ∧
    (∀ s t : String, Shown.indent s = Shown.indent t ↔ s = t) :=
  ⟨fun _ _ => ⟨(render_shownWith_inj unseen false).symm, (render_shownWith_inj unseen true).symm⟩,
    render_shownWith unseen, fun _ _ => Shown.indent_inj⟩

end Preimage

end KeyDigest
