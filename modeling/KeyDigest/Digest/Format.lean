import KeyDigest.Digest.Basic

/-! # Formatting a digest

The plain and the hexadecimal form lay the digits into the field that is asked for.  The two
labelled forms name the kind of value around its digits and take nothing from the request.
-/

namespace KeyDigest

/-! ## Text in a field

A text is first cut to the precision, then filled up to the width on the side that the alignment
leaves free.  Both count characters.
-/

/-- Where a text stands in a field that is wider. -/
inductive Alignment where
  | left
  | center
  | right
  deriving DecidableEq

/-- A request for how a value is to be written. -/
structure FieldSpec where
  fill : Char := ' '
  /-- Where the text stands; at the left when nothing is asked for. -/
  alignment : Option Alignment := none
  /-- A sign is asked for, which only numbers have. -/
  plus : Bool := false
  /-- The alternate form is asked for, which each value defines for itself. -/
  alternate : Bool := false
  /-- Leading zeros are asked for, which only numbers have. -/
  zero : Bool := false
  /-- The least number of characters. -/
  width : Option Nat := none
  /-- The greatest number of characters of the text itself. -/
  precision : Option Nat := none

namespace FieldSpec

def cut (spec : FieldSpec) (text : List Char) : List Char :=
  match spec.precision with
  | none => text
  | some most => text.take most

/-- How many fill characters go to the left of a text when `missing` are needed.  Centred, the
odd one goes to the right. -/
def leftShare (spec : FieldSpec) (missing : Nat) : Nat :=
  match spec.alignment.getD .left with
  | .left => 0
  | .center => missing / 2
  | .right => missing

def lay (spec : FieldSpec) (text : List Char) : List Char :=
  let kept := spec.cut text
  let missing := spec.width.getD 0 - kept.length
  let left := spec.leftShare missing
  List.replicate left spec.fill ++ kept ++ List.replicate (missing - left) spec.fill

def layText (spec : FieldSpec) (text : String) : String :=
  String.ofList (spec.lay text.toList)

/-- Without width and precision a text is not touched. -/
theorem layText_of_none {spec : FieldSpec} (hwidth : spec.width = none)
    (hprecision : spec.precision = none) (text : String) : spec.layText text = text := by
  have hleft : spec.leftShare 0 = 0 := by
    unfold leftShare
    split <;> rfl
  simp [layText, lay, cut, hwidth, hprecision, hleft]

end FieldSpec

/-! ## Forms

Only the hexadecimal form knows an alternate, which puts `0x` before the digits, and the precision
counts that too.
-/

inductive DigestForm where
  | plain
  /-- The digits, marked as hexadecimal in the alternate form. -/
  | hexadecimal
  | labelled
  /-- The digits under a label, with a wish for hexadecimal numbers. -/
  | labelledHexadecimal
  deriving DecidableEq

namespace Digest

/-- The text that a form lays into the field. -/
def hexadecimal (digest : Digest) (alternate : Bool) : String :=
  if alternate then "0x" ++ digest.toHex else digest.toHex

def labelled (digest : Digest) : String :=
  "Hash160(" ++ ({ } : FieldSpec).layText (digest.hexadecimal false) ++ ")"

def format (digest : Digest) (form : DigestForm) (spec : FieldSpec) : String :=
  match form with
  | .plain => spec.layText digest.toHex
  | .hexadecimal => spec.layText (digest.hexadecimal spec.alternate)
  | .labelled | .labelledHexadecimal => digest.labelled

end Digest

end KeyDigest
