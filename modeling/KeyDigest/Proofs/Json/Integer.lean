import KeyDigest.Json.Scan

/-! # Integers in documents

An integer is written digit by digit, the most significant first and none of them a zero in front.
Scanned again it gives the same integer, as long as this fits in 64 bits and nothing follows that
would continue it; a greater one is read as a floating-point number.
-/

namespace KeyDigest.Json

namespace Scan

/-- No digit, point or exponent stands first, so that a number before this text ends there. -/
def EndsNumber (rest : List Char) : Prop :=
  ∀ c ∈ rest.head?, c.isDigit = false ∧ c ≠ '.' ∧ c ≠ 'e' ∧ c ≠ 'E'

/-! ## Digits -/

theorem digits_append {text rest : List Char} (htext : ∀ c ∈ text, c.isDigit)
    (hrest : EndsNumber rest) :
    digits (text ++ rest) = (text.map fun c => c.toNat - '0'.toNat, rest) := by
  have hdone : rest.takeWhile Char.isDigit = [] ∧ rest.dropWhile Char.isDigit = rest := by
    cases rest with
    | nil => exact ⟨rfl, rfl⟩
    | cons c rest =>
      have hc := (hrest c rfl).1
      exact ⟨List.takeWhile_cons_of_neg (by simp [hc]), List.dropWhile_cons_of_neg (by simp [hc])⟩
  rw [digits, List.takeWhile_append_of_pos htext, List.dropWhile_append_of_pos htext, hdone.1,
    hdone.2, List.append_nil]

/-- The digits that are written for a number, by their values. -/
def decimalDigits (n : Nat) : List Nat :=
  (Nat.toDigits 10 n).map fun c => c.toNat - '0'.toNat

theorem ofDigits_decimalDigits (n : Nat) : Numeral.ofDigits (decimalDigits n) = n := by
  rw [Numeral.ofDigits, decimalDigits, List.foldl_map]
  exact Nat.ofDigitChars_toDigits (by decide) (by decide)

theorem isDigit_of_mem_toDigits {n : Nat} {c : Char} (h : c ∈ Nat.toDigits 10 n) : c.isDigit :=
  Nat.isDigit_of_mem_toDigits (by decide) (by decide) h

/-- The first digit of a positive number is not zero. -/
theorem decimalDigits_ne_zero_cons {n : Nat} (h : 0 < n) (rest : List Nat) :
    decimalDigits n ≠ 0 :: rest := by
  induction n using Nat.strongRecOn generalizing rest with
  | ind n ih =>
    by_cases hsmall : n < 10
    · have hall : ∀ d : Fin 10, 0 < d.val → (Nat.digitChar d).toNat - '0'.toNat ≠ 0 := by decide
      rw [decimalDigits, Nat.toDigits_of_lt_base hsmall]
      exact fun hzero => hall ⟨n, hsmall⟩ h (List.cons.inj hzero).1
    · -- All digits but the last are those of the tenth part, which has one fewer.
      rw [decimalDigits, Nat.toDigits_of_base_le (by decide) (by omega), List.map_append]
      have hfirst := ih (n / 10) (by omega) (by omega)
      rw [decimalDigits] at hfirst
      cases hdigits : (Nat.toDigits 10 (n / 10)).map fun c => c.toNat - '0'.toNat with
      | nil => exact absurd (List.map_eq_nil_iff.mp hdigits) Nat.toDigits_ne_nil
      | cons first others =>
        rintro hzero
        obtain ⟨rfl, -⟩ := List.cons.inj hzero
        exact hfirst others hdigits

theorem wholeDigits_toDigits (n : Nat) {rest : List Char} (hrest : EndsNumber rest) :
    wholeDigits (Nat.toDigits 10 n ++ rest) = .ok (decimalDigits n, rest) := by
  have hsome : someDigits (Nat.toDigits 10 n ++ rest) = .ok (decimalDigits n, rest) := by
    rw [someDigits, digits_append (fun _ => isDigit_of_mem_toDigits) hrest]
    cases hread : Nat.toDigits 10 n with
    | nil => exact absurd hread Nat.toDigits_ne_nil
    | cons c read =>
      rw [decimalDigits, hread]
      rfl
  rw [wholeDigits, hsome]
  split
  · -- A zero in front of another digit is refused, but no number is written so.
    rename_i hzero
    have hdigits := (Prod.mk.inj (Except.ok.inj hzero)).1
    cases n with
    | zero => cases hdigits
    | succ n => exact absurd hdigits (decimalDigits_ne_zero_cons (Nat.succ_pos n) _)
  · rfl

/-! ## Numbers -/

theorem numeral_toDigits (negative : Bool) (n : Nat) {rest : List Char} (hrest : EndsNumber rest) :
    numeral negative (Nat.toDigits 10 n ++ rest) =
      .ok (⟨negative, decimalDigits n, none, none⟩, rest) := by
  have hfraction : fractionDigits rest = .ok (none, rest) := by
    unfold fractionDigits
    split
    · exact absurd rfl (hrest _ rfl).2.1
    · rfl
  have hexponent : exponentDigits rest = .ok (none, rest) := by
    unfold exponentDigits
    split
    · exact absurd rfl (hrest _ rfl).2.2.1
    · exact absurd rfl (hrest _ rfl).2.2.2
    · rfl
  rw [numeral, wholeDigits_toDigits n hrest]
  simp only [bind, Except.bind, hfraction, hexponent]
  rfl

theorem number_toDigits {n : Nat} (h : n < UInt64.size) {rest : List Char}
    (hrest : EndsNumber rest) :
    Scan.number false (Nat.toDigits 10 n ++ rest) = .ok (.integer n, rest) := by
  rw [Scan.number, numeral_toDigits false n hrest]
  simp [bind, Except.bind, Numeral.value?, Numeral.isPlain, ofDigits_decimalDigits, h, pure,
    Except.pure]

theorem number_negative_toDigits {n : Nat} (hpos : 0 < n) (h : n ≤ UInt64.size / 2)
    {rest : List Char} (hrest : EndsNumber rest) :
    Scan.number true (Nat.toDigits 10 n ++ rest) = .ok (.integer (-n), rest) := by
  rw [Scan.number, numeral_toDigits true n hrest]
  simp [bind, Except.bind, Numeral.value?, Numeral.isPlain, ofDigits_decimalDigits, h, hpos, pure,
    Except.pure]

end Scan

end KeyDigest.Json
