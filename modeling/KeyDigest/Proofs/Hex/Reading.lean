import KeyDigest.Hex

/-! # Reading hexadecimal texts

What `decodeBytes` makes of every sequence of bytes: an odd number of them (`decodeBytes_of_odd`),
an even number with a first that is no digit (`decodeBytes_of_firstFault`), or an even number of
digits (`decodeBytes_of_digits`); there is no other case (`digits_or_firstFault`).  Digits are
spoken of by `IsDigit` and `weight`, so that no later proof looks into the arithmetic on bytes
again.
-/

namespace KeyDigest.Hex

/-! ## Digits -/

/-- The bytes of `0-9`, `A-F` and `a-f`. -/
def IsDigit (byte : UInt8) : Prop :=
  (48 ≤ byte.toNat ∧ byte.toNat ≤ 57) ∨ (65 ≤ byte.toNat ∧ byte.toNat ≤ 70) ∨
    (97 ≤ byte.toNat ∧ byte.toNat ≤ 102)

instance (byte : UInt8) : Decidable (IsDigit byte) :=
  inferInstanceAs (Decidable (_ ∨ _ ∨ _))

theorem toNat_lt_of_isDigit {digit : UInt8} (h : IsDigit digit) : digit.toNat < 128 := by
  unfold IsDigit at h
  omega

/-- What a digit is worth, in either case. -/
def weight (digit : UInt8) : Nat :=
  if digit.toNat ≤ 57 then digit.toNat - 48
  else if digit.toNat ≤ 70 then digit.toNat - 55
  else digit.toNat - 87

theorem weight_lt {digit : UInt8} (h : IsDigit digit) : weight digit < 16 := by
  rw [weight]
  obtain hdecimal | hupper | hlower := h
  · rw [if_pos hdecimal.2]
    omega
  · rw [if_neg (by omega), if_pos hupper.2]
    omega
  · rw [if_neg (by omega), if_neg (by omega)]
    omega

/-- Two digits are worth one byte, so nothing is lost when it is put together. -/
theorem toNat_pair {high low : UInt8} (hhigh : IsDigit high) (hlow : IsDigit low) :
    (UInt8.ofNat (16 * weight high + weight low)).toNat = 16 * weight high + weight low := by
  have := weight_lt hhigh
  have := weight_lt hlow
  rw [UInt8.toNat_ofNat']
  omega

/-! ### Reading one digit -/

theorem digitValue?_eq (byte : UInt8) : digitValue? byte =
    if 48 ≤ byte.toNat ∧ byte.toNat ≤ 57 then some (byte - 48)
    else if 97 ≤ byte.toNat ∧ byte.toNat ≤ 102 then some (byte - 97 + 10)
    else if 65 ≤ byte.toNat ∧ byte.toNat ≤ 70 then some (byte - 65 + 10)
    else none := rfl

theorem digitValue?_of_isDigit {digit : UInt8} (h : IsDigit digit) :
    digitValue? digit = some (UInt8.ofNat (weight digit)) := by
  rw [digitValue?_eq, weight]
  -- The ranges do not overlap, so the order in which they are tried does not matter.
  obtain hdecimal | hupper | hlower := h
  · rw [if_pos hdecimal, if_pos hdecimal.2]
    exact congrArg some (UInt8.toNat_inj.mp (by simp [UInt8.toNat_sub]; omega))
  · rw [if_neg (by omega), if_neg (by omega), if_pos hupper, if_neg (by omega), if_pos hupper.2]
    exact congrArg some (UInt8.toNat_inj.mp (by simp [UInt8.toNat_sub]; omega))
  · rw [if_neg (by omega), if_pos hlower, if_neg (by omega), if_neg (by omega)]
    exact congrArg some (UInt8.toNat_inj.mp (by simp [UInt8.toNat_sub]; omega))

theorem digitValue?_of_not_isDigit {byte : UInt8} (h : ¬ IsDigit byte) :
    digitValue? byte = none := by
  unfold IsDigit at h
  rw [digitValue?_eq, if_neg (by omega), if_neg (by omega), if_neg (by omega)]

/-! ### Reading a pair -/

theorem readPair_of_digits {high low : UInt8} (hhigh : IsDigit high) (hlow : IsDigit low)
    (index : Nat) :
    readPair high low index = .ok (UInt8.ofNat (16 * weight high + weight low)) := by
  have hbyte : UInt8.ofNat (16 * weight high + weight low) =
      16 * UInt8.ofNat (weight high) + UInt8.ofNat (weight low) := by
    rw [UInt8.ofNat_add, UInt8.ofNat_mul]
    rfl
  rw [readPair, readDigit, readDigit, digitValue?_of_isDigit hhigh, digitValue?_of_isDigit hlow,
    hbyte]
  rfl

theorem readPair_of_not_high {high : UInt8} (h : ¬ IsDigit high) (low : UInt8) (index : Nat) :
    readPair high low index = .error (.invalidCharacter (Char.ofUInt8 high) index) := by
  rw [readPair, readDigit, digitValue?_of_not_isDigit h]
  rfl

theorem readPair_of_not_low {high low : UInt8} (hhigh : IsDigit high) (hlow : ¬ IsDigit low)
    (index : Nat) :
    readPair high low index = .error (.invalidCharacter (Char.ofUInt8 low) (index + 1)) := by
  rw [readPair, readDigit, readDigit, digitValue?_of_isDigit hhigh,
    digitValue?_of_not_isDigit hlow]
  rfl

/-! ## Texts -/

/-- The bytes that the pairs of a sequence of digits are worth. -/
def pairBytes : List UInt8 → List UInt8
  | [] => []
  | [_] => []
  | high :: low :: rest => UInt8.ofNat (16 * weight high + weight low) :: pairBytes rest

theorem length_pairBytes (text : List UInt8) : (pairBytes text).length = text.length / 2 := by
  fun_induction pairBytes text with
  | case1 => rfl
  | case2 => simp
  | case3 high low rest ih =>
    simp only [List.length_cons, ih]
    omega

theorem getElem?_pairBytes {text : List UInt8} {k : Nat} {high low : UInt8}
    (hhigh : text[2 * k]? = some high) (hlow : text[2 * k + 1]? = some low) :
    (pairBytes text)[k]? = some (UInt8.ofNat (16 * weight high + weight low)) := by
  fun_induction pairBytes text generalizing k with
  | case1 => cases hhigh
  | case2 => cases hlow
  | case3 first second rest ih =>
    cases k with
    | zero =>
      obtain rfl : first = high := Option.some.inj hhigh
      obtain rfl : second = low := Option.some.inj hlow
      rfl
    | succ k => exact ih hhigh hlow

/-! ### The first fault -/

/-- The byte at `index` is no digit, and every byte before it is one. -/
structure FirstFault (text : List UInt8) (index : Nat) (byte : UInt8) : Prop where
  getElem?_eq : text[index]? = some byte
  not_isDigit : ¬ IsDigit byte
  isDigit_before : ∀ digit ∈ text.take index, IsDigit digit

theorem FirstFault.cons {digit : UInt8} {text : List UInt8} {index : Nat} {byte : UInt8}
    (h : FirstFault text index byte) (hdigit : IsDigit digit) :
    FirstFault (digit :: text) (index + 1) byte where
  getElem?_eq := h.getElem?_eq
  not_isDigit := h.not_isDigit
  isDigit_before := List.forall_mem_cons.mpr ⟨hdigit, h.isDigit_before⟩

theorem FirstFault.eq_zero_or_succ {first : UInt8} {text : List UInt8} {index : Nat} {byte : UInt8}
    (h : FirstFault (first :: text) index byte) :
    (index = 0 ∧ byte = first ∧ ¬ IsDigit first) ∨
      ∃ before, index = before + 1 ∧ IsDigit first ∧ FirstFault text before byte := by
  cases index with
  | zero =>
    obtain rfl : first = byte := Option.some.inj h.getElem?_eq
    exact .inl ⟨rfl, rfl, h.not_isDigit⟩
  | succ before =>
    obtain ⟨hfirst, hbefore⟩ := List.forall_mem_cons.mp h.isDigit_before
    exact .inr ⟨before, rfl, hfirst, h.getElem?_eq, h.not_isDigit, hbefore⟩

theorem FirstFault.isDigit_of_lt {text : List UInt8} {index : Nat} {byte : UInt8}
    (h : FirstFault text index byte) {k : Nat} {digit : UInt8} (hdigit : text[k]? = some digit)
    (hk : k < index) : IsDigit digit := by
  apply h.isDigit_before
  apply List.mem_of_getElem?
  rw [List.getElem?_take_of_lt hk, hdigit]

theorem FirstFault.eq_append {text : List UInt8} {index : Nat} {byte : UInt8}
    (h : FirstFault text index byte) :
    text = text.take index ++ byte :: text.drop (index + 1) ∧ (text.take index).length = index := by
  obtain ⟨hindex, hbyte⟩ := List.getElem?_eq_some_iff.mp h.getElem?_eq
  refine ⟨?_, List.length_take_of_le (by omega)⟩
  rw [← hbyte, ← List.drop_eq_getElem_cons hindex, List.take_append_drop]

/-- Every byte of a text is a digit, or there is a first one that is not. -/
theorem digits_or_firstFault (text : List UInt8) :
    (∀ digit ∈ text, IsDigit digit) ∨ ∃ index byte, FirstFault text index byte := by
  induction text with
  | nil => exact .inl (List.forall_mem_nil _)
  | cons byte text ih =>
    by_cases hbyte : IsDigit byte
    · obtain hdigits | ⟨index, fault, hfault⟩ := ih
      · exact .inl (List.forall_mem_cons.mpr ⟨hbyte, hdigits⟩)
      · exact .inr ⟨index + 1, fault, hfault.cons hbyte⟩
    · exact .inr ⟨0, byte, rfl, hbyte, List.forall_mem_nil _⟩

/-! ### The collecting reader -/

theorem collect_of_digits {text : List UInt8} (h : ∀ digit ∈ text, IsDigit digit)
    (done : Array UInt8) (index : Nat) :
    collect done index text = .ok (done.toList ++ pairBytes text) := by
  fun_induction pairBytes text generalizing done index with
  | case1 => rw [collect, List.append_nil]; nofun
  | case2 => rw [collect, List.append_nil]; nofun
  | case3 high low rest ih =>
    obtain ⟨hhigh, hlow, hrest⟩ : IsDigit high ∧ IsDigit low ∧ ∀ digit ∈ rest, IsDigit digit := by
      simpa using h
    simp only [collect, readPair_of_digits hhigh hlow, ih hrest, Array.toList_push,
      List.append_assoc, List.singleton_append]

theorem collect_of_fault {bad : UInt8} {rest : List UInt8} (hbad : ¬ IsDigit bad) :
    ∀ {good : List UInt8}, (∀ digit ∈ good, IsDigit digit) →
      (good ++ bad :: rest).length % 2 = 0 → ∀ (done : Array UInt8) (index : Nat),
      collect done index (good ++ bad :: rest) =
        .error (.invalidCharacter (Char.ofUInt8 bad) (index + good.length))
  -- The reader takes two digits at a time, so the fault is reached either as the first of its pair
  -- or behind one good digit.
  | [], _, heven, done, index => by
    cases rest with
    -- A fault without a partner would make the length odd.
    | nil => cases heven
    | cons low rest =>
      rw [List.nil_append, collect, readPair_of_not_high hbad]
      rfl
  | [high], hgood, _, done, index => by
    have hhigh : IsDigit high := hgood high List.mem_cons_self
    rw [List.cons_append, List.nil_append, collect, readPair_of_not_low hhigh hbad]
    rfl
  | high :: low :: good, hgood, heven, done, index => by
    obtain ⟨hhigh, hlow, hgood⟩ : IsDigit high ∧ IsDigit low ∧ ∀ digit ∈ good, IsDigit digit := by
      simpa using hgood
    have hrest : (good ++ bad :: rest).length % 2 = 0 := by
      simp only [List.cons_append, List.length_cons] at heven
      omega
    simp only [List.cons_append, collect, readPair_of_digits hhigh hlow,
      collect_of_fault hbad hgood hrest, List.length_cons]
    congr 2
    omega

/-! ### Whole texts -/

theorem decodeBytes_of_odd {text : List UInt8} (h : text.length % 2 = 1) :
    decodeBytes text = .error .oddLength := by
  rw [decodeBytes, if_pos h]

theorem decodeBytes_of_digits {text : List UInt8} (heven : text.length % 2 = 0)
    (h : ∀ digit ∈ text, IsDigit digit) : decodeBytes text = .ok (pairBytes text) := by
  rw [decodeBytes, if_neg (by omega), collect_of_digits h]
  rfl

theorem decodeBytes_of_firstFault {text : List UInt8} {index : Nat} {byte : UInt8}
    (heven : text.length % 2 = 0) (h : FirstFault text index byte) :
    decodeBytes text = .error (.invalidCharacter (Char.ofUInt8 byte) index) := by
  obtain ⟨htext, hindex⟩ := h.eq_append
  rw [decodeBytes, if_neg (by omega), htext]
  rw [htext] at heven
  rw [collect_of_fault h.not_isDigit h.isDigit_before heven, hindex, Nat.zero_add]

/-- What is read are digits in pairs. -/
theorem decodeBytes_eq_ok {text bytes : List UInt8} (h : decodeBytes text = .ok bytes) :
    text.length % 2 = 0 ∧ (∀ digit ∈ text, IsDigit digit) ∧ bytes = pairBytes text := by
  obtain heven | hodd := Nat.mod_two_eq_zero_or_one text.length
  · obtain hdigits | ⟨index, byte, hfault⟩ := digits_or_firstFault text
    · rw [decodeBytes_of_digits heven hdigits] at h
      exact ⟨heven, hdigits, (Except.ok.inj h).symm⟩
    · rw [decodeBytes_of_firstFault heven hfault] at h
      cases h
  · rw [decodeBytes_of_odd hodd] at h
    cases h

/-- A text is refused for its odd length, or for its first fault. -/
theorem decodeBytes_eq_error {text : List UInt8} {reason : HexError}
    (h : decodeBytes text = .error reason) :
    (text.length % 2 = 1 ∧ reason = .oddLength) ∨
      ∃ index byte, text.length % 2 = 0 ∧ FirstFault text index byte ∧
        reason = .invalidCharacter (Char.ofUInt8 byte) index := by
  obtain heven | hodd := Nat.mod_two_eq_zero_or_one text.length
  · obtain hdigits | ⟨index, byte, hfault⟩ := digits_or_firstFault text
    · rw [decodeBytes_of_digits heven hdigits] at h
      cases h
    · rw [decodeBytes_of_firstFault heven hfault] at h
      exact .inr ⟨index, byte, heven, hfault, (Except.error.inj h).symm⟩
  · rw [decodeBytes_of_odd hodd] at h
    exact .inl ⟨hodd, (Except.error.inj h).symm⟩

end KeyDigest.Hex
