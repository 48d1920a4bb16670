import Mathlib.Data.Finset.Card
import Mathlib.Data.Finset.Image
import KeyDigest.Proofs.Digest.Spelling
import KeyDigest.Proofs.Hex.Inverse
import KeyDigest.Standard

/-! # The order of digests

Digests compare by their first byte that differs, which is how their texts compare and, since all
have the same number of bytes, the numbers that these write from the high end.  So sorting a list
sorts its texts, and counting its different digests counts its different texts.  A fingerprint is
the beginning of a digest, and in a sorted list whatever stands between two digests with one
fingerprint has it as well.
-/

namespace KeyDigest

/-! ## Comparing -/

namespace ByteOrder

/-- The numbers read so far decide, unless they are the same. -/
theorem foldl_value_lt_iff {a b : List UInt8} (h : a.length = b.length) (m n : Nat) :
    a.foldl (fun n byte => 256 * n + byte.toNat) m <
        b.foldl (fun n byte => 256 * n + byte.toNat) n ↔
      m < n ∨ m = n ∧ a < b := by
  induction a generalizing b m n with
  | nil =>
    obtain rfl : b = [] := List.eq_nil_of_length_eq_zero h.symm
    simp
  | cons x a ih =>
    cases b with
    | nil => cases h
    | cons y b =>
      have hx := x.toNat_lt
      have hy := y.toNat_lt
      rw [List.foldl_cons, List.foldl_cons, ih (Nat.succ.inj h), List.cons_lt_cons_iff,
        UInt8.lt_iff_toNat_lt, ← UInt8.toNat_inj]
      -- A byte is below 256, so it cannot make up for a smaller number in front of it.
      by_cases hab : a < b
      · simp only [hab, and_true]
        omega
      · simp only [hab, and_false, or_false]
        omega

theorem value_lt_iff {a b : List UInt8} (h : a.length = b.length) :
    bigEndian.value a < bigEndian.value b ↔ a < b := by
  rw [value, value, foldl_value_lt_iff h]
  simp

end ByteOrder

namespace Digest

theorem compareLex_eq_lt_iff {a b : List UInt8} :
    List.compareLex compare a b = .lt ↔ a < b := by
  induction a generalizing b with
  | nil => cases b <;> simp [List.compareLex_nil_cons, List.compareLex_nil_nil]
  | cons x a ih =>
    cases b with
    | nil => simp [List.compareLex_cons_nil]
    | cons y b =>
      rw [List.compareLex_cons_cons, Ordering.then_eq_lt, ih, Std.compare_eq_lt,
        Std.LawfulEqOrd.compare_eq_iff_eq, List.cons_lt_cons_iff]

theorem lt_iff_toList_lt {a b : Digest} : a < b ↔ a.toList < b.toList := by
  have hcompare : compare a b = List.compareLex compare a.toList b.toList := by
    rw [compare_def]
    exact Vector.compareLex_eq_compareLex_toList
  rw [← compareLex_eq_lt_iff, ← hcompare]
  rfl

theorem toHex_lt_iff {a b : Digest} : a.toHex < b.toHex ↔ a < b := by
  rw [toHex, toHex, Hex.encode_lt_iff, lt_iff_toList_lt]

theorem value_toList_lt_iff {a b : Digest} :
    ByteOrder.bigEndian.value a.toList < ByteOrder.bigEndian.value b.toList ↔ a < b := by
  have hlength : a.toList.length = b.toList.length := by rw [length_toList, length_toList]
  rw [ByteOrder.value_lt_iff hlength, lt_iff_toList_lt]

theorem le_iff_not_lt {a b : Digest} : a ≤ b ↔ ¬ b < a := by
  show (compare a b).isLE ↔ ¬ compare b a = .lt
  rw [Std.OrientedOrd.eq_swap (a := b)]
  cases compare a b <;> simp

theorem toHex_le_iff {a b : Digest} : a.toHex ≤ b.toHex ↔ a ≤ b := by
  rw [le_iff_not_lt, ← toHex_lt_iff, String.not_lt]

theorem le_antisymm {a b : Digest} (hab : a ≤ b) (hba : b ≤ a) : a = b :=
  toHex_inj (String.le_antisymm (toHex_le_iff.mpr hab) (toHex_le_iff.mpr hba))

theorem le_refl (digest : Digest) : digest ≤ digest :=
  toHex_le_iff.mp (String.le_refl _)

theorem eq_iff_not_lt {a b : Digest} : a = b ↔ ¬ a < b ∧ ¬ b < a := by
  rw [← le_iff_not_lt, ← le_iff_not_lt]
  constructor
  · rintro rfl
    exact ⟨le_refl a, le_refl a⟩
  · rintro ⟨hba, hab⟩
    exact le_antisymm hab hba

end Digest

/-! ## Sorted lists -/

/-- Byte sequences that differ in their beginnings stand in the order of these. -/
theorem lt_of_take_lt_take {n : Nat} {a b : List UInt8} (h : a.take n < b.take n) : a < b := by
  induction n generalizing a b with
  | zero => exact absurd h (List.lt_irrefl _)
  | succ n ih =>
    -- A sequence that is all beginning is less than its continuations, as its beginning is.
    cases b with
    | nil =>
      rw [List.take_nil] at h
      exact absurd h (List.not_lt_nil _)
    | cons y b =>
      cases a with
      | nil => exact List.nil_lt_cons _ _
      | cons x a =>
        rw [List.take_succ_cons, List.take_succ_cons, List.cons_lt_cons_iff] at h
        rw [List.cons_lt_cons_iff]
        exact h.imp_right fun ⟨hhead, htail⟩ => ⟨hhead, ih htail⟩

namespace Digest

/-! ### Sorting -/

theorem sorted_perm (digests : List Digest) : (sorted digests).Perm digests :=
  List.mergeSort_perm _ _

theorem pairwise_sorted (digests : List Digest) : (sorted digests).Pairwise (· ≤ ·) := by
  have htotal (a b : Digest) : ((compare a b).isLE || (compare b a).isLE) = true := by
    rw [Std.OrientedOrd.eq_swap (a := b)]
    cases compare a b <;> rfl
  have htrans (a b c : Digest) (hab : (compare a b).isLE) (hbc : (compare b c).isLE) :
      (compare a c).isLE :=
    Std.TransOrd.isLE_trans hab hbc
  exact (List.pairwise_mergeSort htrans htotal digests).imp Std.isLE_compare.mp

theorem map_toHex_sorted (digests : List Digest) :
    (sorted digests).map toHex = (digests.map toHex).mergeSort (· ≤ ·) := by
  apply List.map_mergeSort
  intro a _ b _
  rw [Bool.eq_iff_iff, Std.isLE_compare, decide_eq_true_iff, toHex_le_iff]

/-! ### Counting -/

theorem nodup_eraseDups {α : Type} [DecidableEq α] : ∀ l : List α, l.eraseDups.Nodup
  | [] => List.nodup_nil
  | a :: l => by
    rw [List.eraseDups_cons, List.nodup_cons, List.mem_eraseDups]
    exact ⟨by simp, nodup_eraseDups (l.filter fun b => !b == a)⟩
termination_by l => l.length
decreasing_by exact Nat.lt_succ_of_le (List.length_filter_le _ _)

theorem length_distinct (digests : List Digest) :
    (distinct digests).length = digests.toFinset.card := by
  have hset : digests.eraseDups.toFinset = digests.toFinset := by
    ext digest
    rw [List.mem_toFinset, List.mem_toFinset, List.mem_eraseDups]
  rw [distinct, ← hset, List.toFinset_card_of_nodup (nodup_eraseDups digests)]

theorem card_toFinset_map_toHex (digests : List Digest) :
    (digests.map toHex).toFinset.card = digests.toFinset.card := by
  have hset : (digests.map toHex).toFinset = digests.toFinset.image toHex := by
    ext text
    rw [List.mem_toFinset, List.mem_map, Finset.mem_image]
    simp only [List.mem_toFinset]
  rw [hset, Finset.card_image_of_injective _ fun _ _ => toHex_inj]

/-! ### Fingerprints -/

theorem toList_fingerprint (digest : Digest) :
    digest.fingerprint.toList = digest.toList.take fingerprintSize := by
  rw [fingerprint, toList]
  exact Vector.toList_take

theorem fingerprint_mono {a b : Digest} (h : a ≤ b) :
    a.fingerprint.toList ≤ b.fingerprint.toList := by
  rw [toList_fingerprint, toList_fingerprint, ← List.not_lt]
  intro hlt
  exact le_iff_not_lt.mp h (lt_iff_toList_lt.mpr (lt_of_take_lt_take hlt))

theorem encode_fingerprint (digest : Digest) :
    Hex.encode digest.fingerprint.toList = String.ofList (digest.toHex.toList.take 10) := by
  rw [toList_fingerprint, toHex, Hex.take_toList_encode 5, String.ofList_toList]

theorem fingerprint_eq_of_between {a b c : Digest} (hab : a ≤ b) (hbc : b ≤ c)
    (h : a.fingerprint = c.fingerprint) : b.fingerprint = a.fingerprint := by
  apply Vector.toList_inj.mp
  apply List.le_antisymm
  · rw [h]
    exact fingerprint_mono hbc
  · exact fingerprint_mono hab

theorem fingerprint_eq_of_sublist {digests : List Digest} (hsorted : digests.Pairwise (· ≤ ·))
    {a b c : Digest} (hplaces : [a, b, c].Sublist digests) (h : a.fingerprint = c.fingerprint) :
    b.fingerprint = a.fingerprint := by
  have hordered := hsorted.sublist hplaces
  obtain ⟨ha, hb, -⟩ : (∀ d ∈ [b, c], a ≤ d) ∧ (∀ d ∈ [c], b ≤ d) ∧ _ := by
    simpa only [List.pairwise_cons] using hordered
  exact fingerprint_eq_of_between (ha b (by simp)) (hb c (by simp)) h

/-! ### One order -/

/-- Digests, their byte sequences, the numbers that these write and their texts are in one order.
Sorting and counting digests is therefore sorting and counting texts, and fingerprints ascend with
the digests and stand together where these are sorted. -/
theorem order_of_digests :
    (∀ a b : Digest,
      (a < b ↔ a.toList < b.toList) ∧
      (a < b ↔ ByteOrder.bigEndian.value a.toList < ByteOrder.bigEndian.value b.toList) ∧
      (a < b ↔ a.format .plain { } < b.format .plain { }) ∧
      (a = b ↔ ¬ a < b ∧ ¬ b < a)) ∧
    (∀ digests : List Digest,
      (sorted digests).Perm digests ∧ (sorted digests).Pairwise (· ≤ ·) ∧
      (sorted digests).map (fun digest => digest.format .plain { }) =
        (digests.map fun digest => digest.format .plain { }).mergeSort (· ≤ ·) ∧
      (distinct digests).length = digests.toFinset.card ∧
      (distinct digests).length =
        (digests.map fun digest => digest.format .plain { }).toFinset.card) ∧
    (∀ a b : Digest, a ≤ b → a.fingerprint.toList ≤ b.fingerprint.toList) ∧
    (∀ digest : Digest, Hex.encode digest.fingerprint.toList =
      String.ofList ((digest.format .plain { }).toList.take 10)) ∧
    ∀ (digests : List Digest) (a b c : Digest), digests.Pairwise (· ≤ ·) →
      [a, b, c].Sublist digests → a.fingerprint = c.fingerprint →
        b.fingerprint = a.fingerprint := by
  have hplain (digest : Digest) : digest.format .plain { } = digest.toHex :=
    (isTextOf_toHex digest).plain_eq
  simp only [hplain]
  refine ⟨fun a b => ⟨lt_iff_toList_lt, value_toList_lt_iff.symm, toHex_lt_iff.symm,
      eq_iff_not_lt⟩,
    fun digests => ⟨sorted_perm digests, pairwise_sorted digests, map_toHex_sorted digests,
      length_distinct digests, ?_⟩,
    fun a b => fingerprint_mono, encode_fingerprint,
    fun digests a b c hsorted hplaces => fingerprint_eq_of_sublist hsorted hplaces⟩
  exact (length_distinct digests).trans (card_toFinset_map_toHex digests).symm

theorem order_of_digests_in_triple :
    [zero, ⟨zero.bytes.set 19 1⟩, ⟨zero.bytes.set 19 2⟩].Pairwise (· ≤ ·) ∧
      zero.fingerprint = fingerprint ⟨zero.bytes.set 19 2⟩ ∧
      fingerprint ⟨zero.bytes.set 19 1⟩ = zero.fingerprint := by
  have hsorted : [zero, ⟨zero.bytes.set 19 1⟩, ⟨zero.bytes.set 19 2⟩].Pairwise (· ≤ ·) := by
    decide +kernel
  have hends : zero.fingerprint = fingerprint ⟨zero.bytes.set 19 2⟩ := by decide +kernel
  exact ⟨hsorted, hends,
    order_of_digests.2.2.2.2 _ _ _ _ hsorted (List.Sublist.refl _) hends⟩

end Digest

end KeyDigest
