import KeyDigest.Proofs.Block.Padding
import KeyDigest.Standard

/-! # The running hash is SHA-256

The running compression keeps sixteen words of the schedule in a register that moves on by one word
a round; the standard reads the schedule by the number of the step.  `Window.Holds` says from which
step on a register shows the schedule.  One round moves both on by one step (`Window.Holds.shift`,
`round_eq_step`), a run of rounds by as many (`foldl_advance`), and sixty-four are the standard's
compression (`compress_eq_absorb`).
-/

namespace KeyDigest.Sha256

/-! ## Constants

The running hash holds its constants as literals.  That they are the bits of the roots is checked by
computing the roots in whole numbers.
-/

/-- The first sixty-four primes, sieved once for all the constants. -/
theorem primes_eq : Standard.primes =
    [2, 3, 5, 7, 11, 13, 17, 19, 23, 29, 31, 37, 41, 43, 47, 53, 59, 61, 67, 71, 73, 79, 83, 89,
     97, 101, 103, 107, 109, 113, 127, 131, 137, 139, 149, 151, 157, 163, 167, 173, 179, 181, 191,
     193, 197, 199, 211, 223, 227, 229, 233, 239, 241, 251, 257, 263, 269, 271, 277, 281, 283, 293,
     307, 311] := by
  decide +kernel

theorem map_constant : (List.range 64).map Standard.constant = roundConstants := by
  unfold Standard.constant
  rw [primes_eq]
  decide +kernel

theorem initial_eq : Standard.initial = initial := by
  simp only [Standard.initial, Standard.initialWord, primes_eq]
  decide +kernel

/-! ## Compression -/

section Compression

open Standard

/-! ### Word functions

The formulas differ from the standard's, but they come to the same on each bit.
-/

theorem choose_eq_ch (x y z : UInt32) : choose x y z = ch x y z := by
  refine word_ext fun i hi => ?_
  simp only [choose, ch, UInt32.toBitVec_xor, UInt32.toBitVec_and, UInt32.toBitVec_not,
    BitVec.getElem_xor, BitVec.getElem_and, BitVec.getElem_not]
  grind

theorem majority_eq_maj (x y z : UInt32) : majority x y z = maj x y z := by
  refine word_ext fun i hi => ?_
  simp only [majority, maj, UInt32.toBitVec_xor, UInt32.toBitVec_and, UInt32.toBitVec_or,
    BitVec.getElem_xor, BitVec.getElem_and, BitVec.getElem_or]
  grind

theorem rotateRight_eq_rotr (x n : UInt32) : rotateRight x n = rotr n.toNat x :=
  rotateRight_eq x n

theorem bigSigma0_eq (x : UInt32) : bigSigma0 x = upperSigma₀ x := by
  simp only [bigSigma0, rotateRight_eq_rotr]
  rfl

theorem bigSigma1_eq (x : UInt32) : bigSigma1 x = upperSigma₁ x := by
  simp only [bigSigma1, rotateRight_eq_rotr]
  rfl

theorem smallSigma0_eq (x : UInt32) : smallSigma0 x = lowerSigma₀ x := by
  simp only [smallSigma0, rotateRight_eq_rotr]
  rfl

theorem smallSigma1_eq (x : UInt32) : smallSigma1 x = lowerSigma₁ x := by
  simp only [smallSigma1, rotateRight_eq_rotr]
  rfl

/-! ### The schedule -/

theorem schedule_of_lt (m : Nat → UInt32) {t : Nat} (h : t < 16) : schedule m t = m t := by
  rw [schedule, dif_pos h]

theorem schedule_add_sixteen (m : Nat → UInt32) (t : Nat) :
    schedule m (t + 16) =
      lowerSigma₁ (schedule m (t + 14)) + schedule m (t + 9) +
        lowerSigma₀ (schedule m (t + 1)) + schedule m t := by
  rw [schedule, dif_neg (by omega)]
  rfl

namespace Window

/-- A window shows the sixteen words of the schedule from step `t` on. -/
def Holds (window : Window) (m : Nat → UInt32) (t : Nat) : Prop :=
  ∀ (i : Nat) (h : i < 16), window[i] = schedule m (t + i)

theorem getElem_shift_of_lt (window : Window) {i : Nat} (h : i < 15) :
    window.shift[i] = window[i + 1] := by
  rw [shift, Vector.getElem_push_lt h, Vector.tail, Vector.getElem_cast]
  exact (Vector.getElem_extract (by omega)).trans (by simp only [Nat.add_comm])

theorem getElem_shift_last (window : Window) : window.shift[15] = window.next := by
  simp [shift]

theorem Holds.next_eq {window : Window} {m : Nat → UInt32} {t : Nat} (h : window.Holds m t) :
    window.next = schedule m (t + 16) := by
  rw [schedule_add_sixteen, next, h 14, h 9, h 1, h 0, smallSigma0_eq, smallSigma1_eq]
  rfl

theorem Holds.shift {window : Window} {m : Nat → UInt32} {t : Nat} (h : window.Holds m t) :
    window.shift.Holds m (t + 1) := by
  intro i hi
  -- All words but the last were in the window before.
  by_cases hlast : i < 15
  · rw [getElem_shift_of_lt window hlast, h (i + 1) (by omega)]
    congr 1
    omega
  · obtain rfl : i = 15 := by omega
    rw [getElem_shift_last, h.next_eq]

end Window

/-! ### Rounds -/

theorem round_eq_step (m : Nat → UInt32) (s : State) (t : Nat) :
    round s (constant t) (schedule m t) = step m s t := by
  rw [round, choose_eq_ch, majority_eq_maj, bigSigma0_eq, bigSigma1_eq]
  rfl

/-- So many rounds from the start of the schedule move the window on by as many steps, and leave
the working variables where the steps of the standard do. -/
theorem foldl_advance {window : Window} {m : Nat → UInt32} (h : window.Holds m 0) (s : State)
    (count : Nat) :
    (((List.range count).map constant).foldl advance (window, s)).1.Holds m count ∧
      (((List.range count).map constant).foldl advance (window, s)).2 =
        (List.range count).foldl (step m) s := by
  induction count with
  | zero => exact ⟨h, rfl⟩
  | succ count ih =>
    -- The round reads the front of the window; that this is the word of its step is what the
    -- window holding has to be carried along for.
    obtain ⟨hwindow, hstate⟩ := ih
    rw [List.range_succ, List.map_append, List.foldl_append, List.foldl_append]
    refine ⟨hwindow.shift, ?_⟩
    simp only [List.map_cons, List.map_nil, List.foldl_cons, List.foldl_nil, advance]
    rw [hstate, hwindow 0 (by decide), Nat.add_zero, round_eq_step]

/-- The chaining value after a block is the one that the standard gives for its bytes. -/
theorem compress_eq_absorb (chain : State) (block : Block) :
    compress chain block = absorb chain block.toList := by
  have hwindow : Window.Holds (block.words .bigEndian)
      (Padding.wordAt .bigEndian block.toList) 0 := by
    intro i hi
    rw [Block.getElem_words .bigEndian block hi, Nat.zero_add, schedule_of_lt _ hi]
  have hrounds := (foldl_advance hwindow chain 64).2
  rw [map_constant] at hrounds
  rw [compress, hrounds, absorb]
  simp only [State.add, UInt32.add_comm]

end Compression

/-! ## Messages -/

theorem toList_sum (message : List UInt8) : (sum message).toList = Standard.hash message := by
  rw [Standard.hash, initial_eq]
  exact hash.toList_sum compress_eq_absorb (fun _ => rfl) message

/-- The SHA-256 of a message is the one of the standard.  The engine that computes it compresses
the blocks of the padded message, no more and no fewer, and is left with nothing pending. -/
theorem sum_eq_standard (message : List UInt8) :
    (sum message).toList = Standard.hash message ∧
      ∃ blocks : List Block, blocks.length = (message.length + 8) / 64 + 1 ∧
        blocks.flatMap Vector.toList = Padding.padded .bigEndian message ∧
        ((Engine.start hash).absorb message).pad.chain = blocks.foldl compress initial ∧
        ((Engine.start hash).absorb message).pad.pending = [] :=
  ⟨toList_sum message, (Engine.absorbed_message hash message).pad_blocks⟩

end KeyDigest.Sha256
