import KeyDigest.Hashing
import KeyDigest.Proofs.Block.Padding
import KeyDigest.Proofs.Sha256
import KeyDigest.Standard

/-! # The running hash is RIPEMD-160

The running compression takes a line pass by pass, and from pass to pass only the order of the words
is carried on; the standard has tables over all eighty steps.  `Pass.Covers` says that a pass agrees
with the tables from some step on, and `Line` that passes do one after another.  A pass that covers
its steps runs as they do (`runPass_eq_foldl`), and so does a line (`Line.runLine_eq_foldl`); both
lines are checked against their tables.  With SHA-256, a digest of key data is then what the two
standards make of the message in turn.
-/

/-! ## Compression -/

namespace KeyDigest.Ripemd160

open Standard

/-! ### Boolean functions

Two of them have formulas of their own, which come to the same as the standard's on each bit.
-/

theorem chooseFirst_eq (x y z : UInt32) : chooseFirst x y z = (x &&& y) ||| (~~~x &&& z) := by
  refine word_ext fun i hi => ?_
  simp only [chooseFirst, UInt32.toBitVec_xor, UInt32.toBitVec_and, UInt32.toBitVec_or,
    UInt32.toBitVec_not, BitVec.getElem_xor, BitVec.getElem_and, BitVec.getElem_or,
    BitVec.getElem_not]
  grind

/-- The last choice is the first one with its arguments moved round. -/
theorem chooseLast_eq (x y z : UInt32) : chooseLast x y z = (x &&& z) ||| (y &&& ~~~z) := by
  have hmoved : chooseLast x y z = chooseFirst z x y := rfl
  rw [hmoved, chooseFirst_eq, UInt32.and_comm z x, UInt32.and_comm (~~~z) y]

theorem rotateLeft_eq_rol (x n : UInt32) : rotateLeft x n = rol n.toNat x :=
  rotateLeft_eq x n

section Functions

variable {j : Nat}

theorem f_eq_parity (h : j < 16) : f j = parity := by
  funext x y z
  rw [f, if_pos h, parity]

theorem f_eq_chooseFirst (hlow : 16 ≤ j) (hhigh : j < 32) : f j = chooseFirst := by
  funext x y z
  rw [f, if_neg (by omega), if_pos hhigh, chooseFirst_eq]

theorem f_eq_impliesFirst (hlow : 32 ≤ j) (hhigh : j < 48) : f j = impliesFirst := by
  funext x y z
  rw [f, if_neg (by omega), if_neg (by omega), if_pos hhigh, impliesFirst]

theorem f_eq_chooseLast (hlow : 48 ≤ j) (hhigh : j < 64) : f j = chooseLast := by
  funext x y z
  rw [f, if_neg (by omega), if_neg (by omega), if_neg (by omega), if_pos hhigh, chooseLast_eq]

theorem f_eq_impliesLast (h : 64 ≤ j) : f j = impliesLast := by
  funext x y z
  rw [f, if_neg (by omega), if_neg (by omega), if_neg (by omega), if_neg (by omega), impliesLast]

end Functions

/-! ### Tables -/

/-- What the standard gives for the steps of a line, by their numbers. -/
structure Tables where
  mix : Nat → UInt32 → UInt32 → UInt32 → UInt32
  constant : Nat → UInt32
  words : List Nat
  rotations : List Nat

def leftTables : Tables where
  mix := f
  constant := leftConstant
  words := leftWords
  rotations := leftRotations

def rightTables : Tables where
  mix j := f (79 - j)
  constant := rightConstant
  words := rightWords
  rotations := rightRotations

/-- The working variables after step `j` of a line, for a block with the words `m`. -/
def Tables.step (tables : Tables) (m : Nat → UInt32) (s : State) (j : Nat) : State :=
  ⟨s.e, rol (tables.rotations.getD j 0)
    (s.a + tables.mix j s.b s.c s.d + m (tables.words.getD j 0) + tables.constant j) + s.e,
    s.b, rol 10 s.c, s.d⟩

theorem leftTables_step : leftTables.step = leftStep := rfl

theorem rightTables_step : rightTables.step = rightStep := rfl

/-! ### Passes -/

/-- The tables give for the sixteen steps from `start` on what the pass has for them, when it takes
the words in the given order. -/
structure Pass.Covers (pass : Pass) (tables : Tables) (order : WordOrder) (start : Nat) : Prop where
  mix_eq : ∀ i : Fin 16, tables.mix (start + i) = pass.mix
  entries_eq : ∀ i : Fin 16, tables.constant (start + i) = pass.constant ∧
    tables.words.getD (start + i) 0 = order.get i ∧
    tables.rotations.getD (start + i) 0 = (pass.rotations.get i).toNat

section Runs

variable {tables : Tables} {order : WordOrder} {start : Nat} {words : Vector UInt32 16}
  {m : Nat → UInt32}

theorem Pass.Covers.step_eq {pass : Pass} (h : pass.Covers tables order start)
    (hwords : ∀ i : Fin 16, words.get i = m i) (s : State) (i : Fin 16) :
    Ripemd160.step pass s (words.get (order.get i)) (pass.rotations.get i) =
      tables.step m s (start + i) := by
  obtain ⟨hconstant, hword, hrotation⟩ := h.entries_eq i
  rw [Tables.step, h.mix_eq, hconstant, hword, hrotation, ← hwords, Ripemd160.step,
    rotateLeft_eq_rol, rotateLeft_eq_rol]
  rfl

theorem range'_eq_map_finRange (start : Nat) :
    List.range' start 16 = (List.finRange 16).map fun i => start + i.val :=
  List.ext_getElem (by simp) (by simp)

theorem runPass_eq_foldl {pass : Pass} (h : pass.Covers tables order start)
    (hwords : ∀ i : Fin 16, words.get i = m i) (s : State) :
    runPass words order pass s = (List.range' start 16).foldl (tables.step m) s := by
  rw [runPass, range'_eq_map_finRange, List.foldl_map]
  congr 1
  funext s i
  exact h.step_eq hwords s i

/-! ### Lines -/

/-- Passes that cover their steps one after another, where each leaves the order of the words to
the next. -/
inductive Line (tables : Tables) : WordOrder → List Pass → Nat → Prop where
  | nil {order : WordOrder} {start : Nat} : Line tables order [] start
  | cons {order : WordOrder} {pass : Pass} {passes : List Pass} {start : Nat} :
      pass.Covers tables order start → Line tables order.shuffled passes (start + 16) →
      Line tables order (pass :: passes) start

theorem Line.runLine_eq_foldl {passes : List Pass} (h : Line tables order passes start)
    (hwords : ∀ i : Fin 16, words.get i = m i) (s : State) :
    runLine words order passes s =
      (List.range' start (16 * passes.length)).foldl (tables.step m) s := by
  induction h generalizing s with
  | nil => rfl
  | @cons order pass passes start hpass _ ih =>
    have hlength : 16 * (pass :: passes).length = 16 + 16 * passes.length := by
      rw [List.length_cons]
      omega
    calc runLine words order (pass :: passes) s
        = runLine words order.shuffled passes (runPass words order pass s) := rfl
      _ = (List.range' (start + 16) (16 * passes.length)).foldl (tables.step m)
            ((List.range' start 16).foldl (tables.step m) s) := by
          rw [ih, runPass_eq_foldl hpass hwords]
      _ = (List.range' start (16 * (pass :: passes).length)).foldl (tables.step m) s := by
          rw [hlength, ← List.range'_append_1, List.foldl_append]

end Runs

theorem left_line : Line leftTables inOrder leftPasses 0 := by
  refine .cons ⟨fun i => ?_, by decide +kernel⟩ <| .cons ⟨fun i => ?_, by decide +kernel⟩ <|
    .cons ⟨fun i => ?_, by decide +kernel⟩ <| .cons ⟨fun i => ?_, by decide +kernel⟩ <|
    .cons ⟨fun i => ?_, by decide +kernel⟩ .nil
  · exact f_eq_parity (by omega)
  · exact f_eq_chooseFirst (by omega) (by omega)
  · exact f_eq_impliesFirst (by omega) (by omega)
  · exact f_eq_chooseLast (by omega) (by omega)
  · exact f_eq_impliesLast (by omega)

/-- The right line takes the boolean functions from the other end. -/
theorem right_line : Line rightTables strided rightPasses 0 := by
  refine .cons ⟨fun i => ?_, by decide +kernel⟩ <| .cons ⟨fun i => ?_, by decide +kernel⟩ <|
    .cons ⟨fun i => ?_, by decide +kernel⟩ <| .cons ⟨fun i => ?_, by decide +kernel⟩ <|
    .cons ⟨fun i => ?_, by decide +kernel⟩ .nil
  · exact f_eq_impliesLast (by omega)
  · exact f_eq_chooseLast (by omega) (by omega)
  · exact f_eq_impliesFirst (by omega) (by omega)
  · exact f_eq_chooseFirst (by omega) (by omega)
  · exact f_eq_parity (by omega)

/-- The chaining value after a block is the one that the standard gives for its bytes. -/
theorem compress_eq_absorb (chain : State) (block : Block) :
    compress chain block = absorb chain block.toList := by
  have hwords (i : Fin 16) : (block.words .littleEndian).get i =
      Padding.wordAt .littleEndian block.toList i :=
    Block.getElem_words .littleEndian block i.isLt
  rw [compress, left_line.runLine_eq_foldl hwords, right_line.runLine_eq_foldl hwords,
    leftTables_step, rightTables_step, absorb, List.range_eq_range']
  rfl

end KeyDigest.Ripemd160

/-! ## Messages -/

namespace KeyDigest

open Log

theorem Ripemd160.toList_sum (message : List UInt8) :
    (sum message).toList = Standard.hash message :=
  hash.toList_sum compress_eq_absorb (fun _ => rfl) message

/-- The plain hash of a message is RIPEMD-160, and the digest of a message is RIPEMD-160 of the
thirty-two bytes that SHA-256 gives for it. -/
theorem Hashing.digest_eq_standard (message : List UInt8) (threshold : Threshold) :
    (Ripemd160.sum message).toList = Ripemd160.Standard.hash message ∧
      (Sha256.Standard.hash message).length = 32 ∧
      ((digest message).value threshold).toList =
        Ripemd160.Standard.hash (Sha256.Standard.hash message) := by
  refine ⟨Ripemd160.toList_sum message, ?_, ?_⟩
  · rw [← Sha256.toList_sum, Vector.length_toList]
  · rw [value_digest, Digest.ofMessage, Digest.toList, Ripemd160.toList_sum, Sha256.toList_sum]

end KeyDigest
