import KeyDigest.Block
import KeyDigest.Proofs.Block.Absorbed
import KeyDigest.Standard

/-! # Closing a message

A running engine moves bytes into words and out of them by shifts; the standards read the same bytes
as numbers, and rotate bit vectors.  Nor does the engine see the padded message: it absorbs the
marker, the zeros that its pending bytes call for, and the length that it has counted.
`Engine.Absorbed.pad` says that it has absorbed exactly the padded message after that, so nothing is
left pending.
-/

namespace KeyDigest

/-! ## Words and numbers -/

/-! ### Bits -/

/-- Words that have the same bits are equal. -/
theorem word_ext {x y : UInt32} (h : ∀ (i : Nat) (hi : i < 32), x.toBitVec[i] = y.toBitVec[i]) :
    x = y :=
  UInt32.toBitVec_inj.mp (BitVec.eq_of_getElem_eq h)

/-- By how much the two shifts of a rotation move, the amount of a shift being taken modulo 32. -/
theorem shift_amounts (n : UInt32) :
    (n.toBitVec % 32).toNat = n.toNat % 32 ∧
      ((32 - n).toBitVec % 32).toNat = (32 - n.toNat % 32) % 32 := by
  have hlt := n.toNat_lt
  refine ⟨by simp, ?_⟩
  rw [BitVec.toNat_umod, UInt32.toNat_toBitVec, UInt32.toNat_sub]
  simp only [UInt32.reduceToNat, BitVec.reduceToNat]
  omega

theorem rotateRight_eq (x n : UInt32) :
    rotateRight x n = .ofBitVec (x.toBitVec.rotateRight n.toNat) := by
  apply UInt32.toBitVec_inj.mp
  rw [rotateRight, UInt32.toBitVec_or, UInt32.toBitVec_shiftRight, UInt32.toBitVec_shiftLeft,
    BitVec.rotateRight_def, BitVec.ushiftRight_eq', BitVec.shiftLeft_eq', (shift_amounts n).1,
    (shift_amounts n).2]
  by_cases hzero : n.toNat % 32 = 0
  · simp [hzero]
  · rw [Nat.mod_eq_of_lt (by omega : 32 - n.toNat % 32 < 32)]

theorem rotateLeft_eq (x n : UInt32) :
    rotateLeft x n = .ofBitVec (x.toBitVec.rotateLeft n.toNat) := by
  apply UInt32.toBitVec_inj.mp
  rw [rotateLeft, UInt32.toBitVec_or, UInt32.toBitVec_shiftRight, UInt32.toBitVec_shiftLeft,
    BitVec.rotateLeft_def, BitVec.ushiftRight_eq', BitVec.shiftLeft_eq', (shift_amounts n).1,
    (shift_amounts n).2]
  by_cases hzero : n.toNat % 32 = 0
  · simp [hzero, BitVec.ushiftRight_eq_zero]
  · rw [Nat.mod_eq_of_lt (by omega : 32 - n.toNat % 32 < 32)]

namespace ByteOrder

/-! ### Writing -/

theorem toUInt8_shiftRight_ofNat (n : Nat) (shift : UInt64) (h : shift.toNat ≤ 56) :
    (UInt64.ofNat n >>> shift).toUInt8 = UInt8.ofNat (n >>> shift.toNat) := by
  apply UInt8.toNat_inj.mp
  have hmod : shift.toNat % 64 = shift.toNat := Nat.mod_eq_of_lt (by omega)
  -- Reducing modulo `2 ^ 64` first does no harm: the eight bits end below the cut.
  have hsplit : 2 ^ 64 = 2 ^ shift.toNat * 2 ^ (64 - shift.toNat) := by
    rw [← Nat.pow_add, Nat.add_sub_cancel' (by omega)]
  have hdvd : 2 ^ 8 ∣ 2 ^ (64 - shift.toNat) := Nat.pow_dvd_pow 2 (by omega)
  rw [UInt64.toNat_toUInt8, UInt64.toNat_shiftRight, UInt64.toNat_ofNat', UInt8.toNat_ofNat',
    hmod, Nat.shiftRight_eq_div_pow, Nat.shiftRight_eq_div_pow, hsplit, Nat.mod_mul_right_div_self,
    Nat.mod_mod_of_dvd _ hdvd]

/-- The last eight bytes of a padded message: a number below `2 ^ 64` in full, and of a greater
one what is left modulo `2 ^ 64`. -/
theorem longBytes_eq_numeral (order : ByteOrder) (n : Nat) :
    order.longBytes n.toUInt64 = order.numeral 8 n := by
  have hlow : (UInt64.ofNat n).toUInt8 = UInt8.ofNat n := by simp
  cases order <;>
    simp [longBytes, numeral, List.range_eq_range', List.range', toUInt8_shiftRight_ofNat, hlow,
      Nat.shiftRight_eq_div_pow]

theorem wordBytes_eq_numeral (order : ByteOrder) (w : UInt32) :
    order.wordBytes w = order.numeral 4 w.toNat := by
  have hbyte (shift : UInt32) (h : shift.toNat < 32) :
      (w >>> shift).toUInt8 = UInt8.ofNat (w.toNat / 2 ^ shift.toNat) := by
    apply UInt8.toNat_inj.mp
    rw [UInt32.toNat_toUInt8, UInt32.toNat_shiftRight, UInt8.toNat_ofNat', Nat.mod_eq_of_lt h,
      Nat.shiftRight_eq_div_pow]
  cases order <;> simp [wordBytes, numeral, List.range_eq_range', List.range', hbyte]

/-! ### Reading -/

/-- Bytes side by side do not overlap, so joining their bits adds up their values. -/
theorem or_eq_add {a b c d : Nat} (ha : a < 256) (hb : b < 256) (hc : c < 256) (hd : d < 256) :
    a * 16777216 % 4294967296 ||| b * 65536 % 4294967296 ||| c * 256 % 4294967296 ||| d =
      (256 * (256 * (256 * a + b) + c) + d) % 4294967296 := by
  -- Each byte is joined below a multiple of its own place, and there `|||` is addition.
  have htop := Nat.two_pow_add_eq_or_of_lt (i := 24) (by omega : b * 65536 < 2 ^ 24) a
  have hmiddle := Nat.two_pow_add_eq_or_of_lt (i := 16) (by omega : c * 256 < 2 ^ 16)
    (256 * a + b)
  have hlow := Nat.two_pow_add_eq_or_of_lt (i := 8) (by omega : d < 2 ^ 8)
    (256 * (256 * a + b) + c)
  rw [Nat.mod_eq_of_lt (by omega : a * 16777216 < 4294967296),
    Nat.mod_eq_of_lt (by omega : b * 65536 < 4294967296),
    Nat.mod_eq_of_lt (by omega : c * 256 < 4294967296),
    Nat.mod_eq_of_lt (by omega : 256 * (256 * (256 * a + b) + c) + d < 4294967296)]
  calc a * 16777216 ||| b * 65536 ||| c * 256 ||| d
      = 2 ^ 24 * a + b * 65536 ||| c * 256 ||| d := by rw [htop, Nat.mul_comm (2 ^ 24)]
    _ = 2 ^ 16 * (256 * a + b) ||| c * 256 ||| d := by congr 2; omega
    _ = 2 ^ 8 * (256 * (256 * a + b) + c) ||| d := by rw [← hmiddle]; congr 1; omega
    _ = 256 * (256 * (256 * a + b) + c) + d := by rw [← hlow]

theorem word_eq_value (order : ByteOrder) (b₀ b₁ b₂ b₃ : UInt8) :
    order.word b₀ b₁ b₂ b₃ = UInt32.ofNat (order.value [b₀, b₁, b₂, b₃]) := by
  apply UInt32.toNat_inj.mp
  cases order with
  | bigEndian =>
    simpa [word, value, Nat.shiftLeft_eq] using
      or_eq_add b₀.toNat_lt b₁.toNat_lt b₂.toNat_lt b₃.toNat_lt
  | littleEndian =>
    simpa [word, value, Nat.shiftLeft_eq, Nat.add_comm] using
      or_eq_add b₃.toNat_lt b₂.toNat_lt b₁.toNat_lt b₀.toNat_lt

end ByteOrder

/-- The words of a block are those that the standards read at each position. -/
theorem Block.getElem_words (order : ByteOrder) (block : Block) {i : Nat} (h : i < 16) :
    (block.words order)[i] = Padding.wordAt order block.toList i := by
  have hlength : block.toList.length = 64 := Vector.length_toList
  have hfour : (block.toList.drop (4 * i)).take 4 =
      [block[4 * i], block[4 * i + 1], block[4 * i + 2], block[4 * i + 3]] := by
    rw [List.drop_eq_getElem_cons (by omega), List.drop_eq_getElem_cons (by omega),
      List.drop_eq_getElem_cons (by omega), List.drop_eq_getElem_cons (by omega)]
    simp
  rw [Padding.wordAt, hfour, ← ByteOrder.word_eq_value]
  simp [Block.words]

/-! ## Padded messages -/

namespace Padding

/-! ### The padded message -/

/-- The zeros are the least that leave eight bytes of a block. -/
theorem zeros_spec (length : Nat) :
    zeros length < 64 ∧ (length + 1 + zeros length) % 64 = 56 ∧
      ∀ k, (length + 1 + k) % 64 = 56 → zeros length ≤ k := by
  -- The residues repeat after 64, so the search has a closed form.
  have hfind : (List.range 64).find? (fun k => (length + 1 + k) % 64 = 56) =
      some ((119 - length % 64) % 64) := by
    rw [List.find?_range_eq_some]
    refine ⟨?_, ?_, fun k hk => ?_⟩
    · simp only [decide_eq_true_eq]
      omega
    · rw [List.mem_range]
      omega
    · simp only [Bool.not_eq_true', decide_eq_false_iff_not]
      omega
  have hzeros : zeros length = (119 - length % 64) % 64 := by rw [zeros, hfind]; rfl
  rw [hzeros]
  exact ⟨by omega, by omega, fun k hk => by omega⟩

theorem zeros_eq (length : Nat) : zeros length = (120 - (length + 1) % 64) % 64 := by
  have := zeros_spec length
  omega

@[simp] theorem length_numeral (order : ByteOrder) (width n : Nat) :
    (order.numeral width n).length = width := by
  rw [ByteOrder.numeral, List.length_map, List.length_range]

theorem length_padded (order : ByteOrder) (message : List UInt8) :
    (padded order message).length = 64 * ((message.length + 8) / 64 + 1) := by
  have := zeros_spec message.length
  simp only [padded, List.length_append, List.length_replicate, length_numeral, List.length_cons,
    List.length_nil]
  omega

end Padding

namespace Engine.Absorbed

variable {State : Type} {size : Nat} {hash : BlockHash State size} {engine : Engine hash}
  {message : List UInt8}

/-- An engine that is closed has absorbed the padded message. -/
theorem pad (h : engine.Absorbed message) :
    engine.pad.Absorbed (Padding.padded hash.order message) := by
  have hmarked := h.absorb [0x80]
  -- The engine counts the zeros from its pending bytes, the standard from the length.
  have hzeros : (120 - (engine.absorb [0x80]).pending.length) % 64 =
      Padding.zeros message.length := by
    rw [hmarked.length_pending, List.length_append, Padding.zeros_eq]
    rfl
  have hlength : hash.order.longBytes (8 * engine.total).toUInt64 =
      hash.order.numeral 8 (8 * message.length) := by
    rw [h.total_eq, ByteOrder.longBytes_eq_numeral]
  rw [Padding.padded, ← hzeros, ← hlength]
  exact (hmarked.absorb _).absorb _

/-- What a closed engine has compressed: the blocks of the padded message, and nothing is left
pending. -/
theorem pad_blocks (h : engine.Absorbed message) :
    ∃ blocks : List Block, blocks.length = (message.length + 8) / 64 + 1 ∧
      blocks.flatMap Vector.toList = Padding.padded hash.order message ∧
      engine.pad.chain = blocks.foldl hash.compress hash.initial ∧ engine.pad.pending = [] := by
  have hlength := Padding.length_padded hash.order message
  have haligned : 64 ∣ (Padding.padded hash.order message).length := by
    rw [hlength]
    exact Nat.dvd_mul_right ..
  refine ⟨_, ?_, Block.flatMap_toList_whole haligned, h.pad.chain_eq, ?_⟩
  · rw [Block.length_whole, hlength, Nat.mul_div_cancel_left _ (by decide)]
  · rw [h.pad.pending_eq, Nat.mul_div_cancel' haligned, List.drop_length]

end Engine.Absorbed

/-- A running hash is the hash of a standard that pads the message, cuts it into blocks and absorbs
them one by one, if it compresses a block as the standard absorbs it and writes the same words. -/
theorem BlockHash.toList_sum {State : Type} {size : Nat} (hash : BlockHash State size)
    {absorb : State → List UInt8 → State} {words : State → List UInt32}
    (hcompress : ∀ chain block, hash.compress chain block = absorb chain block.toList)
    (houtput : ∀ s, (hash.output s).toList = (words s).flatMap hash.order.wordBytes)
    (message : List UInt8) :
    (hash.sum message).toList =
      (words ((Padding.blocks (Padding.padded hash.order message)).foldl absorb
        hash.initial)).flatMap fun word => hash.order.numeral 4 word.toNat := by
  have hchain := (Engine.absorbed_message hash message).pad.chain_eq
  rw [Block.foldl_whole hcompress] at hchain
  have hwords : hash.order.wordBytes = fun word => hash.order.numeral 4 word.toNat :=
    funext hash.order.wordBytes_eq_numeral
  rw [sum, Engine.finish, houtput, hchain, hwords]

end KeyDigest
