import KeyDigest.Block
import KeyDigest.Standard

/-! # What an engine has absorbed

`Engine.Absorbed` says of an engine which message it has seen: its chaining value is the message's
whole blocks compressed one after another, its pending bytes are those behind the last whole block,
and its counter is the length of the message.  The three together determine the engine, so two
engines that have seen the same message are equal, however it was cut.

* `Engine.Absorbed.absorb` is the step: what the next slice adds to the message;
* `Engine.Absorbed.foldl_absorb` is the run: a list of slices adds its concatenation.
-/

namespace KeyDigest

/-! ## The whole blocks of a message -/

namespace Block

/-- The blocks that a message completes, in order.  What is left over makes no block. -/
def whole (message : List UInt8) : List Block :=
  if h : (message.take 64).length = 64 then
    ⟨(message.take 64).toArray, h⟩ :: whole (message.drop 64)
  else []
termination_by message.length
decreasing_by
  rw [List.length_take] at h
  rw [List.length_drop]
  omega

theorem whole_of_length_lt {message : List UInt8} (h : message.length < 64) :
    whole message = [] := by
  rw [whole, dif_neg]
  rw [List.length_take]
  omega

theorem whole_append_of_length_eq {first : List UInt8} (h : first.length = 64)
    (rest : List UInt8) : whole (first ++ rest) = ⟨first.toArray, h⟩ :: whole rest := by
  have htake : (first ++ rest).take 64 = first := List.take_left' h
  have hdrop : (first ++ rest).drop 64 = rest := List.drop_left' h
  rw [whole, dif_pos (by rw [htake, h])]
  simp only [htake, hdrop]

/-- Whole blocks in front of a message do not change how the rest is cut. -/
theorem whole_append {aligned : List UInt8} (h : 64 ∣ aligned.length) (rest : List UInt8) :
    whole (aligned ++ rest) = whole aligned ++ whole rest := by
  fun_induction whole aligned with
  | case1 aligned hfull ih =>
    rw [List.length_take] at hfull
    -- The first block of `aligned` is the first of both, and what is left of `aligned` still ends
    -- on a boundary.
    have hsplit : aligned ++ rest = aligned.take 64 ++ (aligned.drop 64 ++ rest) := by
      rw [← List.append_assoc, List.take_append_drop]
    rw [hsplit, whole_append_of_length_eq (by rw [List.length_take, hfull]),
      ih (by rw [List.length_drop]; omega), List.cons_append]
  | case2 aligned hshort =>
    rw [List.length_take] at hshort
    have hnil : aligned = [] := List.eq_nil_of_length_eq_zero (by omega)
    rw [hnil, List.nil_append, List.nil_append]

/-- Cutting a message by positions gives the bytes of the same blocks. -/
theorem map_toList_whole (message : List UInt8) :
    (whole message).map Vector.toList = Padding.blocks message := by
  fun_induction whole message with
  | case1 message hfull ih =>
    rw [List.length_take] at hfull
    -- Taking a block off the front moves the position of every later block down by one.
    have hcount : message.length / 64 = (message.drop 64).length / 64 + 1 := by
      rw [List.length_drop]
      omega
    rw [List.map_cons, ih, Padding.blocks, Padding.blocks, hcount, List.range_succ_eq_map,
      List.map_cons, List.map_map]
    congr 1
    refine List.map_congr_left fun i _ => ?_
    simp only [Function.comp_apply, List.drop_drop]
    congr 2
    omega
  | case2 message hshort =>
    rw [List.length_take] at hshort
    rw [Padding.blocks, show message.length / 64 = 0 by omega]
    rfl

/-- A compression that does to each block what a standard does to its bytes takes a message to the
same chaining value. -/
theorem foldl_whole {State : Type} {compress : State → Block → State}
    {absorb : State → List UInt8 → State}
    (h : ∀ chain block, compress chain block = absorb chain block.toList) (chain : State)
    (message : List UInt8) :
    (whole message).foldl compress chain = (Padding.blocks message).foldl absorb chain := by
  rw [← map_toList_whole, List.foldl_map]
  congr 1
  funext chain block
  exact h chain block

theorem length_whole (message : List UInt8) : (whole message).length = message.length / 64 := by
  rw [← List.length_map Vector.toList, map_toList_whole, Padding.blocks, List.length_map,
    List.length_range]

theorem flatMap_toList_whole {message : List UInt8} (h : 64 ∣ message.length) :
    (whole message).flatMap Vector.toList = message := by
  fun_induction whole message with
  | case1 message hfull ih =>
    rw [List.length_take] at hfull
    rw [List.flatMap_cons, ih (by rw [List.length_drop]; omega)]
    exact List.take_append_drop 64 message
  | case2 message hshort =>
    rw [List.length_take] at hshort
    exact (List.eq_nil_of_length_eq_zero (by omega)).symm

end Block

/-! ## The invariant -/

namespace Engine

variable {State : Type} {size : Nat} {hash : BlockHash State size}

/-- The engine has absorbed exactly this message. -/
structure Absorbed (engine : Engine hash) (message : List UInt8) : Prop where
  /-- Every whole block of the message is compressed. -/
  chain_eq : engine.chain = (Block.whole message).foldl hash.compress hash.initial
  /-- What follows the last whole block is pending. -/
  pending_eq : engine.pending = message.drop (64 * (message.length / 64))
  /-- Every byte is counted. -/
  total_eq : engine.total = message.length

namespace Absorbed

variable {engine : Engine hash} {message : List UInt8}

theorem start (hash : BlockHash State size) : (Engine.start hash).Absorbed [] where
  chain_eq := by
    rw [Block.whole_of_length_lt (by decide)]
    rfl
  pending_eq := rfl
  total_eq := rfl

theorem unique {other : Engine hash} (h : engine.Absorbed message)
    (hother : other.Absorbed message) : engine = other := by
  obtain ⟨chain, pending, total, _⟩ := engine
  obtain ⟨chain', pending', total', _⟩ := other
  obtain rfl : chain = chain' := h.chain_eq.trans hother.chain_eq.symm
  obtain rfl : pending = pending' := h.pending_eq.trans hother.pending_eq.symm
  obtain rfl : total = total' := h.total_eq.trans hother.total_eq.symm
  rfl

theorem length_pending (h : engine.Absorbed message) :
    engine.pending.length = message.length % 64 := by
  rw [h.pending_eq, List.length_drop]
  omega

/-- The message up to the last whole block, and after it. -/
theorem aligned_append (h : engine.Absorbed message) :
    ∃ aligned, 64 ∣ aligned.length ∧ message = aligned ++ engine.pending ∧
      engine.chain = (Block.whole aligned).foldl hash.compress hash.initial := by
  have hmessage : message = message.take (64 * (message.length / 64)) ++ engine.pending := by
    rw [h.pending_eq, List.take_append_drop]
  have haligned : 64 ∣ (message.take (64 * (message.length / 64))).length := by
    rw [List.length_take, Nat.min_eq_left (Nat.mul_div_le _ _)]
    exact Nat.dvd_mul_right ..
  refine ⟨_, haligned, hmessage, ?_⟩
  rw [h.chain_eq]
  -- The pending bytes are too few for a block, so leaving them out loses none.
  congr 1
  calc Block.whole message
      = Block.whole (message.take (64 * (message.length / 64)) ++ engine.pending) :=
        congrArg Block.whole hmessage
    _ = Block.whole (message.take (64 * (message.length / 64))) := by
        rw [Block.whole_append haligned, Block.whole_of_length_lt engine.pending_lt,
          List.append_nil]

/-- A slice that completes the pending block adds itself to the message. -/
theorem complete (h : engine.Absorbed message) (slice : List UInt8)
    (hslice : slice.length = engine.room) :
    (engine.complete slice hslice).Absorbed (message ++ slice) := by
  obtain ⟨aligned, haligned, hmessage, hchain⟩ := h.aligned_append
  -- What was pending and the slice are one block, and nothing is pending behind it.
  have hblock : (engine.pending ++ slice).length = 64 := by
    have := engine.pending_lt
    rw [List.length_append, hslice, room]
    omega
  have hlength : 64 ∣ (message ++ slice).length := by
    rw [hmessage, List.append_assoc, List.length_append, hblock]
    omega
  constructor
  · have hwhole := Block.whole_append_of_length_eq hblock []
    rw [List.append_nil, Block.whole_of_length_lt (by decide : ([] : List UInt8).length < 64)]
      at hwhole
    rw [hmessage, List.append_assoc, Block.whole_append haligned, hwhole, List.foldl_append,
      ← hchain]
    rfl
  · rw [Nat.mul_div_cancel' hlength, List.drop_length]
    rfl
  · rw [List.length_append, ← h.total_eq]
    rfl

/-- A slice that leaves the pending block incomplete adds itself to the message. -/
theorem retain (h : engine.Absorbed message) (slice : List UInt8)
    (hslice : slice.length < engine.room) :
    (engine.retain slice hslice).Absorbed (message ++ slice) := by
  obtain ⟨aligned, haligned, hmessage, hchain⟩ := h.aligned_append
  -- Nothing is compressed, because what is pending still falls short of a block.
  have hshort : (engine.pending ++ slice).length < 64 := by
    rw [room] at hslice
    rw [List.length_append]
    omega
  constructor
  · rw [hmessage, List.append_assoc, Block.whole_append haligned,
      Block.whole_of_length_lt hshort, List.append_nil, ← hchain]
    rfl
  · have hfull : 64 * ((message ++ slice).length / 64) = aligned.length := by
      rw [hmessage, List.append_assoc, List.length_append]
      omega
    rw [hfull, hmessage, List.append_assoc, List.drop_left]
    rfl
  · rw [List.length_append, ← h.total_eq]
    rfl

/-- Absorbing a slice of any length adds it to the message. -/
theorem absorb (h : engine.Absorbed message) (slice : List UInt8) :
    (engine.absorb slice).Absorbed (message ++ slice) := by
  fun_induction Engine.absorb engine slice generalizing message with
  | case1 engine slice hfull ih =>
    -- The turn has moved what it took from the slice to the end of the message.
    have hrest := ih (h.complete _ hfull)
    rwa [List.append_assoc, List.take_append_drop] at hrest
  | case2 engine slice hshort => exact h.retain slice _

theorem foldl_absorb (h : engine.Absorbed message) (slices : List (List UInt8)) :
    (slices.foldl Engine.absorb engine).Absorbed (message ++ slices.flatten) := by
  induction slices generalizing engine message with
  | nil => simpa using h
  | cons slice slices ih =>
    have hrest := ih (h.absorb slice)
    rwa [List.append_assoc, ← List.flatten_cons] at hrest

end Absorbed

theorem absorbed_slices (hash : BlockHash State size) (slices : List (List UInt8)) :
    (slices.foldl absorb (start hash)).Absorbed slices.flatten :=
  (Absorbed.start hash).foldl_absorb slices

theorem absorbed_message (hash : BlockHash State size) (message : List UInt8) :
    ((start hash).absorb message).Absorbed message :=
  (Absorbed.start hash).absorb message

end Engine

/-- Where a message is cut does not change its digest. -/
theorem BlockHash.sumSlices_eq_sum {State : Type} {size : Nat} (hash : BlockHash State size)
    (slices : List (List UInt8)) : hash.sumSlices slices = hash.sum slices.flatten :=
  congrArg Engine.finish
    ((Engine.absorbed_slices hash slices).unique (Engine.absorbed_message hash slices.flatten))

end KeyDigest
