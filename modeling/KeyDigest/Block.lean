/-! # Hashing by blocks

A `BlockHash` compresses one block of words after another into a chaining value.  An `Engine` feeds
it a message that arrives in slices of any size: `absorb` compresses every block that is complete
and keeps the bytes of the one that is not, `pad` closes the message, and `finish` reads the digest
off the chaining value.  That fewer than 64 bytes are pending is part of the type, so `absorb`
always makes progress.
-/

namespace KeyDigest

/-! ## Words and their bytes

Both hash functions compute on 32-bit words modulo `2 ^ 32`.  They disagree on which byte of a word
comes first; `ByteOrder` names that choice, for the words of a block as for the length of a message.
-/

/-- The bits of a word moved `n` places up, those that leave at the top entering at the bottom. -/
def rotateLeft (x n : UInt32) : UInt32 :=
  x <<< n ||| x >>> (32 - n)

/-- The bits of a word moved `n` places down, those that leave at the bottom entering at the top. -/
def rotateRight (x n : UInt32) : UInt32 :=
  x >>> n ||| x <<< (32 - n)

/-- Which end of a number its bytes are written from. -/
inductive ByteOrder where
  | bigEndian
  | littleEndian

namespace ByteOrder

def word : ByteOrder → UInt8 → UInt8 → UInt8 → UInt8 → UInt32
  | bigEndian, b₀, b₁, b₂, b₃ =>
    b₀.toUInt32 <<< 24 ||| b₁.toUInt32 <<< 16 ||| b₂.toUInt32 <<< 8 ||| b₃.toUInt32
  | littleEndian, b₀, b₁, b₂, b₃ =>
    b₃.toUInt32 <<< 24 ||| b₂.toUInt32 <<< 16 ||| b₁.toUInt32 <<< 8 ||| b₀.toUInt32

def wordBytes : ByteOrder → UInt32 → List UInt8
  | bigEndian, w => [(w >>> 24).toUInt8, (w >>> 16).toUInt8, (w >>> 8).toUInt8, w.toUInt8]
  | littleEndian, w => [w.toUInt8, (w >>> 8).toUInt8, (w >>> 16).toUInt8, (w >>> 24).toUInt8]

def longBytes : ByteOrder → UInt64 → List UInt8
  | bigEndian, n =>
    [(n >>> 56).toUInt8, (n >>> 48).toUInt8, (n >>> 40).toUInt8, (n >>> 32).toUInt8,
     (n >>> 24).toUInt8, (n >>> 16).toUInt8, (n >>> 8).toUInt8, n.toUInt8]
  | littleEndian, n =>
    [n.toUInt8, (n >>> 8).toUInt8, (n >>> 16).toUInt8, (n >>> 24).toUInt8,
     (n >>> 32).toUInt8, (n >>> 40).toUInt8, (n >>> 48).toUInt8, (n >>> 56).toUInt8]

@[simp] theorem length_wordBytes (order : ByteOrder) (w : UInt32) :
    (order.wordBytes w).length = 4 := by
  cases order <;> rfl

end ByteOrder

/-- Sixty-four bytes, the unit that a hash function compresses. -/
abbrev Block := Vector UInt8 64

def Block.words (order : ByteOrder) (block : Block) : Vector UInt32 16 :=
  Vector.ofFn fun i =>
    order.word block[4 * i.val] block[4 * i.val + 1] block[4 * i.val + 2] block[4 * i.val + 3]

/-! ## Engines -/

/-- A hash function on messages, given by what it does to one block. -/
structure BlockHash (State : Type) (size : Nat) where
  /-- The order of the bytes in a word and in the length field. -/
  order : ByteOrder
  /-- The chaining value before any block. -/
  initial : State
  /-- The chaining value after one more block. -/
  compress : State → Block → State
  /-- The digest in a chaining value. -/
  output : State → Vector UInt8 size

/-- A hash in progress. -/
structure Engine {State : Type} {size : Nat} (hash : BlockHash State size) where
  /-- The chaining value after every complete block. -/
  chain : State
  /-- The bytes that no block holds yet. -/
  pending : List UInt8
  total : Nat
  /-- What is pending is less than a block. -/
  pending_lt : pending.length < 64 := by decide

namespace Engine

variable {State : Type} {size : Nat} {hash : BlockHash State size}

def start (hash : BlockHash State size) : Engine hash where
  chain := hash.initial
  pending := []
  total := 0

/-- How many bytes the pending block lacks. -/
def room (engine : Engine hash) : Nat :=
  64 - engine.pending.length

theorem room_pos (engine : Engine hash) : 0 < engine.room := by
  have := engine.pending_lt
  unfold room
  omega

/-- The engine after `slice`, which completes the pending block. -/
def complete (engine : Engine hash) (slice : List UInt8) (h : slice.length = engine.room) :
    Engine hash where
  chain := hash.compress engine.chain ⟨(engine.pending ++ slice).toArray, by
    have := engine.pending_lt
    simp [h, room]
    omega⟩
  pending := []
  total := engine.total + slice.length

/-- The engine after `slice`, which leaves the pending block incomplete. -/
def retain (engine : Engine hash) (slice : List UInt8) (h : slice.length < engine.room) :
    Engine hash where
  chain := engine.chain
  pending := engine.pending ++ slice
  total := engine.total + slice.length
  pending_lt := by
    unfold room at h
    simp
    omega

theorem length_lt_of_length_take_ne {α : Type} {n : Nat} {list : List α}
    (h : ¬(list.take n).length = n) : list.length < n := by
  rw [List.length_take] at h
  omega

/-- The engine after the next `bytes` of the message: they complete the pending block and as many
more as they can, and what is left over is pending. -/
def absorb (engine : Engine hash) (bytes : List UInt8) : Engine hash :=
  if h : (bytes.take engine.room).length = engine.room then
    (engine.complete (bytes.take engine.room) h).absorb (bytes.drop engine.room)
  else
    engine.retain bytes (length_lt_of_length_take_ne h)
termination_by bytes.length
decreasing_by
  have := engine.room_pos
  rw [List.length_take] at h
  rw [List.length_drop]
  omega

/-- The engine after the end of the message: the marker byte, as few zeros as leave eight bytes
of a block, and in these the number of bits that were absorbed. -/
def pad (engine : Engine hash) : Engine hash :=
  let marked := engine.absorb [0x80]
  let zeros := (120 - marked.pending.length) % 64
  (marked.absorb (List.replicate zeros 0)).absorb
    (hash.order.longBytes (8 * engine.total).toUInt64)

def finish (engine : Engine hash) : Vector UInt8 size :=
  hash.output engine.pad.chain

end Engine

namespace BlockHash

variable {State : Type} {size : Nat}

def sum (hash : BlockHash State size) (message : List UInt8) : Vector UInt8 size :=
  ((Engine.start hash).absorb message).finish

/-- The digest of the message that `slices` make up, none of them copied. -/
def sumSlices (hash : BlockHash State size) (slices : List (List UInt8)) : Vector UInt8 size :=
  (slices.foldl Engine.absorb (Engine.start hash)).finish

end BlockHash

end KeyDigest
