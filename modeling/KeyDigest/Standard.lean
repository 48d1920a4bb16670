import KeyDigest.Block
import KeyDigest.Ripemd160
import KeyDigest.Sha256

/-! # Both hash functions as their standards write them

The functions on whole messages, without an engine: the message is padded and cut into blocks, and
everything that varies between the steps of a compression is a function of the number of the step.
Bytes are read and written by their value, words are rotated as bit vectors, and constants are given
by the roots that they come from.  Of the running hashes only the types are shared, the byte orders
and the eight or five words of a state, and none of their functions.
-/

/-! ## Padding

A marker byte, the least number of zeros that leaves room for a length at the end of a block, and
the length in bits.
-/

namespace KeyDigest

namespace ByteOrder

/-- The number that a sequence of bytes writes. -/
def value : ByteOrder → List UInt8 → Nat
  | bigEndian, bytes => bytes.foldl (fun n byte => 256 * n + byte.toNat) 0
  | littleEndian, bytes => bytes.foldr (fun byte n => byte.toNat + 256 * n) 0

/-- A number as so many bytes. -/
def numeral (order : ByteOrder) (width n : Nat) : List UInt8 :=
  (List.range width).map fun i =>
    match order with
    | bigEndian => (n / Nat.pow 256 (width - 1 - i)).toUInt8
    | littleEndian => (n / Nat.pow 256 i).toUInt8

end ByteOrder

namespace Padding

/-- The least number of zeros that, after a message of `length` bytes and the marker, leaves
eight bytes of a block. -/
def zeros (length : Nat) : Nat :=
  ((List.range 64).find? fun k => (length + 1 + k) % 64 = 56).getD 0

/-- A message with its marker, its zeros and its length in bits. -/
def padded (order : ByteOrder) (message : List UInt8) : List UInt8 :=
  message ++ [0x80] ++ List.replicate (zeros message.length) 0 ++
    order.numeral 8 (8 * message.length)

def blocks (bytes : List UInt8) : List (List UInt8) :=
  (List.range (bytes.length / 64)).map fun i => (bytes.drop (64 * i)).take 64

def wordAt (order : ByteOrder) (block : List UInt8) (i : Nat) : UInt32 :=
  UInt32.ofNat (order.value ((block.drop (4 * i)).take 4))

end Padding

end KeyDigest

/-! ## Roots

The constants are bits of square and cube roots of small primes, so that nobody can have chosen them
for a purpose.  Roots are taken in whole numbers: those of `p` with so many binary places are the
whole roots of `p` shifted up.
-/

namespace KeyDigest.Roots

/-- The greatest number of so many bits whose power of the given degree is at most `n`, found bit
by bit from the top. -/
def floor (degree bits n : Nat) : Nat :=
  (List.range bits).foldr
    (fun i root =>
      let next := root + Nat.pow 2 i
      if Nat.pow next degree ≤ n then next else root) 0

/-- The root of `p` with so many binary places, as a whole number. -/
def scaled (degree places p : Nat) : Nat :=
  floor degree (places + 8) (p * Nat.pow 2 (degree * places))

def isPrime (n : Nat) : Bool :=
  2 ≤ n && (List.range n).all fun d => d < 2 || n % d ≠ 0

def primesBelow (bound : Nat) : List Nat :=
  (List.range bound).filter isPrime

end KeyDigest.Roots

/-! ## SHA-256 -/

namespace KeyDigest.Sha256.Standard

/-! ### Functions and constants -/

/-- The bits of a word rotated down by `n` places. -/
def rotr (n : Nat) (x : UInt32) : UInt32 :=
  .ofBitVec (x.toBitVec.rotateRight n)

def ch (x y z : UInt32) : UInt32 :=
  (x &&& y) ^^^ (~~~x &&& z)

def maj (x y z : UInt32) : UInt32 :=
  (x &&& y) ^^^ (x &&& z) ^^^ (y &&& z)

def upperSigma₀ (x : UInt32) : UInt32 :=
  rotr 2 x ^^^ rotr 13 x ^^^ rotr 22 x

def upperSigma₁ (x : UInt32) : UInt32 :=
  rotr 6 x ^^^ rotr 11 x ^^^ rotr 25 x

def lowerSigma₀ (x : UInt32) : UInt32 :=
  rotr 7 x ^^^ rotr 18 x ^^^ x >>> 3

def lowerSigma₁ (x : UInt32) : UInt32 :=
  rotr 17 x ^^^ rotr 19 x ^^^ x >>> 10

def primes : List Nat :=
  Roots.primesBelow 312

/-- The constant of step `t`: the first bits behind the point of a cube root. -/
def constant (t : Nat) : UInt32 :=
  UInt32.ofNat (Roots.scaled 3 32 (primes.getD t 0))

/-- Word `i` of the initial value: the first bits behind the point of a square root. -/
def initialWord (i : Nat) : UInt32 :=
  UInt32.ofNat (Roots.scaled 2 32 (primes.getD i 0))

def initial : State :=
  ⟨initialWord 0, initialWord 1, initialWord 2, initialWord 3, initialWord 4, initialWord 5,
   initialWord 6, initialWord 7⟩

/-! ### Schedule and steps -/

/-- The word of the schedule at step `t`, for a block with the words `m`. -/
def schedule (m : Nat → UInt32) (t : Nat) : UInt32 :=
  if _h : t < 16 then m t
  else
    lowerSigma₁ (schedule m (t - 2)) + schedule m (t - 7) +
      lowerSigma₀ (schedule m (t - 15)) + schedule m (t - 16)
termination_by t
decreasing_by all_goals omega

def step (m : Nat → UInt32) (s : State) (t : Nat) : State :=
  let t₁ := s.h + upperSigma₁ s.e + ch s.e s.f s.g + constant t + schedule m t
  let t₂ := upperSigma₀ s.a + maj s.a s.b s.c
  ⟨t₁ + t₂, s.a, s.b, s.c, s.d + t₁, s.e, s.f, s.g⟩

def absorb (chain : State) (block : List UInt8) : State :=
  let last := (List.range 64).foldl (step (Padding.wordAt .bigEndian block)) chain
  ⟨last.a + chain.a, last.b + chain.b, last.c + chain.c, last.d + chain.d,
   last.e + chain.e, last.f + chain.f, last.g + chain.g, last.h + chain.h⟩

/-- The words of a value, in the order in which they are written. -/
def words (s : State) : List UInt32 :=
  [s.a, s.b, s.c, s.d, s.e, s.f, s.g, s.h]

/-- The words of the value after every block of the padded message, most significant byte
first. -/
def hash (message : List UInt8) : List UInt8 :=
  let last := (Padding.blocks (Padding.padded .bigEndian message)).foldl absorb initial
  (words last).flatMap fun word => ByteOrder.bigEndian.numeral 4 word.toNat

end KeyDigest.Sha256.Standard

/-! ## RIPEMD-160 -/

namespace KeyDigest.Ripemd160.Standard

/-! ### Functions, constants and tables -/

/-- The bits of a word rotated up by `n` places. -/
def rol (n : Nat) (x : UInt32) : UInt32 :=
  .ofBitVec (x.toBitVec.rotateLeft n)

def f (j : Nat) (x y z : UInt32) : UInt32 :=
  if j < 16 then x ^^^ y ^^^ z
  else if j < 32 then (x &&& y) ||| (~~~x &&& z)
  else if j < 48 then (x ||| ~~~y) ^^^ z
  else if j < 64 then (x &&& z) ||| (y &&& ~~~z)
  else x ^^^ (y ||| ~~~z)

/-- The constant of step `j` of the left line: none, then bits of square roots. -/
def leftConstant (j : Nat) : UInt32 :=
  UInt32.ofNat (Roots.scaled 2 30 ([0, 2, 3, 5, 7].getD (j / 16) 0))

/-- The constant of step `j` of the right line: bits of cube roots, then none. -/
def rightConstant (j : Nat) : UInt32 :=
  UInt32.ofNat (Roots.scaled 3 30 ([2, 3, 5, 7, 0].getD (j / 16) 0))

/-- Which word each step of the left line takes. -/
def leftWords : List Nat :=
  [0, 1, 2, 3, 4, 5, 6, 7, 8, 9, 10, 11, 12, 13, 14, 15,
   7, 4, 13, 1, 10, 6, 15, 3, 12, 0, 9, 5, 2, 14, 11, 8,
   3, 10, 14, 4, 9, 15, 8, 1, 2, 7, 0, 6, 13, 11, 5, 12,
   1, 9, 11, 10, 0, 8, 12, 4, 13, 3, 7, 15, 14, 5, 6, 2,
   4, 0, 5, 9, 7, 12, 2, 10, 14, 1, 3, 8, 11, 6, 15, 13]

/-- Which word each step of the right line takes. -/
def rightWords : List Nat :=
  [5, 14, 7, 0, 9, 2, 11, 4, 13, 6, 15, 8, 1, 10, 3, 12,
   6, 11, 3, 7, 0, 13, 5, 10, 14, 15, 8, 12, 4, 9, 1, 2,
   15, 5, 1, 3, 7, 14, 6, 9, 11, 8, 12, 2, 10, 0, 4, 13,
   8, 6, 4, 1, 3, 11, 15, 0, 5, 12, 2, 13, 9, 7, 10, 14,
   12, 15, 10, 4, 1, 5, 8, 7, 6, 2, 13, 14, 0, 3, 9, 11]

/-- By how many places each step of the left line rotates. -/
def leftRotations : List Nat :=
  [11, 14, 15, 12, 5, 8, 7, 9, 11, 13, 14, 15, 6, 7, 9, 8,
   7, 6, 8, 13, 11, 9, 7, 15, 7, 12, 15, 9, 11, 7, 13, 12,
   11, 13, 6, 7, 14, 9, 13, 15, 14, 8, 13, 6, 5, 12, 7, 5,
   11, 12, 14, 15, 14, 15, 9, 8, 9, 14, 5, 6, 8, 6, 5, 12,
   9, 15, 5, 11, 6, 8, 13, 12, 5, 12, 13, 14, 11, 8, 5, 6]

/-- By how many places each step of the right line rotates. -/
def rightRotations : List Nat :=
  [8, 9, 9, 11, 13, 15, 15, 5, 7, 7, 8, 11, 14, 14, 12, 6,
   9, 13, 15, 7, 12, 8, 9, 11, 7, 7, 12, 7, 6, 15, 13, 11,
   9, 7, 15, 11, 8, 6, 6, 14, 12, 13, 5, 14, 13, 13, 7, 5,
   15, 5, 8, 11, 14, 14, 6, 14, 6, 9, 12, 9, 12, 5, 15, 8,
   8, 5, 12, 9, 12, 5, 14, 6, 8, 13, 6, 5, 15, 13, 11, 11]

def initial : State :=
  ⟨0x67452301, 0xefcdab89, 0x98badcfe, 0x10325476, 0xc3d2e1f0⟩

/-! ### Steps -/

/-- The working variables after step `j` of the left line, for a block with the words `m`. -/
def leftStep (m : Nat → UInt32) (s : State) (j : Nat) : State :=
  let t := rol (leftRotations.getD j 0)
    (s.a + f j s.b s.c s.d + m (leftWords.getD j 0) + leftConstant j) + s.e
  ⟨s.e, t, s.b, rol 10 s.c, s.d⟩

/-- The working variables after step `j` of the right line, whose boolean functions come from the
other end. -/
def rightStep (m : Nat → UInt32) (s : State) (j : Nat) : State :=
  let t := rol (rightRotations.getD j 0)
    (s.a + f (79 - j) s.b s.c s.d + m (rightWords.getD j 0) + rightConstant j) + s.e
  ⟨s.e, t, s.b, rol 10 s.c, s.d⟩

def absorb (h : State) (block : List UInt8) : State :=
  let m := Padding.wordAt .littleEndian block
  let left := (List.range 80).foldl (leftStep m) h
  let right := (List.range 80).foldl (rightStep m) h
  ⟨h.b + left.c + right.d, h.c + left.d + right.e, h.d + left.e + right.a,
   h.e + left.a + right.b, h.a + left.b + right.c⟩

/-- The words of a value, in the order in which they are written. -/
def words (s : State) : List UInt32 :=
  [s.a, s.b, s.c, s.d, s.e]

/-- The words of the value after every block of the padded message, least significant byte
first. -/
def hash (message : List UInt8) : List UInt8 :=
  let last := (Padding.blocks (Padding.padded .littleEndian message)).foldl absorb initial
  (words last).flatMap fun word => ByteOrder.littleEndian.numeral 4 word.toNat

end KeyDigest.Ripemd160.Standard
