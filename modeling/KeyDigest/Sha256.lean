import KeyDigest.Block

/-! # SHA-256

The compression keeps the message schedule in a shift register of sixteen words: each round
consumes the word at the front, and the word that the sixteen determine enters at the back.  So
the schedule is never written out, and the last sixteen words that enter are never used.
-/

namespace KeyDigest.Sha256

/-- Eight words: a chaining value, or the working variables of a compression. -/
structure State where
  a : UInt32
  b : UInt32
  c : UInt32
  d : UInt32
  e : UInt32
  f : UInt32
  g : UInt32
  h : UInt32
  deriving DecidableEq

namespace State

def toList (s : State) : List UInt32 :=
  [s.a, s.b, s.c, s.d, s.e, s.f, s.g, s.h]

def add (s t : State) : State :=
  ⟨s.a + t.a, s.b + t.b, s.c + t.c, s.d + t.d, s.e + t.e, s.f + t.f, s.g + t.g, s.h + t.h⟩

end State

def initial : State where
  a := 0x6a09e667
  b := 0xbb67ae85
  c := 0x3c6ef372
  d := 0xa54ff53a
  e := 0x510e527f
  f := 0x9b05688c
  g := 0x1f83d9ab
  h := 0x5be0cd19

def roundConstants : List UInt32 :=
  [0x428a2f98, 0x71374491, 0xb5c0fbcf, 0xe9b5dba5, 0x3956c25b, 0x59f111f1, 0x923f82a4, 0xab1c5ed5,
   0xd807aa98, 0x12835b01, 0x243185be, 0x550c7dc3, 0x72be5d74, 0x80deb1fe, 0x9bdc06a7, 0xc19bf174,
   0xe49b69c1, 0xefbe4786, 0x0fc19dc6, 0x240ca1cc, 0x2de92c6f, 0x4a7484aa, 0x5cb0a9dc, 0x76f988da,
   0x983e5152, 0xa831c66d, 0xb00327c8, 0xbf597fc7, 0xc6e00bf3, 0xd5a79147, 0x06ca6351, 0x14292967,
   0x27b70a85, 0x2e1b2138, 0x4d2c6dfc, 0x53380d13, 0x650a7354, 0x766a0abb, 0x81c2c92e, 0x92722c85,
   0xa2bfe8a1, 0xa81a664b, 0xc24b8b70, 0xc76c51a3, 0xd192e819, 0xd6990624, 0xf40e3585, 0x106aa070,
   0x19a4c116, 0x1e376c08, 0x2748774c, 0x34b0bcb5, 0x391c0cb3, 0x4ed8aa4a, 0x5b9cca4f, 0x682e6ff3,
   0x748f82ee, 0x78a5636f, 0x84c87814, 0x8cc70208, 0x90befffa, 0xa4506ceb, 0xbef9a3f7, 0xc67178f2]

/-! ## Word functions -/

/-- At each bit, `y` where `x` is set and `z` where it is not. -/
def choose (x y z : UInt32) : UInt32 :=
  z ^^^ (x &&& (y ^^^ z))

/-- At each bit, what at least two of the three have. -/
def majority (x y z : UInt32) : UInt32 :=
  (x &&& y) ||| (z &&& (x ||| y))

def bigSigma0 (x : UInt32) : UInt32 :=
  rotateRight x 2 ^^^ rotateRight x 13 ^^^ rotateRight x 22

def bigSigma1 (x : UInt32) : UInt32 :=
  rotateRight x 6 ^^^ rotateRight x 11 ^^^ rotateRight x 25

def smallSigma0 (x : UInt32) : UInt32 :=
  rotateRight x 7 ^^^ rotateRight x 18 ^^^ x >>> 3

def smallSigma1 (x : UInt32) : UInt32 :=
  rotateRight x 17 ^^^ rotateRight x 19 ^^^ x >>> 10

/-! ## Compression -/

/-- Sixteen consecutive words of the message schedule. -/
abbrev Window := Vector UInt32 16

def Window.next (w : Window) : UInt32 :=
  smallSigma1 w[14] + w[9] + smallSigma0 w[1] + w[0]

def Window.shift (w : Window) : Window :=
  w.tail.push w.next

/-- The working variables after a round with the constant `k` and the schedule word `w`. -/
def round (s : State) (k w : UInt32) : State :=
  let t₁ := s.h + bigSigma1 s.e + choose s.e s.f s.g + k + w
  let t₂ := bigSigma0 s.a + majority s.a s.b s.c
  ⟨t₁ + t₂, s.a, s.b, s.c, s.d + t₁, s.e, s.f, s.g⟩

/-- One round on the shift register and the working variables. -/
def advance (register : Window × State) (k : UInt32) : Window × State :=
  (register.1.shift, round register.2 k register.1[0])

def compress (chain : State) (block : Block) : State :=
  chain.add (roundConstants.foldl advance (block.words .bigEndian, chain)).2

/-! ## The hash function -/

def output (s : State) : Vector UInt8 32 :=
  ⟨(s.toList.flatMap ByteOrder.bigEndian.wordBytes).toArray, by simp [State.toList]⟩

def hash : BlockHash State 32 where
  order := .bigEndian
  initial := initial
  compress := compress
  output := output

def sum (message : List UInt8) : Vector UInt8 32 :=
  hash.sum message

def sumSlices (slices : List (List UInt8)) : Vector UInt8 32 :=
  hash.sumSlices slices

end KeyDigest.Sha256
