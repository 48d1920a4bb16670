import KeyDigest.Block

/-! # RIPEMD-160

A block is compressed twice side by side, in a left and a right line, and both results are folded
into the chaining value crosswise.  A line is five passes over the sixteen words of the block.
Within a pass the boolean function and the constant stay the same; from pass to pass the order of
the words is permuted by `shuffle`, and the right line starts from an order of its own.
-/

namespace KeyDigest.Ripemd160

/-- Five words: a chaining value, or the working variables of a line. -/
structure State where
  a : UInt32
  b : UInt32
  c : UInt32
  d : UInt32
  e : UInt32
  deriving DecidableEq

def State.toList (s : State) : List UInt32 :=
  [s.a, s.b, s.c, s.d, s.e]

def initial : State where
  a := 0x67452301
  b := 0xefcdab89
  c := 0x98badcfe
  d := 0x10325476
  e := 0xc3d2e1f0

/-! ## The order of the words -/

abbrev WordOrder := Vector (Fin 16) 16

/-- The words as they stand in the block, where the left line starts. -/
def inOrder : WordOrder :=
  Vector.ofFn id

/-- Every ninth word, beginning with the sixth, where the right line starts. -/
def strided : WordOrder :=
  Vector.ofFn fun i => 9 * i + 5

/-- Which word takes the place of each word in the next pass. -/
def shuffle : WordOrder :=
  #v[7, 4, 13, 1, 10, 6, 15, 3, 12, 0, 9, 5, 2, 14, 11, 8]

def WordOrder.shuffled (order : WordOrder) : WordOrder :=
  order.map fun i => shuffle[i]

/-! ## Boolean functions -/

def parity (x y z : UInt32) : UInt32 :=
  x ^^^ y ^^^ z

/-- At each bit, `y` where `x` is set and `z` where it is not. -/
def chooseFirst (x y z : UInt32) : UInt32 :=
  z ^^^ (x &&& (y ^^^ z))

/-- At each bit, the negation of `z` where `x` is unset and `y` set, and `z` elsewhere. -/
def impliesFirst (x y z : UInt32) : UInt32 :=
  (x ||| ~~~y) ^^^ z

/-- At each bit, `x` where `z` is set and `y` where it is not. -/
def chooseLast (x y z : UInt32) : UInt32 :=
  y ^^^ (z &&& (x ^^^ y))

/-- At each bit, the negation of `x` where `y` is set or `z` unset, and `x` elsewhere. -/
def impliesLast (x y z : UInt32) : UInt32 :=
  x ^^^ (y ||| ~~~z)

/-! ## Passes and lines -/

/-- What is particular to sixteen steps of a line. -/
structure Pass where
  mix : UInt32 → UInt32 → UInt32 → UInt32
  constant : UInt32
  rotations : Vector UInt32 16

def leftPasses : List Pass :=
  [⟨parity, 0x00000000, #v[11, 14, 15, 12, 5, 8, 7, 9, 11, 13, 14, 15, 6, 7, 9, 8]⟩,
   ⟨chooseFirst, 0x5a827999, #v[7, 6, 8, 13, 11, 9, 7, 15, 7, 12, 15, 9, 11, 7, 13, 12]⟩,
   ⟨impliesFirst, 0x6ed9eba1, #v[11, 13, 6, 7, 14, 9, 13, 15, 14, 8, 13, 6, 5, 12, 7, 5]⟩,
   ⟨chooseLast, 0x8f1bbcdc, #v[11, 12, 14, 15, 14, 15, 9, 8, 9, 14, 5, 6, 8, 6, 5, 12]⟩,
   ⟨impliesLast, 0xa953fd4e, #v[9, 15, 5, 11, 6, 8, 13, 12, 5, 12, 13, 14, 11, 8, 5, 6]⟩]

/-- The passes of the right line, which takes the boolean functions from the last to the first. -/
def rightPasses : List Pass :=
  [⟨impliesLast, 0x50a28be6, #v[8, 9, 9, 11, 13, 15, 15, 5, 7, 7, 8, 11, 14, 14, 12, 6]⟩,
   ⟨chooseLast, 0x5c4dd124, #v[9, 13, 15, 7, 12, 8, 9, 11, 7, 7, 12, 7, 6, 15, 13, 11]⟩,
   ⟨impliesFirst, 0x6d703ef3, #v[9, 7, 15, 11, 8, 6, 6, 14, 12, 13, 5, 14, 13, 13, 7, 5]⟩,
   ⟨chooseFirst, 0x7a6d76e9, #v[15, 5, 8, 11, 14, 14, 6, 14, 6, 9, 12, 9, 12, 5, 15, 8]⟩,
   ⟨parity, 0x00000000, #v[8, 5, 12, 9, 12, 5, 14, 6, 8, 13, 6, 5, 15, 13, 11, 11]⟩]

/-- The working variables after one step that adds in `word` and rotates by `amount`. -/
def step (pass : Pass) (s : State) (word amount : UInt32) : State :=
  ⟨s.e, rotateLeft (s.a + pass.mix s.b s.c s.d + word + pass.constant) amount + s.e,
   s.b, rotateLeft s.c 10, s.d⟩

/-- The working variables after a pass that takes the words in the given order. -/
def runPass (words : Vector UInt32 16) (order : WordOrder) (pass : Pass) (s : State) : State :=
  (List.finRange 16).foldl
    (fun s i => step pass s words[order[i]] pass.rotations[i]) s

/-- The working variables after a line, whose first pass takes the words in the given order. -/
def runLine (words : Vector UInt32 16) (order : WordOrder) (passes : List Pass) (s : State) :
    State :=
  (passes.foldl (fun (order, s) pass => (order.shuffled, runPass words order pass s))
    (order, s)).2

/-- The chaining value that both lines leave, every word the sum of three from different
places. -/
def crosswise (chain left right : State) : State :=
  ⟨chain.b + left.c + right.d, chain.c + left.d + right.e, chain.d + left.e + right.a,
   chain.e + left.a + right.b, chain.a + left.b + right.c⟩

def compress (chain : State) (block : Block) : State :=
  let words := block.words .littleEndian
  crosswise chain (runLine words inOrder leftPasses chain) (runLine words strided rightPasses chain)

/-! ## The hash function -/

def output (s : State) : Vector UInt8 20 :=
  ⟨(s.toList.flatMap ByteOrder.littleEndian.wordBytes).toArray, by simp [State.toList]⟩

def hash : BlockHash State 20 where
  order := .littleEndian
  initial := initial
  compress := compress
  output := output

def sum (message : List UInt8) : Vector UInt8 20 :=
  hash.sum message

end KeyDigest.Ripemd160
