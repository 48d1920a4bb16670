import KeyDigest.Text.Shown

/-! # Hexadecimal texts

Two digits stand for one byte, the high half first.  Written digits are lowercase, read digits of
either case.  `decode` collects a list as long as the text asks for; `decodeExact` fills a sequence
of known size in place, and so has one more way to refuse a text.  Both look at the length before
any digit, and both name the leftmost byte that is no digit.
-/

/-! ## Texts as bytes

A text reaches the decoders as its UTF-8 bytes, and every length and position that the library
reports counts those.
-/

namespace KeyDigest.Utf8

def bytes (text : String) : List UInt8 :=
  text.toByteArray.data.toList

/-- The text that `bytes` encode, or `none` when they are not well-formed UTF-8. -/
def text? (bytes : List UInt8) : Option String :=
  String.fromUTF8? ⟨bytes.toArray⟩

@[simp] theorem bytes_append (s t : String) : bytes (s ++ t) = bytes s ++ bytes t := by
  simp [bytes, String.toByteArray_append]

theorem bytes_inj {s t : String} : bytes s = bytes t ↔ s = t := by
  refine ⟨fun h => ?_, fun h => h ▸ rfl⟩
  rw [← String.toByteArray_inj]
  exact ByteArray.ext (Array.toList_inj.mp h)

end KeyDigest.Utf8

/-! ## Bytes as digits -/

namespace KeyDigest

/-- Why a text is not the hexadecimal form of bytes. -/
inductive HexError where
  | oddLength
  /-- The digits pair up, but to another number of bytes than was asked for. -/
  | wrongLength
  /-- The byte at `index` is no digit.  It is shown as the character `c` of the same number. -/
  | invalidCharacter (c : Char) (index : Nat)
  deriving DecidableEq

namespace HexError

def message : HexError → String
  | oddLength => "Odd number of digits"
  | wrongLength => "Invalid string length"
  | invalidCharacter c index =>
    "Invalid character " ++ Text.quotedChar c ++ " at position " ++ toString index

def shown : HexError → Shown
  | oddLength => .atom "OddLength"
  | wrongLength => .atom "InvalidStringLength"
  | invalidCharacter c index =>
    .record "InvalidHexCharacter"
      [.field "c" (.atom (Text.quotedChar c)), .field "index" (.atom (toString index))]

end HexError

namespace Hex

/-! ### Digits -/

/-- The value of an ASCII digit of either case. -/
def digitValue? (digit : UInt8) : Option UInt8 :=
  if '0'.toUInt8 ≤ digit ∧ digit ≤ '9'.toUInt8 then some (digit - '0'.toUInt8)
  else if 'a'.toUInt8 ≤ digit ∧ digit ≤ 'f'.toUInt8 then some (digit - 'a'.toUInt8 + 10)
  else if 'A'.toUInt8 ≤ digit ∧ digit ≤ 'F'.toUInt8 then some (digit - 'A'.toUInt8 + 10)
  else none

/-- The value of the digit at position `index` of a text. -/
def readDigit (digit : UInt8) (index : Nat) : Except HexError UInt8 :=
  match digitValue? digit with
  | some value => .ok value
  | none => .error (.invalidCharacter (Char.ofUInt8 digit) index)

/-- The byte whose two digits stand at `index` and `index + 1`. -/
def readPair (high low : UInt8) (index : Nat) : Except HexError UInt8 := do
  let h ← readDigit high index
  let l ← readDigit low (index + 1)
  return 16 * h + l

def digits (byte : UInt8) : List Char :=
  [Nat.digitChar (byte.toNat / 16), Nat.digitChar (byte.toNat % 16)]

/-! ### Writing -/

def encode (bytes : List UInt8) : String :=
  String.ofList (bytes.flatMap digits)

/-! ### Reading -/

/-- Reads the digits that stand from `index` on, and appends what they encode to `done`. -/
def collect (done : Array UInt8) (index : Nat) : List UInt8 → Except HexError (List UInt8)
  | high :: low :: rest =>
    match readPair high low index with
    | .ok byte => collect (done.push byte) (index + 2) rest
    | .error e => .error e
  | _ => .ok done.toList

def decodeBytes (text : List UInt8) : Except HexError (List UInt8) :=
  if text.length % 2 = 1 then .error .oddLength else collect #[] 0 text

def decode (text : String) : Except HexError (List UInt8) :=
  decodeBytes (Utf8.bytes text)

/-- Overwrites slot `i` with the byte that the `i`-th pair of digits encodes. -/
def fillSlot {size : Nat} (text : Vector UInt8 (2 * size)) (slots : Vector UInt8 size)
    (i : Fin size) : Except HexError (Vector UInt8 size) := do
  let byte ← readPair text[2 * i.val] text[2 * i.val + 1] (2 * i.val)
  return slots.set i.val byte

/-- Reads `size` pairs of digits into a sequence that starts as zeros, slot after slot. -/
def fill {size : Nat} (text : Vector UInt8 (2 * size)) : Except HexError (Vector UInt8 size) :=
  (List.finRange size).foldlM (fillSlot text) (Vector.replicate size 0)

/-- The `size` bytes that a text of exactly `2 * size` digits encodes. -/
def decodeExact (size : Nat) (text : String) : Except HexError (Vector UInt8 size) :=
  let bytes := Utf8.bytes text
  if bytes.length % 2 = 1 then .error .oddLength
  else if h : bytes.length = 2 * size then fill ⟨bytes.toArray, by simp [h]⟩
  else .error .wrongLength

end Hex

end KeyDigest
