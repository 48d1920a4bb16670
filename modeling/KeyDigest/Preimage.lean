import KeyDigest.Hex
import KeyDigest.Text.Shown

/-! # What is hashed

Key data is given as bytes or as a hexadecimal text.  `Preimage.content` brings both to bytes:
given bytes are used as they are, a text is decoded.  Two preimages are equal only as they were
given, so a text never equals the bytes that it encodes, nor the same digits in the other case.
-/

namespace KeyDigest

inductive Preimage where
  /-- Bytes, to be hashed as they are. -/
  | bytes (given : List UInt8)
  /-- A hexadecimal text, to be decoded first. -/
  | hex (text : String)
  deriving DecidableEq

/-- The bytes of a preimage, and where they come from. -/
inductive Content where
  | given (bytes : List UInt8)
  /-- New bytes, decoded from a text. -/
  | decoded (bytes : List UInt8)

namespace Content

def bytes : Content → List UInt8
  | given bytes => bytes
  | decoded bytes => bytes

def isGiven : Content → Bool
  | given _ => true
  | decoded _ => false

end Content

namespace Preimage

inductive Kind where
  | bytes
  | hex
  deriving DecidableEq

/-- What a reader calls each kind. -/
def Kind.name : Kind → String
  | .bytes => "bytes"
  | .hex => "hex"

def kind : Preimage → Kind
  | .bytes _ => .bytes
  | .hex _ => .hex

/-- How many bytes were given: for a text its own, not those that it encodes. -/
def length : Preimage → Nat
  | .bytes given => given.length
  | .hex text => (Utf8.bytes text).length

def content : Preimage → Except HexError Content
  | .bytes given => .ok (.given given)
  | .hex text => (Hex.decode text).map .decoded

/-- A preimage as it is shown when the characters in `unseen` are written by number. -/
def shownWith (unseen : Char → Bool) : Preimage → Shown
  | .bytes given => .applied "Bytes" [.list (given.map fun byte => .atom (toString byte))]
  | .hex text => .applied "Hex" [.atom (Text.quotedWith unseen text)]

def shown : Preimage → Shown :=
  shownWith Text.isUnseen

end Preimage

end KeyDigest
