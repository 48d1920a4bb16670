import KeyDigest.Hex
import KeyDigest.Ripemd160
import KeyDigest.Sha256
import KeyDigest.Text.Shown

/-! # Digests

The digest of some key data is the RIPEMD-160 of its SHA-256: twenty bytes.  Digests are ordered as
sequences of unsigned bytes, so the fingerprint, the first five of them, is monotone.  A written
digest is forty hexadecimal digits, and an error says why another text gives none.
-/

namespace KeyDigest

abbrev digestSize : Nat := 20

abbrev fingerprintSize : Nat := 5

/-- Twenty bytes that stand for some key data. -/
structure Digest where
  bytes : Vector UInt8 digestSize
  deriving DecidableEq

namespace Digest

def zero : Digest where
  bytes := Vector.replicate digestSize 0

instance : Inhabited Digest := ⟨zero⟩

/-! ## Hashing -/

def ofMessage (message : List UInt8) : Digest where
  bytes := Ripemd160.sum (Sha256.sum message).toList

def ofSlices (slices : List (List UInt8)) : Digest where
  bytes := Ripemd160.sum (Sha256.sumSlices slices).toList

/-! ## Views -/

def toList (digest : Digest) : List UInt8 :=
  digest.bytes.toList

def toHex (digest : Digest) : String :=
  Hex.encode digest.toList

def fingerprint (digest : Digest) : Vector UInt8 fingerprintSize :=
  digest.bytes.take fingerprintSize

@[simp] theorem length_toList (digest : Digest) : digest.toList.length = digestSize := by
  simp [toList]

/-! ## Order -/

/-- Digests compare by their first byte that differs. -/
instance : Ord Digest where
  compare a b := compare a.bytes b.bytes

instance : LT Digest := ltOfOrd
instance : LE Digest := leOfOrd
instance : Max Digest := maxOfLe
instance : Min Digest := minOfLe

theorem compare_def (a b : Digest) : compare a b = compare a.bytes b.bytes := rfl

instance : Std.TransOrd Digest where
  eq_swap := Std.OrientedOrd.eq_swap (α := Vector UInt8 digestSize)
  isLE_trans := Std.TransOrd.isLE_trans (α := Vector UInt8 digestSize)

instance : Std.LawfulEqOrd Digest where
  compare_self := Std.ReflOrd.compare_self (α := Vector UInt8 digestSize)
  eq_of_compare {a b} h := by
    cases a
    cases b
    exact congrArg Digest.mk (Std.LawfulEqOrd.eq_of_compare h)

/-- A list of digests in ascending order, repeated ones kept. -/
def sorted (digests : List Digest) : List Digest :=
  digests.mergeSort fun a b => (compare a b).isLE

/-- The different digests of a list, each where it first occurs. -/
def distinct (digests : List Digest) : List Digest :=
  digests.eraseDups

end Digest

/-! ## Errors

Each error has a message for a reader, and two shown forms that give its structure.  An encoding
error has a source, the reason that the hexadecimal reader gave; a length error has none.
-/

/-- Why a text gives no digest. -/
inductive DigestError where
  | encoding (reason : HexError)
  /-- The text has `length` bytes, and a written digest has forty. -/
  | length (length : Nat)
  deriving DecidableEq

namespace DigestError

def message : DigestError → String
  | encoding reason => "invalid hex encoding: " ++ reason.message
  | length n => "invalid digest length: expected 40 hex characters, got " ++ toString n

def shown : DigestError → Shown
  | encoding reason => .applied "InvalidEncoding" [reason.shown]
  | length n => .applied "InvalidLength" [.atom (toString n)]

/-- What caused the error, if something else did. -/
def source? : DigestError → Option HexError
  | encoding reason => some reason
  | length _ => none

end DigestError

/-! ## Reading

The length is judged before any digit, so a text of another length is refused for its length
whatever it holds.
-/

namespace Digest

/-- The digest that a text writes. -/
def parse (text : String) : Except DigestError Digest :=
  let length := (Utf8.bytes text).length
  if length = 2 * digestSize then
    match Hex.decodeExact digestSize text with
    | .ok bytes => .ok ⟨bytes⟩
    | .error reason => .error (.encoding reason)
  else .error (.length length)

end Digest

end KeyDigest
