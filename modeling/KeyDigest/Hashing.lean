import KeyDigest.Digest.Basic
import KeyDigest.Log

/-! # Hashing key data

The entry points that hash key data and report on it.  Each one is written on top of another, so
that every digest of bytes is reported in one place, `digest`, and every refused text in one
place, `content`.
-/

namespace KeyDigest.Hashing

open Log

/-- A hashing that reports, and that may fail. -/
abbrev Attempt (α : Type) := ExceptT DigestError Traced α

def digest (message : List UInt8) : Traced Digest := do
  Traced.report (.hashingBytes message.length)
  return Digest.ofMessage message

/-- The digest of the bytes that `slices` make up, taken slice by slice. -/
def digestSlices (slices : List (List UInt8)) : Traced Digest := do
  Traced.report (.hashingSlices slices.length)
  return Digest.ofSlices slices

def content (preimage : Preimage) : Attempt Content := do
  match preimage.content with
  | .ok content => return content
  | .error reason =>
    Traced.report (.rejected preimage.length reason)
    throw (.encoding reason)

def digestPreimage (preimage : Preimage) : Attempt Digest := do
  Traced.report (.normalizing preimage.kind preimage.length)
  let content ← content preimage
  digest content.bytes

def hexOfPreimage (preimage : Preimage) : Attempt String :=
  Digest.toHex <$> digestPreimage preimage

def hexOfBytes (message : List UInt8) : Traced String :=
  Digest.toHex <$> digest message

/-- The digest of the bytes that a text encodes, as forty digits. -/
def hexOfText (text : String) : Attempt String :=
  hexOfPreimage (.hex text)

/-! ## What the entry points return -/

@[simp] theorem value_digest (message : List UInt8) (threshold : Threshold) :
    (digest message).value threshold = Digest.ofMessage message := rfl

@[simp] theorem value_digestSlices (slices : List (List UInt8)) (threshold : Threshold) :
    (digestSlices slices).value threshold = Digest.ofSlices slices := rfl

@[simp] theorem value_hexOfBytes (message : List UInt8) (threshold : Threshold) :
    (hexOfBytes message).value threshold = (Digest.ofMessage message).toHex := rfl

@[simp] theorem value_content (preimage : Preimage) (threshold : Threshold) :
    (content preimage).run.value threshold = preimage.content.mapError .encoding := by
  rw [content]
  cases preimage.content <;> rfl

@[simp] theorem value_digestPreimage (preimage : Preimage) (threshold : Threshold) :
    (digestPreimage preimage).run.value threshold =
      ((content preimage).run.value threshold).map fun content =>
        Digest.ofMessage content.bytes := by
  rw [digestPreimage, content]
  cases preimage.content <;> rfl

@[simp] theorem value_hexOfPreimage (preimage : Preimage) (threshold : Threshold) :
    (hexOfPreimage preimage).run.value threshold =
      ((digestPreimage preimage).run.value threshold).map Digest.toHex := by
  rw [hexOfPreimage, ExceptT.run_map, Traced.value_map]

@[simp] theorem hexOfText_eq (text : String) : hexOfText text = hexOfPreimage (.hex text) := rfl

end KeyDigest.Hashing
