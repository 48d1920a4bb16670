import KeyDigest.Digest.Format
import KeyDigest.Digest.Json
import KeyDigest.Hashing
import KeyDigest.Json.Value

/-! # Calls and sessions

Everything that the library can be asked to do, as data: `Call` is a request, `Answer` what a
successful one gives, `Failure` why another one failed, and `Call.perform` does it.  A session is a
run of calls in which the threshold of the log may be changed at any point.
-/

/-! ## Calls -/

namespace KeyDigest

open Log

/-- A text put to one of the two readers of hexadecimal texts. -/
inductive Trial where
  | parsed (text : String)
  | hashed (text : String)

/-- The kinds of JSON value that hold digests. -/
inductive JsonShape where
  | one
  | option
  | list
  | map

inductive Call where
  | hexOfPreimage (preimage : Preimage)
  | hexOfBytes (message : List UInt8)
  | hexOfText (text : String)
  | digest (message : List UInt8)
  | digestSlices (slices : List (List UInt8))
  | digestPreimage (preimage : Preimage)
  | sha256 (message : List UInt8)
  | sha256Slices (slices : List (List UInt8))
  | ripemd160 (message : List UInt8)
  | content (preimage : Preimage)
  | showPreimage (preimage : Preimage) (spreadOut : Bool)
  | samePreimage (a b : Preimage)
  | zero
  | ofBytes (bytes : Vector UInt8 digestSize)
  | parse (text : String)
  | views (digest : Digest)
  | compare (a b : Digest)
  | arrange (digests : List Digest)
  | format (digest : Digest) (form : DigestForm) (spec : FieldSpec)
  | explain (trial : Trial)
  | sameError (a b : Trial)
  | toJson (digest : Digest)
  | listToJson (digests : List Digest)
  | positionsToJson (digests : List Digest)
  | ofJson (shape : JsonShape) (value : Json)
  | ofDocument (document : String)
  | ofScalar (scalar : Scalar)

structure Comparison where
  equal : Bool
  ordering : Ordering
  less : Bool
  atLeast : Bool
  greater : Digest
  lesser : Digest

inductive Answer where
  | nothing
  | digest (digest : Digest)
  | text (text : String)
  | content (content : Content)
  | truth (value : Bool)
  | views (digest : Digest)
  | comparison (comparison : Comparison)
  | arrangement (distinct : Nat) (sorted : List Digest)
  | error (error : Option DigestError)
  | option (digest : Option Digest)
  | list (digests : List Digest)
  | map (map : SortedMap Digest Digest)

inductive Failure where
  | digest (error : DigestError)
  | read (error : ReadError)
  | document (error : DocumentError)

def Digest.comparison (a b : Digest) : Comparison where
  equal := a = b
  ordering := compare a b
  less := a < b
  atLeast := b ≤ a
  greater := max a b
  lesser := min a b

/-- The error in which a trial ends, if it does. -/
def Trial.error? : Trial → Traced (Option DigestError)
  | .parsed text =>
    return match Digest.parse text with
      | .ok _ => none
      | .error error => some error
  | .hashed text => do
    let outcome ← (Hashing.hexOfText text).run
    return match outcome with
      | .ok _ => none
      | .error error => some error

/-- What a value of the given shape holds. -/
def JsonShape.read (value : Json) : JsonShape → Except ReadError Answer
  | one => (Digest.ofJson value).map .digest
  | option => (Digest.optionOfJson value).map .option
  | list => (Digest.listOfJson value).map .list
  | map => (Digest.mapOfJson value).map .map

namespace Call

abbrev Result := Except Failure Answer

/-- A call that cannot fail. -/
def certain {α : Type} (answer : α → Answer) (x : Traced α) : Traced Result := do
  return .ok (answer (← x))

/-- A call that can fail as hashing can. -/
def attempt {α : Type} (answer : α → Answer) (x : Hashing.Attempt α) : Traced Result := do
  match ← x.run with
  | .ok value => return .ok (answer value)
  | .error error => return .error (.digest error)

/-- A call that reports nothing. -/
def silent {ε α : Type} (failure : ε → Failure) (answer : α → Answer) (x : Except ε α) :
    Traced Result :=
  return match x with
    | .ok value => .ok (answer value)
    | .error error => .error (failure error)

def perform : Call → Traced Result
  | .hexOfPreimage preimage => attempt .text (Hashing.hexOfPreimage preimage)
  | .hexOfBytes message => certain .text (Hashing.hexOfBytes message)
  | .hexOfText text => attempt .text (Hashing.hexOfText text)
  | .digest message => certain .digest (Hashing.digest message)
  | .digestSlices slices => certain .digest (Hashing.digestSlices slices)
  | .digestPreimage preimage => attempt .digest (Hashing.digestPreimage preimage)
  | .sha256 message => return .ok (.text (Hex.encode (Sha256.sum message).toList))
  | .sha256Slices slices => return .ok (.text (Hex.encode (Sha256.sumSlices slices).toList))
  | .ripemd160 message => return .ok (.text (Hex.encode (Ripemd160.sum message).toList))
  | .content preimage => attempt .content (Hashing.content preimage)
  | .showPreimage preimage spreadOut => return .ok (.text (preimage.shown.render spreadOut))
  | .samePreimage a b => return .ok (.truth (a = b))
  | .zero => return .ok (.digest .zero)
  | .ofBytes bytes => return .ok (.digest ⟨bytes⟩)
  | .parse text => silent .digest .digest (Digest.parse text)
  | .views d => return .ok (.views d)
  | .compare a b => return .ok (.comparison (a.comparison b))
  | .arrange digests =>
    return .ok (.arrangement (Digest.distinct digests).length (Digest.sorted digests))
  | .format d form spec => return .ok (.text (d.format form spec))
  | .explain trial => certain .error trial.error?
  | .sameError a b => certain .truth do
    let first ← a.error?
    let second ← b.error?
    return first = second
  | .toJson d => return .ok (.text d.toJson.write)
  | .listToJson digests => return .ok (.text (Digest.listToJson digests).write)
  | .positionsToJson digests => return .ok (.text (Digest.positionsToJson digests).write)
  | .ofJson shape value => silent .read id (shape.read value)
  | .ofDocument document => silent .document .digest (Digest.ofDocument document)
  | .ofScalar scalar => silent .read .digest (Digest.ofScalar scalar)

/-- A call whose digest a session keeps. -/
def isKept : Call → Bool
  | .digest _ | .digestSlices _ | .digestPreimage _ | .zero | .ofBytes _ | .parse _ | .ofScalar _ =>
    true
  | _ => false

end Call

/-! ## Sessions

A session keeps the digests that its calls make, in order, so that a later call can be about an
earlier one.
-/

inductive Event where
  | call (call : Call)
  | setThreshold (threshold : Threshold)

structure Outcome where
  result : Call.Result
  records : List Record

/-- Where a session stands. -/
structure Session where
  threshold : Threshold := .off
  kept : List Digest := []

namespace Session

/-- The digest that an outcome adds to those kept. -/
def made (call : Call) (outcome : Outcome) : List Digest :=
  match outcome.result with
  | .ok (.digest digest) => if call.isKept then [digest] else []
  | _ => []

/-- The session after a step, and what the step left behind. -/
def step (session : Session) : Event → Session × Outcome
  | .call call =>
    let (result, records) := call.perform session.threshold
    let outcome := ⟨result, records⟩
    ({ session with kept := session.kept ++ made call outcome }, outcome)
  | .setThreshold threshold => ({ session with threshold }, ⟨.ok .nothing, []⟩)

/-- What each step of a run leaves behind. -/
def run (session : Session) : List Event → List Outcome
  | [] => []
  | event :: rest => (session.step event).2 :: (session.step event).1.run rest

end Session

end KeyDigest
