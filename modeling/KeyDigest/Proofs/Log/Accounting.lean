import Mathlib.Data.List.Forall2
import KeyDigest.Proofs.Collection.Traversal
import KeyDigest.Proofs.Hex.Reading
import KeyDigest.Session

/-! # Accounting for the log

What a session writes to its log when the threshold is widest.  `Segment` says which lines belong
to a call that ends in a given result, rule by rule and in full text; it knows neither how a call is
done nor through which other functions.

* `segment_perform`: every call writes a segment of its own;
* `run_log`: so the log of a run is one segment after another, in the order of the calls, and it
  has a line of a digest being computed for every digest that the hashing functions compute.

The functions that hash are written on top of one another, so the step has to show that a line is
neither lost nor doubled on the way; the run is an induction over the calls.
-/

namespace KeyDigest

open Log

namespace Log

/-- The threshold that admits every record. -/
abbrev widest : Threshold := .upTo .trace

/-! ## Lines -/

def computingLine (count : Nat) (things : String) : String :=
  "TRACE hash160::digest: computing hash160 of " ++ toString count ++ " " ++ things

def normalizingLine (kind : String) (length : Nat) : String :=
  "TRACE hash160::digest: normalizing " ++ kind ++ " (" ++ toString length ++ ") input"

def rejectedLine (length : Nat) (reason : String) : String :=
  "DEBUG hash160::input: rejected hex input of length " ++ toString length ++ ": " ++ reason

/-- The line says that a digest is being computed. -/
def isComputing (line : String) : Bool :=
  "TRACE hash160::digest: computing hash160 of ".toList.isPrefixOf line.toList

theorem isComputing_computingLine (count : Nat) (things : String) :
    isComputing (computingLine count things) = true := by
  unfold isComputing computingLine
  generalize toString count = digits
  rw [List.isPrefixOf_iff_prefix]
  simp only [String.toList_append, List.append_assoc]
  exact List.prefix_append _ _

theorem isComputing_normalizingLine (kind : String) (length : Nat) :
    isComputing (normalizingLine kind length) = false := by
  unfold isComputing normalizingLine
  generalize toString length = digits
  simp only [String.toList_append, List.append_assoc]
  rfl

theorem isComputing_rejectedLine (length : Nat) (reason : String) :
    isComputing (rejectedLine length reason) = false := by
  unfold isComputing rejectedLine
  generalize toString length = digits
  simp only [String.toList_append, List.append_assoc]
  rfl

/-- A line is the message behind the level and the target.  Up to the number in the message it is
the text `opening`. -/
theorem Record.line_eq {record : Record} {opening start digits rest : String}
    (hmessage : record.message = start ++ (digits ++ rest))
    (hopening : record.level.name ++ " " ++ record.target ++ ": " ++ start = opening) :
    record.line = opening ++ (digits ++ rest) := by
  rw [Record.line, hmessage, ← hopening]
  simp only [String.append_assoc]

theorem computingLine_eq (count : Nat) (things : String) :
    computingLine count things =
      "TRACE hash160::digest: computing hash160 of " ++ (toString count ++ (" " ++ things)) := by
  unfold computingLine
  rw [String.append_assoc, String.append_assoc]

theorem line_hashingBytes (count : Nat) :
    (Record.hashingBytes count).line = computingLine count "bytes" := by
  have hmessage : (Record.hashingBytes count).message =
      "computing hash160 of " ++ (toString count ++ " bytes") := String.append_assoc ..
  exact (Record.line_eq hmessage rfl).trans (computingLine_eq count "bytes").symm

theorem line_hashingSlices (count : Nat) :
    (Record.hashingSlices count).line = computingLine count "slices" := by
  have hmessage : (Record.hashingSlices count).message =
      "computing hash160 of " ++ (toString count ++ " slices") := String.append_assoc ..
  exact (Record.line_eq hmessage rfl).trans (computingLine_eq count "slices").symm

theorem line_normalizing (kind : Preimage.Kind) (length : Nat) :
    (Record.normalizing kind length).line = normalizingLine kind.name length := by
  have hmessage : (Record.normalizing kind length).message =
      "normalizing " ++ kind.name ++ " (" ++ (toString length ++ ") input") :=
    String.append_assoc ..
  have hopening : "TRACE" ++ " " ++ "hash160::digest" ++ ": " ++
      ("normalizing " ++ kind.name ++ " (") =
        "TRACE hash160::digest: normalizing " ++ kind.name ++ " (" := by
    cases kind <;> rfl
  rw [Record.line_eq hmessage hopening]
  exact (String.append_assoc ..).symm

theorem rejectedLine_eq (length : Nat) (reason : String) :
    rejectedLine length reason =
      "DEBUG hash160::input: rejected hex input of length " ++
        (toString length ++ (": " ++ reason)) := by
  unfold rejectedLine
  rw [String.append_assoc, String.append_assoc]

theorem line_rejected (length : Nat) (reason : HexError) :
    (Record.rejected length reason).line = rejectedLine length reason.message := by
  have hmessage : (Record.rejected length reason).message =
      "rejected hex input of length " ++ (toString length ++ (": " ++ reason.message)) := by
    show "rejected hex input of length " ++ toString length ++ ": " ++ reason.message = _
    rw [String.append_assoc, String.append_assoc]
  exact (Record.line_eq hmessage rfl).trans (rejectedLine_eq length reason.message).symm

end Log

/-! ## Segments -/

/-- The lines of a preimage that is brought to bytes and hashed, by the error that this ends in. -/
inductive PreimageSegment : Preimage → Option DigestError → List String → Prop where
  | bytes {given : List UInt8} :
      PreimageSegment (.bytes given) none
        [normalizingLine "bytes" given.length, computingLine given.length "bytes"]
  | text {text : String} :
      PreimageSegment (.hex text) none
        [normalizingLine "hex" (Utf8.bytes text).length,
          computingLine ((Utf8.bytes text).length / 2) "bytes"]
  | refused {text : String} {error : DigestError} {reason : String} :
      error.message = "invalid hex encoding: " ++ reason →
      PreimageSegment (.hex text) (some error)
        [normalizingLine "hex" (Utf8.bytes text).length,
          rejectedLine (Utf8.bytes text).length reason]

/-- A text that is tried as a digest leaves no line, one that is tried as key data those of it. -/
inductive TrialSegment : Trial → Option DigestError → List String → Prop where
  | parsed {text : String} {error? : Option DigestError} :
      TrialSegment (.parsed text) error? []
  | hashed {text : String} {error? : Option DigestError} {lines : List String} :
      PreimageSegment (.hex text) error? lines → TrialSegment (.hashed text) error? lines

namespace Call

/-- The preimage that a call brings to bytes and hashes. -/
def hashedPreimage? : Call → Option Preimage
  | .digestPreimage preimage | .hexOfPreimage preimage => some preimage
  | .hexOfText text => some (.hex text)
  | _ => none

/-- A call that has nothing to report: reading and writing digests, comparing them, and the plain
hash functions. -/
def isQuiet : Call → Bool
  | .sha256 _ | .sha256Slices _ | .ripemd160 _ | .showPreimage _ _ | .samePreimage _ _ | .zero
  | .ofBytes _ | .parse _ | .views _ | .compare _ _ | .arrange _ | .format _ _ _ | .toJson _
  | .listToJson _ | .positionsToJson _ | .ofJson _ _ | .ofDocument _ | .ofScalar _ => true
  | _ => false

end Call

/-- The lines of a call that ends in a result. -/
inductive Segment : Call → Call.Result → List String → Prop where
  | digest {message : List UInt8} {answer : Answer} :
      Segment (.digest message) (.ok answer) [computingLine message.length "bytes"]
  | hexOfBytes {message : List UInt8} {answer : Answer} :
      Segment (.hexOfBytes message) (.ok answer) [computingLine message.length "bytes"]
  | digestSlices {slices : List (List UInt8)} {answer : Answer} :
      Segment (.digestSlices slices) (.ok answer) [computingLine slices.length "slices"]
  | hashed {call : Call} {preimage : Preimage} {answer : Answer} {lines : List String} :
      call.hashedPreimage? = some preimage → PreimageSegment preimage none lines →
      Segment call (.ok answer) lines
  | refused {call : Call} {preimage : Preimage} {error : DigestError} {lines : List String} :
      call.hashedPreimage? = some preimage → PreimageSegment preimage (some error) lines →
      Segment call (.error (.digest error)) lines
  | content {preimage : Preimage} {answer : Answer} :
      Segment (.content preimage) (.ok answer) []
  | rejected {text : String} {error : DigestError} {reason : String} :
      error.message = "invalid hex encoding: " ++ reason →
      Segment (.content (.hex text)) (.error (.digest error))
        [rejectedLine (Utf8.bytes text).length reason]
  | explain {trial : Trial} {error? : Option DigestError} {lines : List String} :
      TrialSegment trial error? lines → Segment (.explain trial) (.ok (.error error?)) lines
  | sameError {a b : Trial} {answer : Answer} {first second : List String} :
      TrialSegment a (a.error?.value widest) first →
      TrialSegment b (b.error?.value widest) second →
      Segment (.sameError a b) (.ok answer) (first ++ second)
  | quiet {call : Call} {result : Call.Result} :
      call.isQuiet → Segment call result []

/-! ## Counting -/

/-- How many digests of key data a trial computes, by the error that it ends in. -/
def Trial.digestCount : Trial → Option DigestError → Nat
  | .hashed _, none => 1
  | _, _ => 0

/-- How many digests of key data a call computes, by the result that it ends in. -/
def Call.digestCount : Call → Call.Result → Nat
  | .digest _, .ok _ | .hexOfBytes _, .ok _ | .digestSlices _, .ok _ | .digestPreimage _, .ok _
  | .hexOfPreimage _, .ok _ | .hexOfText _, .ok _ => 1
  | .explain trial, .ok (.error error?) => trial.digestCount error?
  | .sameError a b, .ok _ =>
    a.digestCount (a.error?.value widest) + b.digestCount (b.error?.value widest)
  | _, _ => 0

theorem Call.digestCount_of_hashedPreimage? {call : Call} {preimage : Preimage}
    (h : call.hashedPreimage? = some preimage) (answer : Answer) :
    call.digestCount (.ok answer) = 1 := by
  unfold Call.hashedPreimage? at h
  split at h
  · rfl
  · rfl
  · rfl
  · cases h

theorem PreimageSegment.countP_isComputing {preimage : Preimage} {error? : Option DigestError}
    {lines : List String} (h : PreimageSegment preimage error? lines) :
    lines.countP isComputing = if error?.isNone then 1 else 0 := by
  cases h with
  | bytes => simp [isComputing_normalizingLine, isComputing_computingLine]
  | text => simp [isComputing_normalizingLine, isComputing_computingLine]
  | refused => simp [isComputing_normalizingLine, isComputing_rejectedLine]

theorem TrialSegment.countP_isComputing {trial : Trial} {error? : Option DigestError}
    {lines : List String} (h : TrialSegment trial error? lines) :
    lines.countP isComputing = trial.digestCount error? := by
  cases h with
  | parsed => cases error? <;> rfl
  | hashed hlines =>
    rw [hlines.countP_isComputing]
    cases error? <;> rfl

theorem Segment.countP_isComputing {call : Call} {result : Call.Result} {lines : List String}
    (h : Segment call result lines) : lines.countP isComputing = call.digestCount result := by
  cases h with
  | digest => simp [isComputing_computingLine, Call.digestCount]
  | hexOfBytes => simp [isComputing_computingLine, Call.digestCount]
  | digestSlices => simp [isComputing_computingLine, Call.digestCount]
  | hashed hcall hlines =>
    rw [hlines.countP_isComputing, Call.digestCount_of_hashedPreimage? hcall]
    rfl
  | refused hcall hlines =>
    rw [hlines.countP_isComputing]
    cases call <;> rfl
  | content => rfl
  | rejected => simp [isComputing_rejectedLine, Call.digestCount]
  | explain hlines => exact hlines.countP_isComputing
  | sameError hfirst hsecond =>
    rw [List.countP_append, hfirst.countP_isComputing, hsecond.countP_isComputing]
    rfl
  | quiet hquiet =>
    cases call with
    | digest | hexOfBytes | digestSlices | digestPreimage | hexOfPreimage | hexOfText | content
    | explain | sameError => cases hquiet
    | _ => rfl

/-! ## One call -/

/-- A text that can be read encodes half as many bytes as it has. -/
theorem length_bytes_of_content_hex {text : String} {content : Content}
    (h : (Preimage.hex text).content = .ok content) :
    content.bytes.length = (Utf8.bytes text).length / 2 := by
  rw [Preimage.content, Hex.decode, map_eq_ok_iff] at h
  obtain ⟨bytes, hread, rfl⟩ := h
  obtain ⟨-, -, hbytes⟩ := Hex.decodeBytes_eq_ok hread
  show bytes.length = _
  rw [hbytes, Hex.length_pairBytes]

/-- The error in which an attempt ends, if it does. -/
def errorOf {α : Type} : Except DigestError α → Option DigestError
  | .ok _ => none
  | .error error => some error

theorem records_content (preimage : Preimage) :
    (Hashing.content preimage).run.records widest =
      match preimage.content with
      | .ok _ => []
      | .error reason => [.rejected preimage.length reason] := by
  rw [Hashing.content]
  cases preimage.content <;> rfl

theorem records_digestPreimage (preimage : Preimage) :
    (Hashing.digestPreimage preimage).run.records widest =
      .normalizing preimage.kind preimage.length ::
        match preimage.content with
        | .ok content => [.hashingBytes content.bytes.length]
        | .error reason => [.rejected preimage.length reason] := by
  rw [Hashing.digestPreimage, Hashing.content]
  cases preimage.content <;> rfl

theorem preimageSegment_digestPreimage (preimage : Preimage) :
    PreimageSegment preimage (errorOf ((Hashing.digestPreimage preimage).run.value widest))
      (((Hashing.digestPreimage preimage).run.records widest).map Record.line) := by
  rw [records_digestPreimage, Hashing.value_digestPreimage, Hashing.value_content]
  cases hcontent : preimage.content with
  | ok content =>
    simp only [List.map_cons, List.map_nil, line_normalizing, line_hashingBytes]
    cases preimage with
    | bytes given =>
      cases hcontent
      exact .bytes
    | hex text =>
      rw [length_bytes_of_content_hex hcontent]
      exact .text
  | error reason =>
    simp only [List.map_cons, List.map_nil, line_normalizing, line_rejected]
    -- Only a text can be refused.
    cases preimage with
    | bytes given => cases hcontent
    | hex text => exact .refused rfl

/-- Writing the digest out as a text adds nothing to report. -/
theorem preimageSegment_hexOfPreimage (preimage : Preimage) :
    PreimageSegment preimage (errorOf ((Hashing.hexOfPreimage preimage).run.value widest))
      (((Hashing.hexOfPreimage preimage).run.records widest).map Record.line) := by
  have hrecords : (Hashing.hexOfPreimage preimage).run.records widest =
      (Hashing.digestPreimage preimage).run.records widest := by
    rw [Hashing.hexOfPreimage, ExceptT.run_map, Traced.records_map]
  have herror : errorOf ((Hashing.hexOfPreimage preimage).run.value widest) =
      errorOf ((Hashing.digestPreimage preimage).run.value widest) := by
    rw [Hashing.value_hexOfPreimage]
    cases (Hashing.digestPreimage preimage).run.value widest <;> rfl
  rw [hrecords, herror]
  exact preimageSegment_digestPreimage preimage

-- A text that is refused leaves two lines, and none of a digest being computed.
example : ((Hashing.hexOfText "0z").run.records widest).map Record.line = [
    "TRACE hash160::digest: normalizing hex (2) input",
    "DEBUG hash160::input: rejected hex input of length 2: Invalid character 'z' at position 1"] := by
  decide

theorem trialSegment_error? (trial : Trial) :
    TrialSegment trial (trial.error?.value widest)
      ((trial.error?.records widest).map Record.line) := by
  cases trial with
  | parsed text => exact .parsed
  | hashed text =>
    have hvalue : (Trial.hashed text).error?.value widest =
        errorOf ((Hashing.hexOfText text).run.value widest) := by
      rw [Trial.error?, Traced.value_bind]
      cases (Hashing.hexOfText text).run.value widest <;> rfl
    have hrecords : (Trial.hashed text).error?.records widest =
        (Hashing.hexOfText text).run.records widest := List.append_nil _
    rw [hvalue, hrecords]
    exact .hashed (preimageSegment_hexOfPreimage (.hex text))

theorem segment_attempt {call : Call} {preimage : Preimage}
    (hcall : call.hashedPreimage? = some preimage) {α : Type} (answer : α → Answer)
    {x : Hashing.Attempt α}
    (hlines : PreimageSegment preimage (errorOf (x.run.value widest))
      ((x.run.records widest).map Record.line)) :
    Segment call ((Call.attempt answer x).value widest)
      (((Call.attempt answer x).records widest).map Record.line) := by
  rw [Call.attempt, Traced.value_bind, Traced.records_bind]
  cases hvalue : x.run.value widest with
  | ok value =>
    rw [hvalue] at hlines
    rw [Traced.records_pure, List.append_nil]
    exact .hashed hcall hlines
  | error error =>
    rw [hvalue] at hlines
    rw [Traced.records_pure, List.append_nil]
    exact .refused hcall hlines

theorem segment_content (preimage : Preimage) :
    Segment (.content preimage)
      ((Call.attempt .content (Hashing.content preimage)).value widest)
      (((Call.attempt .content (Hashing.content preimage)).records widest).map Record.line) := by
  rw [Call.attempt, Traced.value_bind, Traced.records_bind, records_content, Hashing.value_content]
  cases hcontent : preimage.content with
  | ok content => exact .content
  | error reason =>
    cases preimage with
    | bytes given => cases hcontent
    | hex text =>
      show Segment _ _ [Record.line _]
      rw [line_rejected]
      exact .rejected rfl

/-- Every call writes a segment of its own, whatever functions it goes through. -/
theorem segment_perform (call : Call) :
    Segment call (call.perform.value widest) ((call.perform.records widest).map Record.line) := by
  cases call with
  | digest message =>
    show Segment _ _ [Record.line _]
    rw [line_hashingBytes]
    exact .digest
  | hexOfBytes message =>
    show Segment _ _ [Record.line _]
    rw [line_hashingBytes]
    exact .hexOfBytes
  | digestSlices slices =>
    show Segment _ _ [Record.line _]
    rw [line_hashingSlices]
    exact .digestSlices
  | digestPreimage preimage =>
    exact segment_attempt rfl .digest (preimageSegment_digestPreimage preimage)
  | hexOfPreimage preimage =>
    exact segment_attempt rfl .text (preimageSegment_hexOfPreimage preimage)
  | hexOfText text => exact segment_attempt rfl .text (preimageSegment_hexOfPreimage (.hex text))
  | content preimage => exact segment_content preimage
  | explain trial =>
    have hrecords : (Call.explain trial).perform.records widest = trial.error?.records widest :=
      List.append_nil _
    rw [hrecords]
    exact .explain (trialSegment_error? trial)
  | sameError a b =>
    have hrecords : (Call.sameError a b).perform.records widest =
        a.error?.records widest ++ b.error?.records widest := by
      show (_ ++ (_ ++ [])) ++ [] = _
      rw [List.append_nil, List.append_nil]
      rfl
    rw [hrecords, List.map_append]
    exact .sameError (trialSegment_error? a) (trialSegment_error? b)
  | _ => exact .quiet rfl

/-! ## Runs -/

def Outcome.lines (outcome : Outcome) : List String :=
  outcome.records.map Record.line

/-- The log of a run, from first to last. -/
def Session.log (outcomes : List Outcome) : List String :=
  outcomes.flatMap Outcome.lines

/-- How many digests of key data the calls of a run compute. -/
def Session.digestCount : List Call → List Outcome → Nat
  | call :: calls, outcome :: outcomes =>
    call.digestCount outcome.result + digestCount calls outcomes
  | _, _ => 0

theorem Session.forall₂_segment_run (calls : List Call) (kept : List Digest) :
    List.Forall₂ (fun call outcome => Segment call outcome.result outcome.lines) calls
      (Session.run ⟨widest, kept⟩ (calls.map .call)) := by
  induction calls generalizing kept with
  | nil => exact .nil
  | cons call calls ih =>
    -- A step of a call keeps the threshold, and what else it keeps no call looks at.
    exact .cons (segment_perform call) (ih _)

theorem Session.countP_log {calls : List Call} {outcomes : List Outcome}
    (h : List.Forall₂ (fun call outcome => Segment call outcome.result outcome.lines) calls
      outcomes) :
    (log outcomes).countP isComputing = digestCount calls outcomes := by
  induction h with
  | nil => rfl
  | cons hsegment _ ih =>
    rw [log, List.flatMap_cons, List.countP_append, hsegment.countP_isComputing, ← log, ih]
    rfl

/-- The log of a run at the widest threshold is one segment for each call, and has as many lines of
digests being computed as the calls compute. -/
theorem Session.run_log (calls : List Call) (kept : List Digest) :
    List.Forall₂ (fun call outcome => Segment call outcome.result outcome.lines) calls
        (Session.run ⟨widest, kept⟩ (calls.map .call)) ∧
      (log (Session.run ⟨widest, kept⟩ (calls.map .call))).countP isComputing =
        digestCount calls (Session.run ⟨widest, kept⟩ (calls.map .call)) :=
  ⟨forall₂_segment_run calls kept, countP_log (forall₂_segment_run calls kept)⟩

end KeyDigest
