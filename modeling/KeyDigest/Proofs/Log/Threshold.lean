import KeyDigest.Proofs.Log.Accounting

/-! # What a threshold changes

The threshold of the log decides which records are made, and nothing else.  `Traced.Oblivious` says
this of one computation: it returns what it returns under the widest threshold, and reports what it
reports there with the records left out that are not admitted.

* `Oblivious.bind`: it holds of a computation that is put together from parts of which it holds;
* `oblivious_perform`: so it holds of every call;
* `Session.run_filters`: and of every run, also one in which the threshold changes between calls.

What makes the run an induction over the events is that the digests a session keeps come from
results alone, so that two sessions which differ in their threshold keep the same.
-/

namespace KeyDigest

open Log

namespace Log.Traced

variable {α β : Type}

/-- What the threshold in force leaves of a list of records. -/
def admitted (threshold : Threshold) (records : List Record) : List Record :=
  records.filter fun record => threshold.admits record.level

@[simp] theorem admitted_append (threshold : Threshold) (first second : List Record) :
    admitted threshold (first ++ second) = admitted threshold first ++ admitted threshold second :=
  List.filter_append ..

structure Oblivious (x : Traced α) : Prop where
  value_eq : ∀ threshold, x.value threshold = x.value widest
  records_eq : ∀ threshold, x.records threshold = admitted threshold (x.records widest)

theorem oblivious_pure (a : α) : Oblivious (pure a) where
  value_eq _ := rfl
  records_eq _ := rfl

theorem admits_widest (level : Level) : widest.admits level = true := by
  cases level <;> rfl

/-- Only here is the threshold looked at, to make a record or not. -/
theorem oblivious_report (record : Record) : Oblivious (report record) where
  value_eq _ := rfl
  records_eq threshold := by
    rw [records_report, records_report, if_pos (admits_widest _), admitted, List.filter_singleton]
    cases threshold.admits record.level <;> rfl

theorem Oblivious.bind {x : Traced α} {next : α → Traced β} (hx : Oblivious x)
    (hnext : ∀ a, Oblivious (next a)) : Oblivious (x >>= next) where
  value_eq threshold := by
    rw [value_bind, value_bind, hx.value_eq threshold, (hnext _).value_eq threshold]
  records_eq threshold := by
    rw [records_bind, records_bind, hx.value_eq threshold, hx.records_eq threshold,
      (hnext _).records_eq threshold, admitted_append]

theorem Oblivious.map {x : Traced α} (f : α → β) (hx : Oblivious x) : Oblivious (f <$> x) :=
  hx.bind fun a => oblivious_pure (f a)

end Log.Traced

open Traced

/-! ## Hashing -/

namespace Hashing

theorem oblivious_digest (message : List UInt8) : Oblivious (digest message) :=
  (oblivious_report _).bind fun _ => oblivious_pure _

theorem oblivious_digestSlices (slices : List (List UInt8)) : Oblivious (digestSlices slices) :=
  (oblivious_report _).bind fun _ => oblivious_pure _

/-- The record of a refusal is made on the way out, before the error is returned. -/
theorem oblivious_content (preimage : Preimage) : Oblivious (content preimage).run := by
  rw [content]
  cases preimage.content with
  | ok content => exact oblivious_pure _
  | error reason =>
    refine .bind ((oblivious_report _).map _) fun outcome => ?_
    cases outcome <;> exact oblivious_pure _

theorem oblivious_digestPreimage (preimage : Preimage) :
    Oblivious (digestPreimage preimage).run := by
  rw [digestPreimage, ExceptT.run_bind]
  refine .bind ((oblivious_report _).map _) fun outcome => ?_
  cases outcome with
  | error error => exact oblivious_pure _
  | ok _ =>
    refine (oblivious_content preimage).bind fun outcome => ?_
    cases outcome with
    | error error => exact oblivious_pure _
    | ok content => exact (oblivious_digest content.bytes).map _

theorem oblivious_hexOfPreimage (preimage : Preimage) : Oblivious (hexOfPreimage preimage).run := by
  rw [hexOfPreimage, ExceptT.run_map]
  exact (oblivious_digestPreimage preimage).map _

theorem oblivious_hexOfBytes (message : List UInt8) : Oblivious (hexOfBytes message) :=
  (oblivious_digest message).map _

end Hashing

/-! ## Calls -/

theorem oblivious_error? (trial : Trial) : Oblivious trial.error? := by
  cases trial with
  | parsed text => exact oblivious_pure _
  | hashed text =>
    exact (Hashing.oblivious_hexOfPreimage (.hex text)).bind fun _ => oblivious_pure _

namespace Call

variable {α : Type} {answer : α → Answer}

theorem oblivious_certain {x : Traced α} (hx : Oblivious x) : Oblivious (certain answer x) :=
  hx.bind fun _ => oblivious_pure _

theorem oblivious_attempt {x : Hashing.Attempt α} (hx : Oblivious x.run) :
    Oblivious (attempt answer x) := by
  refine hx.bind fun outcome => ?_
  cases outcome <;> exact oblivious_pure _

theorem oblivious_perform (call : Call) : Oblivious call.perform := by
  cases call with
  | hexOfPreimage preimage => exact oblivious_attempt (Hashing.oblivious_hexOfPreimage preimage)
  | hexOfBytes message => exact oblivious_certain (Hashing.oblivious_hexOfBytes message)
  | hexOfText text => exact oblivious_attempt (Hashing.oblivious_hexOfPreimage (.hex text))
  | digest message => exact oblivious_certain (Hashing.oblivious_digest message)
  | digestSlices slices => exact oblivious_certain (Hashing.oblivious_digestSlices slices)
  | digestPreimage preimage => exact oblivious_attempt (Hashing.oblivious_digestPreimage preimage)
  | content preimage => exact oblivious_attempt (Hashing.oblivious_content preimage)
  | explain trial => exact oblivious_certain (oblivious_error? trial)
  | sameError a b =>
    refine oblivious_certain ((oblivious_error? a).bind fun _ => ?_)
    exact (oblivious_error? b).bind fun _ => oblivious_pure _
  | _ => exact oblivious_pure _

end Call

/-! ## Runs -/

namespace Log.Record

def isRejection : Record → Bool
  | rejected _ _ => true
  | hashingBytes _ | hashingSlices _ | normalizing _ _ => false

/-- Refusals are the one kind of record at the level `debug`; all others are at `trace`. -/
theorem admits_debug (record : Record) :
    Threshold.admits (.upTo .debug) record.level = record.isRejection := by
  cases record <;> rfl

theorem not_admits {threshold : Threshold} (h : threshold.rank ≤ Level.info.rank)
    (record : Record) : threshold.admits record.level = false := by
  have hrank : Level.info.rank < record.level.rank := by
    cases record <;> simp [Level.rank, level]
  simp only [Threshold.admits, decide_eq_false_iff_not]
  omega

end Log.Record

/-- The outcome of the same step under a lower threshold. -/
def Outcome.under (threshold : Threshold) (outcome : Outcome) : Outcome where
  result := outcome.result
  records := admitted threshold outcome.records

/-- The event, except that it leaves the threshold at its widest. -/
def Event.widened : Event → Event
  | .call request => .call request
  | .setThreshold _ => .setThreshold widest

namespace Session

def widened (session : Session) : Session :=
  { session with threshold := widest }

/-- The threshold that is in force at each event of a run. -/
def thresholds (threshold : Threshold) : List Event → List Threshold
  | [] => []
  | .call _ :: rest => threshold :: thresholds threshold rest
  | .setThreshold next :: rest => threshold :: thresholds next rest

/-- Where a session stands after a run. -/
def after (session : Session) (events : List Event) : Session :=
  events.foldl (fun session event => (session.step event).1) session

/-- What a call leaves behind under a threshold. -/
def outcomeOf (call : Call) (threshold : Threshold) : Outcome where
  result := call.perform.value threshold
  records := call.perform.records threshold

theorem step_call (session : Session) (call : Call) :
    session.step (.call call) =
      (⟨session.threshold, session.kept ++ made call (outcomeOf call session.threshold)⟩,
        outcomeOf call session.threshold) := rfl

theorem outcomeOf_eq_under (call : Call) (threshold : Threshold) :
    outcomeOf call threshold = (outcomeOf call widest).under threshold := by
  have hcall := Call.oblivious_perform call
  rw [outcomeOf, hcall.value_eq, hcall.records_eq]
  rfl

/-- A step leaves what it leaves under the widest threshold, less some records, and two sessions
that differ in the threshold alone still do after it. -/
theorem step_under (session : Session) (event : Event) :
    (session.step event).2 =
        (session.widened.step event.widened).2.under session.threshold ∧
      (session.step event).1.widened = (session.widened.step event.widened).1 := by
  cases event with
  | setThreshold threshold => exact ⟨rfl, rfl⟩
  | call call =>
    rw [Event.widened, step_call, step_call, outcomeOf_eq_under]
    exact ⟨rfl, rfl⟩

theorem thresholds_cons (session : Session) (event : Event) (rest : List Event) :
    thresholds session.threshold (event :: rest) =
      session.threshold :: thresholds (session.step event).1.threshold rest := by
  cases event <;> rfl

theorem run_eq_zipWith (session : Session) (events : List Event) :
    session.run events = List.zipWith Outcome.under (thresholds session.threshold events)
      (session.widened.run (events.map Event.widened)) := by
  induction events generalizing session with
  | nil => rfl
  | cons event rest ih =>
    obtain ⟨houtcome, hnext⟩ := step_under session event
    rw [thresholds_cons, List.map_cons, run, run, List.zipWith_cons_cons, ← houtcome, ← hnext, ih]

theorem after_widened (session : Session) (events : List Event) :
    (session.after events).widened = session.widened.after (events.map Event.widened) := by
  induction events generalizing session with
  | nil => rfl
  | cons event rest ih =>
    have hnext := (step_under session event).2
    rw [after, List.foldl_cons, ← after, ih, hnext]
    rfl

theorem map_result_run (session : Session) (events : List Event) :
    (session.run events).map Outcome.result =
      (session.widened.run (events.map Event.widened)).map Outcome.result := by
  induction events generalizing session with
  | nil => rfl
  | cons event rest ih =>
    obtain ⟨houtcome, hnext⟩ := step_under session event
    rw [List.map_cons, run, run, List.map_cons, List.map_cons, houtcome, ← hnext, ih]
    rfl

/-- What a run under given thresholds has at one place, from the run under the widest. -/
theorem getElem?_run (session : Session) (events : List Event) {place : Nat}
    {threshold : Threshold} (h : (thresholds session.threshold events)[place]? = some threshold) :
    (session.run events)[place]? =
      ((session.widened.run (events.map Event.widened))[place]?).map (Outcome.under threshold) := by
  rw [run_eq_zipWith, List.getElem?_zipWith, h]
  cases (session.widened.run (events.map Event.widened))[place]? <;> rfl

theorem length_run (session : Session) (events : List Event) :
    (session.run events).length = events.length := by
  induction events generalizing session with
  | nil => rfl
  | cons event rest ih => rw [run, List.length_cons, List.length_cons, ih]

theorem length_thresholds (threshold : Threshold) (events : List Event) :
    (thresholds threshold events).length = events.length := by
  induction events generalizing threshold with
  | nil => rfl
  | cons event rest ih => cases event <;> simp [thresholds, ih]

/-- A run in which the threshold changes at will returns what it returns under the widest
threshold, keeps the same digests, and reports at each call what it reports there up to the level
in force: at `debug` the refusals alone, and at `info` or below nothing. -/
theorem run_filters (session : Session) (events : List Event) :
    (session.run events).map Outcome.result =
        (session.widened.run (events.map Event.widened)).map Outcome.result ∧
    session.run events = List.zipWith Outcome.under (thresholds session.threshold events)
        (session.widened.run (events.map Event.widened)) ∧
    (session.after events).kept = (session.widened.after (events.map Event.widened)).kept ∧
    (∀ place : Nat, (thresholds session.threshold events)[place]? = some (.upTo .debug) →
      (session.run events)[place]?.map Outcome.records =
        (session.widened.run (events.map Event.widened))[place]?.map fun outcome =>
          outcome.records.filter Record.isRejection) ∧
    ∀ (place : Nat) (threshold : Threshold),
      (thresholds session.threshold events)[place]? = some threshold →
      threshold.rank ≤ Level.info.rank →
      (session.run events)[place]?.map Outcome.records = some [] := by
  refine ⟨map_result_run session events, run_eq_zipWith session events, ?_,
    fun place h => ?_, fun place threshold h hrank => ?_⟩
  · rw [← after_widened]
    rfl
  · rw [getElem?_run session events h, Option.map_map]
    congr 1
    funext outcome
    exact List.filter_congr fun record _ => Record.admits_debug record
  -- There is an outcome at the place, but no record is as important as `info`.
  · have hplace : place < (session.run events).length := by
      rw [length_run, ← length_thresholds session.threshold]
      exact (List.getElem?_eq_some_iff.mp h).1
    have hrun := getElem?_run session events h
    rw [List.getElem?_eq_getElem hplace] at hrun ⊢
    obtain ⟨outcome, -, houtcome⟩ := Option.map_eq_some_iff.mp hrun.symm
    rw [Option.map_some, ← houtcome]
    refine congrArg some (List.filter_eq_nil_iff.mpr fun record _ => ?_)
    rw [Record.not_admits hrank record]
    exact Bool.false_ne_true

-- Without the record at `trace` that precedes it, the refusal at `debug` is still made.
example : ((Session.run {} [.call (.hexOfText "0z"), .setThreshold (.upTo .debug),
      .call (.hexOfText "0z")]).map Outcome.lines) =
    [[], [], ["DEBUG hash160::input: rejected hex input of length 2: " ++
      "Invalid character 'z' at position 1"]] := by
  decide

end Session

end KeyDigest
