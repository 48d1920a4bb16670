import KeyDigest.Preimage

/-! # The log

What the library reports about its own work.  A threshold says up to which level records are made.
A `Traced` computation knows the threshold in force and yields, beside its value, the records that
it made under it.
-/

namespace KeyDigest.Log

/-! ## Levels

Levels and thresholds are placed on one scale: `off` is below every level, and `trace` is above all
others.
-/

/-- How much detail a record belongs to. -/
inductive Level where
  | error
  | warn
  | info
  | debug
  | trace
  deriving DecidableEq

namespace Level

/-- The place of a level on the scale, from the most to the least important. -/
def rank : Level → Nat
  | error => 1
  | warn => 2
  | info => 3
  | debug => 4
  | trace => 5

def name : Level → String
  | error => "ERROR"
  | warn => "WARN"
  | info => "INFO"
  | debug => "DEBUG"
  | trace => "TRACE"

def all : List Level :=
  [error, warn, info, debug, trace]

end Level

/-- The level up to which records are made. -/
inductive Threshold where
  | off
  /-- Records are made up to a level, itself included. -/
  | upTo (level : Level)
  deriving DecidableEq

namespace Threshold

def rank : Threshold → Nat
  | off => 0
  | upTo level => level.rank

def admits (threshold : Threshold) (level : Level) : Bool :=
  level.rank ≤ threshold.rank

/-- The threshold of a name, in letters of either case. -/
def ofName? (name : String) : Option Threshold :=
  let name := name.map Char.toUpper
  if name = "OFF" then some off
  else (Level.all.find? fun level => level.name = name).map upTo

end Threshold

/-! ## Records

A record is kept as what happened; its level, its target and its text follow from that.
-/

inductive Record where
  /-- So many bytes are about to be hashed. -/
  | hashingBytes (count : Nat)
  /-- So many slices are about to be hashed as one message. -/
  | hashingSlices (count : Nat)
  /-- A preimage of `length` bytes is about to be brought to bytes. -/
  | normalizing (kind : Preimage.Kind) (length : Nat)
  /-- A text of `length` bytes was refused. -/
  | rejected (length : Nat) (reason : HexError)
  deriving DecidableEq

namespace Record

/-- Refusals are worth more attention than work in progress. -/
def level : Record → Level
  | hashingBytes _ | hashingSlices _ | normalizing _ _ => .trace
  | rejected _ _ => .debug

/-- The part of the library that speaks. -/
def target : Record → String
  | hashingBytes _ | hashingSlices _ | normalizing _ _ => "hash160::digest"
  | rejected _ _ => "hash160::input"

def message : Record → String
  | hashingBytes count => "computing hash160 of " ++ toString count ++ " bytes"
  | hashingSlices count => "computing hash160 of " ++ toString count ++ " slices"
  | normalizing kind length =>
    "normalizing " ++ kind.name ++ " (" ++ toString length ++ ") input"
  | rejected length reason =>
    "rejected hex input of length " ++ toString length ++ ": " ++ reason.message

def line (record : Record) : String :=
  record.level.name ++ " " ++ record.target ++ ": " ++ record.message

end Record

/-! ## Computations that report

Computations are put together from `pure`, `>>=` and `report`, and of these only `report` looks at
the threshold.  So what a computation returns does not depend on the threshold, and what it reports
under one is what it reports under the widest with the rest left out.
-/

def Traced (α : Type) : Type :=
  Threshold → α × List Record

namespace Traced

variable {α β : Type}

def quiet (a : α) : Traced α :=
  fun _ => (a, [])

/-- One computation after another, the records in the order in which they were made. -/
def andThen (x : Traced α) (next : α → Traced β) : Traced β :=
  fun threshold =>
    let first := x threshold
    let second := next first.1 threshold
    (second.1, first.2 ++ second.2)

instance : Monad Traced where
  pure := quiet
  bind := andThen

/-- Makes a record, if the threshold admits it. -/
def report (record : Record) : Traced Unit :=
  fun threshold => ((), if threshold.admits record.level then [record] else [])

def value (x : Traced α) (threshold : Threshold) : α :=
  (x threshold).1

def records (x : Traced α) (threshold : Threshold) : List Record :=
  (x threshold).2

@[simp] theorem value_pure (a : α) (t : Threshold) : (pure a : Traced α).value t = a := rfl

@[simp] theorem records_pure (a : α) (t : Threshold) : (pure a : Traced α).records t = [] := rfl

@[simp] theorem value_bind (x : Traced α) (f : α → Traced β) (t : Threshold) :
    (x >>= f).value t = (f (x.value t)).value t := rfl

@[simp] theorem records_bind (x : Traced α) (f : α → Traced β) (t : Threshold) :
    (x >>= f).records t = x.records t ++ (f (x.value t)).records t := rfl

@[simp] theorem records_report (r : Record) (t : Threshold) :
    (report r).records t = if t.admits r.level then [r] else [] := rfl

instance : LawfulMonad Traced :=
  LawfulMonad.mk' Traced
    (fun x => funext fun t => Prod.ext rfl (List.append_nil (x t).2))
    (fun _ _ => rfl)
    (fun _ _ _ => funext fun _ => Prod.ext rfl (List.append_assoc ..))

@[simp] theorem value_map (f : α → β) (x : Traced α) (t : Threshold) :
    (f <$> x).value t = f (x.value t) := rfl

@[simp] theorem records_map (f : α → β) (x : Traced α) (t : Threshold) :
    (f <$> x).records t = x.records t := List.append_nil _

end Traced

end KeyDigest.Log
