import KeyDigest.Json.Scan
import KeyDigest.Json.Value

/-! # Reading a JSON document

`Json.read` reads a whole document.  The readers of a value, of the items of a list and of the
entries of an object call one another; a bound on how often they may do so makes them total, and
twice the length of the text is more than they can need, since between two calls that read nothing
there is always one that does.
-/

namespace KeyDigest.Json

open Scan

mutual

/-- A value, from its first character on. -/
def readValue (bound : Nat) (text : List Char) : Except Fault (Json × List Char) :=
  match bound with
  | 0 => .error .malformed
  | bound + 1 =>
    match skipBlanks text with
    | [] => .error .ended
    | 'n' :: rest => (word ['u', 'l', 'l'] rest).map fun rest => (.null, rest)
    | 't' :: rest => (word ['r', 'u', 'e'] rest).map fun rest => (.bool true, rest)
    | 'f' :: rest => (word ['a', 'l', 's', 'e'] rest).map fun rest => (.bool false, rest)
    | '-' :: rest => (Scan.number true rest).map fun (value, rest) => (.number value, rest)
    | '"' :: rest => (literal rest).map fun (text, rest) => (.string text, rest)
    | '[' :: rest =>
      match skipBlanks rest with
      | ']' :: rest => .ok (.list [], rest)
      | rest => (readItems bound [] rest).map fun (items, rest) => (.list items, rest)
    | '\x7b' :: rest =>
      match skipBlanks rest with
      | '\x7d' :: rest => .ok (.object [], rest)
      | rest => (readEntries bound [] rest).map fun (entries, rest) => (.object entries, rest)
    | c :: rest =>
      if c.isDigit then
        (Scan.number false (c :: rest)).map fun (value, rest) => (.number value, rest)
      else .error .malformed

/-- The items of a list from the next one on, after those `done` in reverse, and the bracket that
closes the list. -/
def readItems (bound : Nat) (done : List Json) (text : List Char) :
    Except Fault (List Json × List Char) :=
  match bound with
  | 0 => .error .malformed
  | bound + 1 =>
    match readValue bound text with
    | .error fault => .error fault
    | .ok (item, rest) =>
      match skipBlanks rest with
      | [] => .error .ended
      | ',' :: rest => readItems bound (item :: done) rest
      | ']' :: rest => .ok ((item :: done).reverse, rest)
      | _ => .error .malformed

/-- The entries of an object from the next one on, after those `done` in reverse, and the brace
that closes the object. -/
def readEntries (bound : Nat) (done : List (String × Json)) (text : List Char) :
    Except Fault (List (String × Json) × List Char) :=
  match bound with
  | 0 => .error .malformed
  | bound + 1 =>
    match skipBlanks text with
    | [] => .error .ended
    | '"' :: rest =>
      match literal rest with
      | .error fault => .error fault
      | .ok (key, rest) =>
        match skipBlanks rest with
        | [] => .error .ended
        | ':' :: rest =>
          match readValue bound rest with
          | .error fault => .error fault
          | .ok (value, rest) =>
            match skipBlanks rest with
            | [] => .error .ended
            | ',' :: rest => readEntries bound ((key, value) :: done) rest
            | '\x7d' :: rest => .ok (((key, value) :: done).reverse, rest)
            | _ => .error .malformed
        | _ => .error .malformed
    | _ => .error .malformed

end

/-! ## Blanks -/

/-- A value is read the same with and without the blanks in front of it. -/
theorem readValue_skipBlanks (bound : Nat) (text : List Char) :
    readValue bound (skipBlanks text) = readValue bound text := by
  cases bound with
  | zero => rfl
  | succ bound => rw [readValue, readValue, skipBlanks_skipBlanks]

theorem readItems_skipBlanks (bound : Nat) (done : List Json) (text : List Char) :
    readItems bound done (skipBlanks text) = readItems bound done text := by
  cases bound with
  | zero => rfl
  | succ bound => rw [readItems, readItems, readValue_skipBlanks]

theorem readEntries_skipBlanks (bound : Nat) (done : List (String × Json)) (text : List Char) :
    readEntries bound done (skipBlanks text) = readEntries bound done text := by
  cases bound with
  | zero => rfl
  | succ bound => rw [readEntries, readEntries, skipBlanks_skipBlanks]

/-! ## The whole document -/

def read (document : String) : Except Fault Json := do
  let text := document.toList
  let (value, rest) ← readValue (2 * text.length + 2) text
  finish rest
  return value

end KeyDigest.Json
