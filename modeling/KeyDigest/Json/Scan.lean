import KeyDigest.Json.Number

/-! # The pieces of a JSON text

Scanners for blanks, words, numerals and string literals.  Each takes the characters that are
left and yields what it read and what is left after it, or a fault.  There are two faults: the
text may end where more is needed, or hold something that no continuation can mend.

The escapes of a string literal are read with the greatest care: an escape by number is one UTF-16
unit, and a character outside the first plane takes two of them in a row, a leading and a trailing
surrogate.
-/

namespace KeyDigest.Json

/-- What is wrong with a text that is no document. -/
inductive Fault where
  | ended
  /-- The text holds something that may not stand there. -/
  | malformed
  deriving DecidableEq

namespace Scan

/-! ## Blanks and words -/

def isBlank (c : Char) : Bool :=
  c = ' ' || c = '\t' || c = '\n' || c = '\r'

def skipBlanks (text : List Char) : List Char :=
  text.dropWhile isBlank

theorem skipBlanks_cons {c : Char} (h : isBlank c = false) (text : List Char) :
    skipBlanks (c :: text) = c :: text :=
  List.dropWhile_cons_of_neg (by simp [h])

theorem skipBlanks_skipBlanks (text : List Char) :
    skipBlanks (skipBlanks text) = skipBlanks text := by
  induction text with
  | nil => rfl
  | cons c text ih =>
    cases hblank : isBlank c with
    | true =>
      have hskip : skipBlanks (c :: text) = skipBlanks text := List.dropWhile_cons_of_pos hblank
      rw [hskip, ih]
    | false => rw [skipBlanks_cons hblank, skipBlanks_cons hblank]

/-- What is left after the letters of a word. -/
def word : List Char → List Char → Except Fault (List Char)
  | [], text => .ok text
  | _ :: _, [] => .error .ended
  | letter :: letters, c :: text =>
    if letter = c then word letters text else .error .malformed

/-- The end of the document, blanks aside. -/
def finish (text : List Char) : Except Fault Unit :=
  if (skipBlanks text).isEmpty then .ok () else .error .malformed

/-! ## String literals -/

def hexValue? (c : Char) : Option Nat :=
  if '0' ≤ c ∧ c ≤ '9' then some (c.toNat - '0'.toNat)
  else if 'a' ≤ c ∧ c ≤ 'f' then some (c.toNat - 'a'.toNat + 10)
  else if 'A' ≤ c ∧ c ≤ 'F' then some (c.toNat - 'A'.toNat + 10)
  else none

def unitValue? (a b c d : Char) : Option Nat := do
  let a ← hexValue? a
  let b ← hexValue? b
  let c ← hexValue? c
  let d ← hexValue? d
  return ((a * 16 + b) * 16 + c) * 16 + d

/-- The fault of a text that does not begin with four hexadecimal digits: it ends too early when
not even four bytes are left. -/
def unitFault (text : List Char) : Fault :=
  if text.foldl (fun size c => size + c.utf8Size) 0 < 4 then .ended else .malformed

def unit (text : List Char) : Except Fault (Nat × List Char) :=
  match text with
  | a :: b :: c :: d :: rest =>
    match unitValue? a b c d with
    | some value => .ok (value, rest)
    | none => .error (unitFault text)
  | _ => .error (unitFault text)

/-- The first of the two units of a character outside the first plane. -/
def isLeading (unit : Nat) : Bool :=
  0xD800 ≤ unit && unit < 0xDC00

/-- The second of the two units of a character outside the first plane. -/
def isTrailing (unit : Nat) : Bool :=
  0xDC00 ≤ unit && unit < 0xE000

def paired (leading trailing : Nat) : Char :=
  Char.ofNat (0x10000 + (leading - 0xD800) * 0x400 + (trailing - 0xDC00))

/-- The trailing surrogate that must follow a leading one. -/
def trailingUnit : List Char → Except Fault (Nat × List Char)
  | '\\' :: 'u' :: rest =>
    match unit rest with
    | .ok (value, rest) => if isTrailing value then .ok (value, rest) else .error .malformed
    | .error fault => .error fault
  | [] | ['\\'] => .error .ended
  | _ => .error .malformed

/-- The character of an escape by number, from after its letter on. -/
def numbered (text : List Char) : Except Fault (Char × List Char) :=
  match unit text with
  | .error fault => .error fault
  | .ok (value, rest) =>
    if isTrailing value then .error .malformed
    else if isLeading value then
      match trailingUnit rest with
      | .ok (trailing, rest) => .ok (paired value trailing, rest)
      | .error fault => .error fault
    else .ok (Char.ofNat value, rest)

def escaped? : Char → Option Char
  | '"' => some '"'
  | '\\' => some '\\'
  | '/' => some '/'
  | 'b' => some '\x08'
  | 'f' => some '\x0c'
  | 'n' => some '\n'
  | 'r' => some '\r'
  | 't' => some '\t'
  | _ => none

/-- The character of an escape, from after the backslash on. -/
def escape : List Char → Except Fault (Char × List Char)
  | [] => .error .ended
  | 'u' :: text => numbered text
  | c :: text =>
    match escaped? c with
    | some stands => .ok (stands, text)
    | none => .error .malformed

theorem length_unit {text rest : List Char} {value : Nat} (h : unit text = .ok (value, rest)) :
    rest.length < text.length := by
  unfold unit at h
  split at h
  · split at h
    · simp only [Except.ok.injEq, Prod.mk.injEq] at h
      simp only [List.length_cons, ← h.2]
      omega
    · cases h
  · cases h

theorem length_trailingUnit {text rest : List Char} {value : Nat}
    (h : trailingUnit text = .ok (value, rest)) : rest.length < text.length := by
  unfold trailingUnit at h
  split at h
  · split at h
    · rename_i unitRead
      split at h
      · simp only [Except.ok.injEq, Prod.mk.injEq] at h
        have := length_unit unitRead
        simp only [List.length_cons, ← h.2]
        omega
      · cases h
    · cases h
  all_goals cases h

theorem length_numbered {text rest : List Char} {c : Char} (h : numbered text = .ok (c, rest)) :
    rest.length < text.length := by
  unfold numbered at h
  split at h
  · cases h
  · rename_i unitRead
    have first := length_unit unitRead
    split at h
    · cases h
    · split at h
      · split at h
        · rename_i trailingRead
          have second := length_trailingUnit trailingRead
          simp only [Except.ok.injEq, Prod.mk.injEq] at h
          rw [← h.2]
          omega
        · cases h
      · simp only [Except.ok.injEq, Prod.mk.injEq] at h
        rw [← h.2]
        exact first

theorem length_escape {text rest : List Char} {c : Char} (h : escape text = .ok (c, rest)) :
    rest.length < text.length := by
  unfold escape at h
  split at h
  · cases h
  · have := length_numbered h
    simp only [List.length_cons]
    omega
  · split at h
    · simp only [Except.ok.injEq, Prod.mk.injEq] at h
      simp [← h.2]
    · cases h

/-- The characters of a string literal from within it, appended to those `done` in reverse, up to
the quote that closes it. -/
def literalBody (done : List Char) (text : List Char) : Except Fault (List Char × List Char) :=
  match text with
  | [] => .error .ended
  | '"' :: rest => .ok (done.reverse, rest)
  | '\\' :: rest =>
    match _h : escape rest with
    | .ok (c, rest) => literalBody (c :: done) rest
    | .error fault => .error fault
  | c :: rest => if c.toNat < 0x20 then .error .malformed else literalBody (c :: done) rest
termination_by text.length
decreasing_by
  · have := length_escape _h
    simp only [List.length_cons]
    omega
  · simp

/-- The text of a string literal, from after its opening quote on. -/
def literal (text : List Char) : Except Fault (String × List Char) :=
  match literalBody [] text with
  | .ok (chars, rest) => .ok (String.ofList chars, rest)
  | .error fault => .error fault

/-! ## Numerals -/

/-- The digits that a text begins with, and what is left after them. -/
def digits (text : List Char) : List Nat × List Char :=
  ((text.takeWhile Char.isDigit).map fun c => c.toNat - '0'.toNat, text.dropWhile Char.isDigit)

def digitFault : List Char → Fault
  | [] => .ended
  | _ => .malformed

def someDigits (text : List Char) : Except Fault (List Nat × List Char) :=
  match digits text with
  | ([], rest) => .error (digitFault rest)
  | (read, rest) => .ok (read, rest)

/-- The digits before the point: a zero stands alone. -/
def wholeDigits (text : List Char) : Except Fault (List Nat × List Char) :=
  match someDigits text with
  | .ok (0 :: _ :: _, _) => .error .malformed
  | other => other

/-- A point and the digits after it, if there is a point. -/
def fractionDigits (text : List Char) : Except Fault (Option (List Nat) × List Char) :=
  match text with
  | '.' :: rest => (someDigits rest).map fun (read, rest) => (some read, rest)
  | _ => .ok (none, text)

def exponentSign : List Char → Bool × List Char
  | '+' :: rest => (false, rest)
  | '-' :: rest => (true, rest)
  | text => (false, text)

def exponentDigits (text : List Char) : Except Fault (Option (Bool × List Nat) × List Char) :=
  match text with
  | 'e' :: rest | 'E' :: rest =>
    let (negative, rest) := exponentSign rest
    (someDigits rest).map fun (read, rest) => (some (negative, read), rest)
  | _ => .ok (none, text)

/-- A numeral, from after its sign on. -/
def numeral (negative : Bool) (text : List Char) : Except Fault (Numeral × List Char) := do
  let (whole, text) ← wholeDigits text
  let (fraction, text) ← fractionDigits text
  let (exponent, text) ← exponentDigits text
  return (⟨negative, whole, fraction, exponent⟩, text)

/-- A number, from after its sign on. -/
def number (negative : Bool) (text : List Char) : Except Fault (Number × List Char) := do
  let (numeral, text) ← numeral negative text
  match numeral.value? with
  | some value => return (value, text)
  | none => throw .malformed

end Scan

end KeyDigest.Json
