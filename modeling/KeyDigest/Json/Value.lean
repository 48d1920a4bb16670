import KeyDigest.Json.Number

/-! # JSON values and their texts

A value as a document gives it: the entries of an object stay in the order in which they are
written, and a key may come twice.  `byKey` puts them in the order in which they are visited, and
`write` is the compact text of a value, without blanks.
-/

namespace KeyDigest

inductive Json where
  | null
  | bool (value : Bool)
  | number (value : Json.Number)
  | string (text : String)
  | list (items : List Json)
  | object (entries : List (String × Json))

namespace Json

def ofNat (n : Nat) : Json :=
  .number (.integer n)

variable {α : Type}

/-- Of consecutive entries with one key, the last. -/
def lastOfEach : List (String × α) → List (String × α)
  | first :: second :: rest =>
    if first.1 = second.1 then lastOfEach (second :: rest)
    else first :: lastOfEach (second :: rest)
  | entries => entries

/-- Entries in ascending order of their keys, and of entries with one key the last. -/
def byKey (entries : List (String × α)) : List (String × α) :=
  lastOfEach (entries.mergeSort fun a b => a.1 ≤ b.1)

def get? (entries : List (String × α)) (key : String) : Option α :=
  (entries.findRev? fun entry => entry.1 = key).map Prod.snd

/-! ### Writing

Within a string the quote, the backslash and the control characters are escaped, by a letter where
there is one, and all other characters stand for themselves.
-/

def writeChar (c : Char) : List Char :=
  if c = '"' then ['\\', '"']
  else if c = '\\' then ['\\', '\\']
  else if c = '\x08' then ['\\', 'b']
  else if c = '\x0c' then ['\\', 'f']
  else if c = '\n' then ['\\', 'n']
  else if c = '\r' then ['\\', 'r']
  else if c = '\t' then ['\\', 't']
  else if c.toNat < 0x20 then
    ['\\', 'u', '0', '0', Nat.digitChar (c.toNat / 16), Nat.digitChar (c.toNat % 16)]
  else [c]

/-- A character stands for itself within a string. -/
def isPlain (c : Char) : Bool :=
  c ≠ '"' && c ≠ '\\' && 0x20 ≤ c.toNat

def writeString (text : String) : String :=
  String.ofList ('"' :: (text.toList.flatMap writeChar ++ ['"']))

theorem isPlain_iff {c : Char} : isPlain c ↔ c ≠ '"' ∧ c ≠ '\\' ∧ 0x20 ≤ c.toNat := by
  simp [isPlain, and_assoc]

theorem writeChar_of_isPlain {c : Char} (h : isPlain c) : writeChar c = [c] := by
  obtain ⟨hquote, hbackslash, hseen⟩ := isPlain_iff.mp h
  have hcontrol {d : Char} (hd : d.toNat < 0x20) : c ≠ d := by
    rintro rfl
    omega
  rw [writeChar, if_neg hquote, if_neg hbackslash, if_neg (hcontrol (by decide)),
    if_neg (hcontrol (by decide)), if_neg (hcontrol (by decide)), if_neg (hcontrol (by decide)),
    if_neg (hcontrol (by decide)), if_neg (Nat.not_lt.mpr hseen)]

/-- A text without quotes, backslashes and control characters stands as it is. -/
theorem writeString_of_isPlain {text : String} (h : ∀ c ∈ text.toList, isPlain c) :
    writeString text = "\"" ++ text ++ "\"" := by
  have hchars : text.toList.map writeChar = text.toList.map fun c => [c] := by
    apply List.map_congr_left
    intro c hc
    exact writeChar_of_isPlain (h c hc)
  have hbody : text.toList.flatMap writeChar = text.toList := by
    rw [List.flatMap_def, hchars, ← List.flatMap_def, List.flatMap_singleton']
  apply String.toList_inj.mp
  simp [writeString, hbody]

mutual

def write : Json → String
  | .null => "null"
  | .bool true => "true"
  | .bool false => "false"
  | .number value => value.text
  | .string text => writeString text
  | .list items => "[" ++ ",".intercalate (writeItems items) ++ "]"
  | .object entries => "\x7b" ++ ",".intercalate (writeEntries entries) ++ "\x7d"

def writeItems : List Json → List String
  | [] => []
  | item :: rest => write item :: writeItems rest

def writeEntries : List (String × Json) → List String
  | [] => []
  | (key, value) :: rest => (writeString key ++ ":" ++ write value) :: writeEntries rest

end

end Json

end KeyDigest
