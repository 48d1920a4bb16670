import KeyDigest.Text.Unseen

/-! # Values shown to a reader

A value is shown by the name of its form and its parts in brackets, on one line or spread out with a
part on each.  Both are built together, so that they always show the same structure.  Texts and
characters among the parts are quoted.
-/

/-! ## Quoted texts and characters

A text stands between double quotes, a single character between single ones.  Inside, a character is
written by a two-character escape, by its number in braces, or as itself.  The quote that delimits
is escaped and the other one is not, which is the only difference between the two.
-/

namespace KeyDigest.Text

/-- The hexadecimal digits of a number, lowercase and without leading zeros. -/
def hexNumeral (n : Nat) : List Char :=
  Nat.toDigits 16 n

/-- How one character is written between two `delimiter`s, when the characters in `unseen` are
written by number. -/
def escape (unseen : Char → Bool) (delimiter : Char) (c : Char) : List Char :=
  if c = '\x00' then ['\\', '0']
  else if c = '\t' then ['\\', 't']
  else if c = '\r' then ['\\', 'r']
  else if c = '\n' then ['\\', 'n']
  else if c = '\\' then ['\\', '\\']
  else if c = delimiter then ['\\', c]
  else if unseen c then ['\\', 'u', '\x7b'] ++ hexNumeral c.toNat ++ ['\x7d']
  else [c]

/-- The written form of a text between two `delimiter`s. -/
def enclose (unseen : Char → Bool) (delimiter : Char) (text : List Char) : List Char :=
  delimiter :: (text.flatMap (escape unseen delimiter) ++ [delimiter])

/-- A text between double quotes, when the characters in `unseen` are written by number. -/
def quotedWith (unseen : Char → Bool) (text : String) : String :=
  String.ofList (enclose unseen '"' text.toList)

def quoted (text : String) : String :=
  quotedWith isUnseen text

def quotedChar (c : Char) : String :=
  String.ofList (enclose isUnseen '\'' [c])

end KeyDigest.Text

/-! ## Values

Spread out, parts are indented by four blanks and each ends in a comma; a value without parts stays
on its line.
-/

namespace KeyDigest

structure Shown where
  line : String
  lines : List String

namespace Shown

def atom (text : String) : Shown where
  line := text
  lines := [text]

/-- The lines of one part: indented, with a comma after the last. -/
def partLines : List String → List String
  | [] => []
  | [last] => ["    " ++ last ++ ","]
  | line :: rest => ("    " ++ line) :: partLines rest

/-- Parts between two brackets, a part to a line. -/
def spread (opening closing : String) : List Shown → List String
  | [] => [opening ++ closing]
  | parts => opening :: (parts.flatMap fun part => partLines part.lines) ++ [closing]

def joined (parts : List Shown) : String :=
  ", ".intercalate (parts.map Shown.line)

def list (items : List Shown) : Shown where
  line := "[" ++ joined items ++ "]"
  lines := spread "[" "]" items

def applied (name : String) (parts : List Shown) : Shown where
  line := name ++ "(" ++ joined parts ++ ")"
  lines := spread (name ++ "(") ")" parts

/-- A part under its name: the name goes before the first line. -/
def field (name : String) (value : Shown) : Shown where
  line := name ++ ": " ++ value.line
  lines := match value.lines with
    | [] => []
    | first :: rest => (name ++ ": " ++ first) :: rest

def record (name : String) (fields : List Shown) : Shown where
  line := name ++ " \x7b " ++ joined fields ++ " \x7d"
  lines := spread (name ++ " \x7b") "\x7d" fields

/-- The text of a shown value, spread out or on one line. -/
def render (spreadOut : Bool) (shown : Shown) : String :=
  if spreadOut then "\n".intercalate shown.lines else shown.line

end Shown

end KeyDigest
