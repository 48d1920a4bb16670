import KeyDigest.Collection.SortedMap
import KeyDigest.Digest.Basic
import KeyDigest.Hex
import KeyDigest.Json.Scan
import KeyDigest.Json.Value

/-! # Digests in data

A digest is written as the string of its digits, and only a text can hold one.  Errors name what was
found and what had been expected, or pass on why the text gives no digest.
-/

namespace KeyDigest

/-! ## Errors -/

inductive Expected where
  | string
  | sequence
  | map
  deriving DecidableEq

inductive Found where
  | unit
  | null
  | boolean (value : Bool)
  | integer (value : Int)
  | floatingPoint (text : String)
  | string (text : String)
  | sequence
  | map
  deriving DecidableEq

namespace Expected

def words : Expected → String
  | string => "a string"
  | sequence => "a sequence"
  | map => "a map"

end Expected

namespace Found

def words : Found → String
  | unit => "unit value"
  | null => "null"
  | boolean value => "boolean \x60" ++ toString value ++ "\x60"
  | integer value => "integer \x60" ++ toString value ++ "\x60"
  | floatingPoint text => "floating point \x60" ++ text ++ "\x60"
  | string text => "string " ++ Text.quoted text
  | sequence => "sequence"
  | map => "map"

end Found

inductive ReadError where
  /-- The data is of another kind than the one asked for. -/
  | invalidType (found : Found) (expected : Expected)
  | invalidBytes
  /-- The data is a text that gives no digest. -/
  | digest (error : DigestError)
  deriving DecidableEq

namespace ReadError

/-- The error in words.  What was wrong with a text is passed on unchanged. -/
def message : ReadError → String
  | invalidType found expected =>
    "invalid type: " ++ found.words ++ ", expected " ++ expected.words
  | invalidBytes => "invalid value: byte array, expected " ++ Expected.string.words
  | digest error => error.message

end ReadError

/-! ## JSON values

Lists and maps of digests are read item by item and entry by entry, and the first error ends the
reading.  The entries of a map are visited in ascending order of their key texts, the key of each
before its value; since a digest has more than one spelling, two key texts may be one key, and then
the greater text decides.
-/

namespace Json

/-- What a value is, for a reader that asked for something else. -/
def found : Json → Found
  | .null => .null
  | .bool value => .boolean value
  | .number (.integer value) => .integer value
  | .number (.float value) => .floatingPoint (floatText value)
  | .string text => .string text
  | .list _ => .sequence
  | .object _ => .map

end Json

namespace Digest

/-! ### Reading -/

/-- The digest that a text gives, to a reader of data. -/
def ofText (text : String) : Except ReadError Digest :=
  (parse text).mapError .digest

def ofJson : Json → Except ReadError Digest
  | .string text => ofText text
  | value => .error (.invalidType value.found .string)

/-- The digest that a value gives, where `null` stands for none. -/
def optionOfJson : Json → Except ReadError (Option Digest)
  | .null => .ok none
  | value => (ofJson value).map some

def listOfJson : Json → Except ReadError (List Digest)
  | .list items => items.mapM ofJson
  | value => .error (.invalidType value.found .sequence)

def entryOfJson (entry : String × Json) : Except ReadError (Digest × Digest) := do
  let key ← ofText entry.1
  let value ← ofJson entry.2
  return (key, value)

/-- The map from digests to digests that an object gives. -/
def mapOfJson : Json → Except ReadError (SortedMap Digest Digest)
  | .object entries => do
    let pairs ← (Json.byKey entries).mapM entryOfJson
    return SortedMap.ofList pairs
  | value => .error (.invalidType value.found .map)

/-! ### Writing -/

def toJson (digest : Digest) : Json :=
  .string digest.toHex

def listToJson (digests : List Digest) : Json :=
  .list (digests.map toJson)

/-- Where each digest of a list stands, the last place for one that is repeated. -/
def positions (digests : List Digest) : SortedMap Digest Nat :=
  SortedMap.ofList digests.zipIdx

/-- Digests as an object that gives the position of each. -/
def positionsToJson (digests : List Digest) : Json :=
  .object ((positions digests).entries.map fun (digest, position) =>
    (digest.toHex, Json.ofNat position))

end Digest

/-! ## Documents

A document that holds one digest is a string literal with blanks around it.  An error in the value
is found before anything that follows the value is looked at; of a list or an object only the
opening bracket is.
-/

inductive DocumentError where
  | data (error : ReadError)
  | text (fault : Json.Fault)
  deriving DecidableEq

namespace Json.Scan

/-- What a document holds that does not begin with a string, read as far as it takes to say. -/
def foundAt : List Char → Except Fault Found
  | [] => .error .ended
  | 'n' :: rest => (word ['u', 'l', 'l'] rest).map fun _ => .null
  | 't' :: rest => (word ['r', 'u', 'e'] rest).map fun _ => .boolean true
  | 'f' :: rest => (word ['a', 'l', 's', 'e'] rest).map fun _ => .boolean false
  | '-' :: rest => (number true rest).map fun (value, _) => (Json.number value).found
  | '[' :: _ => .ok .sequence
  | '\x7b' :: _ => .ok .map
  | c :: rest =>
    if c.isDigit then (number false (c :: rest)).map fun (value, _) => (Json.number value).found
    else .error .malformed

end Json.Scan

namespace Digest

/-- The digest that a document holds. -/
def ofDocument (document : String) : Except DocumentError Digest :=
  match Json.Scan.skipBlanks document.toList with
  | '"' :: rest => do
    let (text, rest) ← (Json.Scan.literal rest).mapError .text
    let digest ← (ofText text).mapError .data
    (Json.Scan.finish rest).mapError .text
    return digest
  | text => do
    let found ← (Json.Scan.foundAt text).mapError .text
    throw (.data (.invalidType found .string))

end Digest

/-! ## Single values

Data formats hand over a text in one of four ways: as such, as an owned text, as the bytes of one,
or as a character.  All four lead to the same text and so to the same outcome.
-/

/-- A single value that a data format hands over. -/
inductive Scalar where
  | text (value : String)
  | ownedText (value : String)
  | bytes (value : List UInt8)
  | character (value : Char)
  | unit
  | boolean (value : Bool)
  | unsigned (value : UInt64)
  | signed (value : Int64)

namespace Digest

def ofScalar : Scalar → Except ReadError Digest
  | .text value => ofText value
  | .ownedText value => ofText value
  | .bytes value =>
    match Utf8.text? value with
    | some text => ofText text
    | none => .error .invalidBytes
  | .character value => ofText (String.singleton value)
  | .unit => .error (.invalidType .unit .string)
  | .boolean value => .error (.invalidType (.boolean value) .string)
  | .unsigned value => .error (.invalidType (.integer value.toNat) .string)
  | .signed value => .error (.invalidType (.integer value.toInt) .string)

end Digest

end KeyDigest
