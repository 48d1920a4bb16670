/-! # Numbers of a JSON document

A numeral is a number as it is written, digit by digit.  It is an integer when it has neither
fraction nor exponent and fits in 64 bits with or without a sign; anything else is a floating-point
number, which is computed quickly and not always rounded correctly.  A floating-point number is
written with its shortest decimal.
-/

/-! ## The shortest decimal of a floating-point number

A finite binary number stands for every real that rounds to it.  Its shortest decimal is the one
with the fewest digits among those reals, of several the nearest to the number itself, and of two
that are equally near the one whose last digit is even.  `shortest` tries one digit, two digits and
so on; on the grid of decimals with so many digits only the two neighbours of the number are looked
at, because if any point of a grid lies in the interval, so does one of them.
-/

namespace KeyDigest

structure Decimal where
  digits : Nat
  exponent : Int
  deriving DecidableEq

/-- The magnitude of a finite binary number and the interval of reals that round to it, in
quarters of the unit `2 ^ exponent` of its last place. -/
structure Binary where
  value : Nat
  low : Nat
  high : Nat
  /-- The ends belong to the interval. -/
  closed : Bool
  /-- The exponent of a quarter. -/
  exponent : Int

namespace Binary

/-- The binary number in a 64-bit pattern, its sign left aside.  Below a power of two the numbers
are twice as dense, so there the lower end is half as far. -/
def ofBits (bits : UInt64) : Binary :=
  let fraction := (bits &&& 0xFFFFFFFFFFFFF).toNat
  let biased := (bits >>> 52 &&& 0x7FF).toNat
  let mantissa := if biased = 0 then fraction else fraction + 0x10000000000000
  { value := 4 * mantissa
    low := if fraction = 0 ∧ 1 < biased then 4 * mantissa - 1 else 4 * mantissa - 2
    high := 4 * mantissa + 2
    closed := mantissa % 2 = 0
    exponent := (max biased 1 : Nat) - 1077 }

/-- The factors that make the unit of the last place a fraction in units of `10 ^ place`. -/
def scale (b : Binary) (place : Int) : Nat × Nat :=
  (Nat.pow 2 b.exponent.toNat * Nat.pow 10 (-place).toNat,
   Nat.pow 2 (-b.exponent).toNat * Nat.pow 10 place.toNat)

/-- `count * 10 ^ place` rounds to the number. -/
def covers (b : Binary) (place : Int) (count : Nat) : Bool :=
  let (up, down) := b.scale place
  if b.closed then b.low * up ≤ count * down && count * down ≤ b.high * up
  else b.low * up < count * down && count * down < b.high * up

/-- The point of the grid of step `10 ^ place` that rounds to the number and is nearest to it. -/
def nearest? (b : Binary) (place : Int) : Option Nat :=
  let (up, down) := b.scale place
  let below := b.value * up / down
  let past := b.value * up - below * down
  let left := (below + 1) * down - b.value * up
  let belowFirst := past < left || (past = left && below % 2 = 0)
  match b.covers place below, b.covers place (below + 1) with
  | true, true => some (if belowFirst then below else below + 1)
  | true, false => some below
  | false, true => some (below + 1)
  | false, false => none

/-- The place of the first digit of a positive number. -/
def leading (b : Binary) : Int :=
  let (up, down) := b.scale 0
  if down ≤ b.value * up then
    ((Nat.toDigits 10 (b.value * up / down)).length : Int) - 1
  else
    -((Nat.toDigits 10 ((down - 1) / (b.value * up))).length : Int)

end Binary

namespace Decimal

/-- The same number without zeros at the end of its digits, of which at most `steps` are taken
away. -/
def trimmed (d : Decimal) : Nat → Decimal
  | 0 => d
  | steps + 1 =>
    if d.digits % 10 = 0 then trimmed ⟨d.digits / 10, d.exponent + 1⟩ steps else d

/-- The shortest decimal of the finite number in a bit pattern, its sign left aside.  Seventeen
digits tell all such numbers apart. -/
def shortest (bits : UInt64) : Decimal :=
  let b := Binary.ofBits bits
  if b.value = 0 then ⟨0, 0⟩
  else
    let found := (List.range 17).findSome? fun (more : Nat) =>
      let place := b.leading - more
      (b.nearest? place).map fun digits => trimmed ⟨digits, place⟩ 17
    found.getD ⟨0, 0⟩

end Decimal

end KeyDigest

/-! ## Numerals

The digits that fit in 64 bits become one factor of a floating-point number, and one power of ten
the other.
-/

namespace KeyDigest.Json

/-- A number as it is written. -/
structure Numeral where
  /-- A minus sign stands in front. -/
  negative : Bool
  whole : List Nat
  /-- The digits after the point, if there is one. -/
  fraction : Option (List Nat)
  /-- The sign and the digits of the exponent, if there is one. -/
  exponent : Option (Bool × List Nat)

inductive Number where
  | integer (value : Int)
  | float (value : Float)

namespace Numeral

def ofDigits (digits : List Nat) : Nat :=
  digits.foldl (fun n digit => 10 * n + digit) 0

/-- Appends digits to a significand until it would no longer fit in 64 bits.  Yields the
significand, how many digits it took, and how many were left. -/
def take (significand taken : Nat) : List Nat → Nat × Nat × Nat
  | [] => (significand, taken, 0)
  | digit :: rest =>
    if 10 * significand + digit < UInt64.size then take (10 * significand + digit) (taken + 1) rest
    else (significand, taken, rest.length + 1)

def exponentValue (numeral : Numeral) : Int :=
  match numeral.exponent with
  | none => 0
  | some (true, digits) => -(ofDigits digits : Int)
  | some (false, digits) => ofDigits digits

/-- The significand and the power of ten of the magnitude.  Digits before the point that the
significand cannot take raise the power, those after it are dropped. -/
def parts (numeral : Numeral) : Nat × Int :=
  let (whole, _, dropped) := take 0 0 numeral.whole
  let (significand, taken, _) := take whole 0 (numeral.fraction.getD [])
  (significand, dropped - taken + numeral.exponentValue)

/-- The greatest power of ten that is multiplied or divided by at once. -/
def greatestPower : Nat := 308

/-- The product of a factor and a power of ten; none if it is too large.  Powers that are too
small are divided by in steps, of which a few reach zero. -/
def scaled (steps : Nat) (factor : Float) (power : Int) : Option Float :=
  if power.natAbs ≤ greatestPower then
    let ten := Float.ofScientific 1 false power.natAbs
    if 0 ≤ power then
      let product := factor * ten
      if product.isInf then none else some product
    else some (factor / ten)
  else if factor == 0 then some factor
  else if 0 ≤ power then none
  else match steps with
    | 0 => some 0
    | steps + 1 =>
      scaled steps (factor / Float.ofScientific 1 false greatestPower) (power + greatestPower)

/-- The numeral as a floating-point number; none if it is too large. -/
def float? (numeral : Numeral) : Option Float :=
  let (significand, power) := numeral.parts
  (scaled 4 significand.toUInt64.toFloat power).map fun x => if numeral.negative then -x else x

def isPlain (numeral : Numeral) : Bool :=
  numeral.fraction.isNone && numeral.exponent.isNone

/-- The value of a numeral; none if it is too large for any number.  A zero with a minus sign is
a floating-point number, since no integer keeps the sign. -/
def value? (numeral : Numeral) : Option Number :=
  let n := ofDigits numeral.whole
  if numeral.isPlain && !numeral.negative && n < UInt64.size then some (.integer n)
  else if numeral.isPlain && numeral.negative && 0 < n && n ≤ UInt64.size / 2 then
    some (.integer (-n))
  else numeral.float?.map .float

end Numeral

/-! ### Writing -/

/-- An exponent with its sign, which is written for either direction. -/
def exponentText (exponent : Int) : List Char :=
  (if exponent < 0 then '-' else '+') :: Nat.toDigits 10 exponent.natAbs

/-- How a floating-point number is written: its shortest digits with a point among them or zeros
beside them, always with at least one digit after the point; with an exponent where more than
sixteen digits would stand before the point or more than four zeros after it. -/
def decimalText (d : Decimal) : String :=
  let digits := Nat.toDigits 10 d.digits
  let count := digits.length
  let point := count + d.exponent
  String.ofList <|
    if 0 ≤ d.exponent ∧ point ≤ 16 then
      digits ++ List.replicate d.exponent.toNat '0' ++ ['.', '0']
    else if 0 < point ∧ point ≤ 16 then
      digits.take point.toNat ++ '.' :: digits.drop point.toNat
    else if -5 < point ∧ point ≤ 0 then
      '0' :: '.' :: List.replicate (-point).toNat '0' ++ digits
    else
      let mantissa := if count = 1 then digits else digits.take 1 ++ '.' :: digits.drop 1
      mantissa ++ 'e' :: exponentText (point - 1)

def floatText (x : Float) : String :=
  let sign := if x.toBits < 0x8000000000000000 then "" else "-"
  sign ++ decimalText (Decimal.shortest x.toBits)

def Number.text : Number → String
  | .integer n => toString n
  | .float x => floatText x

end KeyDigest.Json
