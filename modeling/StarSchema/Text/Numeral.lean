import StarSchema.Binary64.Round

/-!
# Numbers written as text

Decimal numerals of ASCII digits, read as 64-bit integers and as double-precision numbers.

Main definitions:

* `Numeral.integer?`: an optional sign and digits, within the signed 64-bit range;
* `Numeral.decimal?`: an optional sign, then digits with an optional point and an optional
  power of ten, or one of the names of an infinity or of NaN.
-/

namespace StarSchema

/-- The least signed 64-bit integer. -/
def minInt64 : Int := Int64.minValue.toInt

/-- The greatest signed 64-bit integer. -/
def maxInt64 : Int := Int64.maxValue.toInt

namespace Numeral

/-- The value of one ASCII digit. -/
def digitValue (c : Char) : Nat :=
  c.toNat - '0'.toNat

/-- The number that a run of decimal digits denotes, the first digit being the highest. -/
def natOfDigits (s : List Char) : Nat :=
  s.foldl (fun n c => 10 * n + digitValue c) 0

/-- The decimal digits of a number, without leading zeros; zero is one digit. -/
def digitsOfNat (n : Nat) : List Char :=
  Nat.toDigits 10 n

/-- The decimal text of an integer, with a sign only below zero. -/
def ofInt (n : Int) : List Char :=
  if n < 0 then '-' :: digitsOfNat n.natAbs else digitsOfNat n.natAbs

/-- The digits of a number, filled up with zeros in front to a least width. -/
def padded (width n : Nat) : List Char :=
  List.replicate (width - (digitsOfNat n).length) '0' ++ digitsOfNat n

/-- The digits at the front, and what follows them. -/
def spanDigits (s : List Char) : List Char × List Char :=
  (s.takeWhile Char.isDigit, s.dropWhile Char.isDigit)

/-- An optional sign, and what follows it. -/
def splitSign : List Char → Bool × List Char
  | '-' :: s => (true, s)
  | '+' :: s => (false, s)
  | s => (false, s)

/-- A signed decimal integer of 64 bits. -/
def integer? (s : List Char) : Option Int64 :=
  let (negative, digits) := splitSign s
  if digits.isEmpty || !digits.all Char.isDigit then none
  else
    let n : Int := if negative then -natOfDigits digits else natOfDigits digits
    if minInt64 ≤ n ∧ n ≤ maxInt64 then some (Int64.ofInt n) else none

/-- The power of ten that ends a numeral: nothing, or `e` with an optional sign and digits. -/
def powerOfTen? : List Char → Option Int
  | [] => some 0
  | c :: s =>
    if c = 'e' ∨ c = 'E' then
      let (negative, digits) := splitSign s
      if digits.isEmpty || !digits.all Char.isDigit then none
      else some (if negative then -natOfDigits digits else natOfDigits digits)
    else none

/-- The digits after an optional point, and what follows them. -/
def fraction : List Char → List Char × List Char
  | '.' :: s => spanDigits s
  | s => ([], s)

/-- A numeral without its sign: digits, point and digits with at least one digit in all, then a
power of ten. The value is `natOfDigits (whole ++ part) · 10 ^ (power - part.length)`. -/
def unsigned? (negative : Bool) (s : List Char) : Option Binary64 :=
  let (whole, afterWhole) := spanDigits s
  let (part, afterPart) := fraction afterWhole
  if whole.isEmpty && part.isEmpty then none
  else (powerOfTen? afterPart).map fun power =>
    Binary64.ofDecimal negative (natOfDigits (whole ++ part)) (power - part.length)

/-- The named numbers, in any letter case. -/
def named? (negative : Bool) (s : List Char) : Option Binary64 :=
  let name := s.map Char.toLower
  if name = "inf".toList ∨ name = "infinity".toList then some (.infinity negative)
  else if name = "nan".toList then some .nan
  else none

/-- The double nearest to the number that a text denotes, if it is a numeral. -/
def decimal? (s : List Char) : Option Binary64 :=
  let (negative, body) := splitSign s
  (unsigned? negative body).or (named? negative body)

end Numeral

end StarSchema
