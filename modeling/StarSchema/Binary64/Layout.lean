import StarSchema.Binary64.Shortest
import StarSchema.Binary64.Arith

/-!
# Layouts of numbers

Three texts of a double: the plain one shown to a reader, the literal written into SQL, and the
amount with two places.

Main definitions:

* `Binary64.display`: all places written out, no point on a whole number;
* `Binary64.sqlLiteral?`: always with a point or a power of ten, and only for finite numbers;
* `Binary64.twoPlaces`: the exact value rounded to hundredths, a tie to the even digit.
-/

namespace StarSchema.Binary64

/-- The digits of a natural number. -/
def digitText (n : Nat) : List Char :=
  Nat.toDigits 10 n

def zeros (n : Nat) : List Char :=
  List.replicate n '0'

def signText (negative : Bool) : List Char :=
  if negative then ['-'] else []

/-- A decimal with every place written and a point only before a fraction. -/
def Decimal.plain (d : Decimal) : List Char :=
  let digits := digitText d.digits
  if 0 ≤ d.exponent then digits ++ zeros d.exponent.toNat
  else
    let places := (-d.exponent).toNat
    if places < digits.length then
      digits.take (digits.length - places) ++ '.' :: digits.drop (digits.length - places)
    else '0' :: '.' :: zeros (places - digits.length) ++ digits

/-- The text of a number for a reader: the shortest decimal, a tie to the greater one, never with
a power of ten. -/
def display : Binary64 → List Char
  | .nan => "NaN".toList
  | .infinity negative => signText negative ++ "inf".toList
  | .finite negative m e _ =>
    signText negative ++ if m = 0 then ['0'] else (shortest .up m e).plain

/-- The largest count of digits before the point, and of zeros after it, that an SQL literal
writes out. -/
def sqlPositional : Nat × Nat := (16, 4)

/-- A decimal as an SQL literal: with a point, or with a power of ten outside the positional
range. -/
def Decimal.literal (d : Decimal) : List Char :=
  let digits := digitText d.digits
  let point : Int := digits.length + d.exponent
  if 0 < point ∧ point ≤ sqlPositional.1 then
    if 0 ≤ d.exponent then digits ++ zeros d.exponent.toNat ++ ['.', '0']
    else d.plain
  else if -(sqlPositional.2 : Int) ≤ point ∧ point ≤ 0 then d.plain
  else
    let power := point - 1
    let fraction := match digits.drop 1 with
      | [] => []
      | rest => '.' :: rest
    digits.take 1 ++ fraction ++ 'e' :: signText (power < 0) ++ digitText power.natAbs

/-- The SQL literal of a finite number: the shortest decimal, a tie to the even one. -/
def sqlLiteral? : Binary64 → Option (List Char)
  | .finite negative m e _ =>
    some (signText negative ++
      if m = 0 then ['0', '.', '0'] else (shortest .toEven m e).literal)
  | _ => none

/-- The nearest number of hundredths to a finite magnitude. -/
def hundredths (significand : Nat) (e : Int) : Nat :=
  let (num, den) := inUnits 2 (significand * 100) 1 (-e)
  nearestEven num den

/-- The whole part and the two places of a finite magnitude. -/
def twoPlaces (significand : Nat) (e : Int) : List Char × List Char :=
  let n := hundredths significand e
  (digitText (n / 100), [Nat.digitChar (n % 100 / 10), Nat.digitChar (n % 10)])

end StarSchema.Binary64
