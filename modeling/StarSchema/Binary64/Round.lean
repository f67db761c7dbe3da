import StarSchema.Binary64.Basic

/-!
# Rounding to double precision

One rounding serves every operation: the quotient of two natural numbers is brought to the
nearest double, a tie to the neighbour with the even significand.

Main definitions:

* `nearestEven`: a quotient rounded to a natural number;
* `Binary64.ofRatio`: a quotient rounded to a double;
* `Binary64.ofInt`, `Binary64.ofScaled`: an integer, and an integer ratio times a power of two.
-/

namespace StarSchema

/-- `num / den` rounded to the nearest natural number, a tie to the even one. -/
def nearestEven (num den : Nat) : Nat :=
  let q := num / den
  let r := num % den
  if 2 * r < den then q
  else if den < 2 * r then q + 1
  else q + q % 2

/-- A numerator and a denominator of `num / den / base ^ e`. -/
def inUnits (base num den : Nat) (e : Int) : Nat × Nat :=
  (num * Nat.pow base (-e).toNat, den * Nat.pow base e.toNat)

namespace Binary64

/-- The exponent of the last place of the double nearest to `num / den`: the quotient in that
unit has 53 bits, or fewer when the exponent is the least one.

The bit lengths of `num` and `den` fix the exponent up to one, and the quotient decides. -/
def unitExponent (num den : Nat) : Int :=
  let e := max (-1074) ((num.log2 : Int) - den.log2 - 53)
  let (n, d) := inUnits 2 num den e
  if n / d < Nat.pow 2 53 then e else e + 1

/-- The double nearest to `± num / den`.

A significand that rounds up to 54 bits is `2 ^ 53`, so that halving it and raising the exponent
is exact; what then exceeds the largest exponent is infinite. -/
def ofRatio (negative : Bool) (num den : Nat) : Binary64 :=
  if num = 0 then zero negative
  else
    let e := unitExponent num den
    let (n, d) := inUnits 2 num den e
    let m := nearestEven n d
    if h : Canonical m e then .finite negative m e h
    else if h : Canonical (m / 2) (e + 1) then .finite negative (m / 2) (e + 1) h
    else .infinity negative

/-- The double nearest to `± (num / den) · 2 ^ e`. -/
def ofScaled (negative : Bool) (num den : Nat) (e : Int) : Binary64 :=
  let (n, d) := inUnits 2 num den (-e)
  ofRatio negative n d

/-- The double nearest to an integer. -/
def ofInt (n : Int) : Binary64 :=
  ofRatio (n < 0) n.natAbs 1

/-- The double nearest to `± digits · 10 ^ e`.

A number of at least `10 ^ 310` is infinite and one below `10 ^ (-326)` is zero, so the power of
ten is only formed within these bounds. -/
def ofDecimal (negative : Bool) (digits : Nat) (e : Int) : Binary64 :=
  if digits = 0 then zero negative
  else
    let magnitude := ((Nat.toDigits 10 digits).length : Int) + e
    if 310 < magnitude then .infinity negative
    else if magnitude < -326 then zero negative
    else
      let (n, d) := inUnits 10 digits 1 (-e)
      ofRatio negative n d

end Binary64

end StarSchema
