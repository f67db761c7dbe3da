import StarSchema.Binary64.Round

/-!
# Arithmetic on double-precision numbers

Each operation computes the exact result as a ratio of integers and rounds once. The rules for
zeros, infinities and NaN are those of IEEE 754.

Main definitions: `Binary64.add`, `sub`, `mul`, `div`, `lt`, `truncate`, `roundHalfAway`.
-/

namespace StarSchema.Binary64

/-- The significand with its sign, in units of `2 ^ unit`, for a `unit` not above the exponent. -/
def signedIn (unit : Int) (negative : Bool) (significand : Nat) (exponent : Int) : Int :=
  let m : Int := significand * Nat.pow 2 (exponent - unit).toNat
  if negative then -m else m

/-- Opposite infinities have no sum. An exact sum of zero is positive, unless both terms are the
negative zero. -/
def add : Binary64 → Binary64 → Binary64
  | .nan, _ => .nan
  | _, .nan => .nan
  | .infinity a, .infinity b => if a = b then .infinity a else .nan
  | .infinity a, _ => .infinity a
  | _, .infinity b => .infinity b
  | .finite a m e _, .finite b n f _ =>
    let unit := min e f
    let sum := signedIn unit a m e + signedIn unit b n f
    if sum = 0 then zero (a && b)
    else ofScaled (sum < 0) sum.natAbs 1 unit

def sub (x y : Binary64) : Binary64 :=
  add x y.neg

/-- An infinity times a zero is not a number. -/
def mul : Binary64 → Binary64 → Binary64
  | .nan, _ => .nan
  | _, .nan => .nan
  | .infinity a, .infinity b => .infinity (a != b)
  | .infinity a, .finite b n _ _ => if n = 0 then .nan else .infinity (a != b)
  | .finite a m _ _, .infinity b => if m = 0 then .nan else .infinity (a != b)
  | .finite a m e _, .finite b n f _ => ofScaled (a != b) (m * n) 1 (e + f)

/-- A zero by a zero and an infinity by an infinity are not numbers; any other number by a zero
is infinite. -/
def div : Binary64 → Binary64 → Binary64
  | .nan, _ => .nan
  | _, .nan => .nan
  | .infinity _, .infinity _ => .nan
  | .infinity a, .finite b _ _ _ => .infinity (a != b)
  | .finite a _ _ _, .infinity b => zero (a != b)
  | .finite a m e _, .finite b n f _ =>
    if n = 0 then if m = 0 then .nan else .infinity (a != b)
    else ofScaled (a != b) m n (e - f)

/-- The order of numbers: zeros are equal whatever their signs, and NaN is below nothing. -/
def lt : Binary64 → Binary64 → Bool
  | .nan, _ => false
  | _, .nan => false
  | .infinity a, .infinity b => a && !b
  | .infinity a, _ => a
  | _, .infinity b => !b
  | .finite a m e _, .finite b n f _ =>
    let unit := min e f
    signedIn unit a m e < signedIn unit b n f

/-- The sign of a number below zero; NaN and both zeros have none. -/
def isNegative : Binary64 → Bool
  | .nan => false
  | .infinity a => a
  | .finite a m _ _ => a && m != 0

/-- The integer part, toward zero, of a finite number. -/
def truncate : Binary64 → Int
  | .finite a m e _ =>
    let whole : Int := (m * Nat.pow 2 e.toNat / Nat.pow 2 (-e).toNat : Nat)
    if a then -whole else whole
  | _ => 0

/-- The nearest whole number, a half away from zero, with the sign kept also on zero. -/
def roundHalfAway : Binary64 → Binary64
  | .finite a m e h =>
    if 0 ≤ e then .finite a m e h
    else
      let unit := Nat.pow 2 (-e).toNat
      ofRatio a ((2 * m + unit) / (2 * unit)) 1
  | x => x

@[simp]
theorem isNegative_zero (negative : Bool) : (zero negative).isNegative = false := by
  cases negative <;> rfl

end StarSchema.Binary64
