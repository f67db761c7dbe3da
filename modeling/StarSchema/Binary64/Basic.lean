/-!
# Double-precision numbers

A `Binary64` is a number of the IEEE 754 format binary64, held as the significand and the
exponent of its value, so that every operation on it is exact integer arithmetic followed by
one rounding, and can be reasoned about as such.

Main definitions:

* `Binary64`: not a number, an infinity, or `± significand · 2 ^ exponent`;
* `Binary64.Canonical`: the pairs that occur, one for each magnitude;
* `Binary64.isZero`, `Binary64.isFinite`, `Binary64.neg`.
-/

namespace StarSchema

/-- The significands and exponents of the finite numbers: 53 bits, with the leading bit set
unless the exponent is the least one. Each magnitude has exactly one such pair. -/
def Binary64.Canonical (significand : Nat) (exponent : Int) : Prop :=
  significand < Nat.pow 2 53 ∧ -1074 ≤ exponent ∧ exponent ≤ 971 ∧
    (Nat.pow 2 52 ≤ significand ∨ exponent = -1074)

instance (significand : Nat) (exponent : Int) :
    Decidable (Binary64.Canonical significand exponent) := by
  unfold Binary64.Canonical
  infer_instance

/-- A double-precision number. Zero has a sign; the payload of a NaN is not kept. -/
inductive Binary64 where
  | nan
  | infinity (negative : Bool)
  | finite (negative : Bool) (significand : Nat) (exponent : Int)
      (canonical : Binary64.Canonical significand exponent)
deriving DecidableEq

namespace Binary64

/-- Zero with the given sign. -/
def zero (negative : Bool) : Binary64 :=
  .finite negative 0 (-1074) (by decide)

/-- The number one. -/
def one : Binary64 :=
  .finite false (Nat.pow 2 52) (-52) (by decide)

instance : Inhabited Binary64 := ⟨zero false⟩

/-- Both zeros, and nothing else. -/
def isZero : Binary64 → Bool
  | .finite _ m _ _ => m == 0
  | _ => false

def isFinite : Binary64 → Bool
  | .finite .. => true
  | _ => false

/-- The number with the other sign; also of a zero. -/
def neg : Binary64 → Binary64
  | .nan => .nan
  | .infinity n => .infinity !n
  | .finite n m e h => .finite (!n) m e h

@[simp]
theorem isZero_zero (negative : Bool) : (zero negative).isZero = true := rfl

@[simp]
theorem neg_neg (x : Binary64) : x.neg.neg = x := by
  cases x <;> simp [neg]

@[simp]
theorem isZero_neg (x : Binary64) : x.neg.isZero = x.isZero := by
  cases x <;> rfl

end Binary64

end StarSchema
