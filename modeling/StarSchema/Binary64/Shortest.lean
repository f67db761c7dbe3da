import StarSchema.Binary64.Round

/-!
# The fewest digits that read back

Among the decimals that round to a given double, those with the fewest digits, and of those the
nearest one. On the grid of decimals with a given number of digits only the two neighbours of
the number need to be tried: if any point of the grid reads back, one of them does.

Main definitions: `Binary64.Tie`, `Binary64.shortest`.
-/

namespace StarSchema.Binary64

/-- Which neighbour is taken when a number lies halfway between the two. -/
inductive Tie where
  | up
  | toEven
deriving DecidableEq

/-- The decimal `digits · 10 ^ exponent`. -/
structure Decimal where
  digits : Nat
  exponent : Int
deriving DecidableEq

/-- The number of decimal digits before the point of `num / den`: the least `p` with
`num / den < 10 ^ p`. The bit lengths give a lower bound that is short by three at most. -/
def decimalMagnitude (num den : Nat) : Int :=
  let low := ((num.log2 : Int) - den.log2 - 1) * 30103 / 100000
  let below (p : Int) : Bool :=
    let (n, d) := inUnits 10 num den p
    n < d
  if below low then low
  else if below (low + 1) then low + 1
  else if below (low + 2) then low + 2
  else low + 3

/-- The natural numbers next to `num / den`, the nearer one first. -/
def neighbours (tie : Tie) (num den : Nat) : List Nat :=
  let q := num / den
  let r := num % den
  if r = 0 then [q]
  else if 2 * r < den then [q, q + 1]
  else if den < 2 * r then [q + 1, q]
  else match tie with
    | .up => [q + 1, q]
    | .toEven => if q % 2 = 0 then [q, q + 1] else [q + 1, q]

/-- The decimal without the zeros at its end. The count of digits bounds how many there are. -/
def Decimal.strip (d : Decimal) : Decimal :=
  go (Nat.toDigits 10 d.digits).length d
where
  go : Nat → Decimal → Decimal
    | 0, d => d
    | k + 1, d =>
      if d.digits % 10 = 0 ∧ d.digits ≠ 0 then go k ⟨d.digits / 10, d.exponent + 1⟩ else d

/-- All digits of `significand · 2 ^ e`, which is a decimal exactly. -/
def exactDecimal (significand : Nat) (e : Int) : Decimal :=
  if 0 ≤ e then ⟨significand * Nat.pow 2 e.toNat, 0⟩
  else ⟨significand * Nat.pow 5 (-e).toNat, e⟩

/-- The shortest decimal of a finite magnitude. Seventeen digits always suffice; the exact
decimal stands for the case that never occurs. -/
def shortest (tie : Tie) (significand : Nat) (e : Int) : Decimal :=
  if significand = 0 then ⟨0, 0⟩
  else
    let (num, den) := inUnits 2 significand 1 (-e)
    let magnitude := decimalMagnitude num den
    let self := ofRatio false num den
    let onGrid (count : Nat) : Option Decimal :=
      let unit := magnitude - count
      let (n, d) := inUnits 10 num den unit
      ((neighbours tie n d).find? fun k => ofDecimal false k unit == self).map fun k => ⟨k, unit⟩
    (((List.range 17).findSome? fun count => onGrid (count + 1)).getD
      (exactDecimal significand e)).strip

end StarSchema.Binary64
