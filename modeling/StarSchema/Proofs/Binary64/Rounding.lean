import Mathlib.Algebra.Order.Field.Power
import Mathlib.Data.Nat.Log
import Mathlib.Data.Rat.Cast.Order
import Mathlib.Tactic.FieldSimp
import Mathlib.Tactic.Linarith
import Mathlib.Tactic.NormNum
import Mathlib.Tactic.Positivity
import Mathlib.Tactic.Ring
import StarSchema.Binary64.Round

/-!
# Rounding depends on the value only

A quotient is rounded by its value and not by how it is written as a fraction, and a quotient that
is a double is rounded to that double. Both follow from one characterisation of the unit that a
value is rounded in.

Main definition: `Binary64.IsUnit`.

Main results: `Binary64.ofRatio_congr`, `Binary64.ofRatio_of_canonical`.
-/

namespace StarSchema

theorem nearestEven_mul_right (n d : Nat) {k : Nat} (hk : 0 < k) :
    nearestEven (n * k) (d * k) = nearestEven n d := by
  have twice : 2 * (n % d * k) = 2 * (n % d) * k := by ring
  unfold nearestEven
  simp only [Nat.mul_div_mul_right _ _ hk, Nat.mul_mod_mul_right, twice,
    Nat.mul_lt_mul_right hk]

theorem nearestEven_congr {n d n' d' : Nat} (hd : 0 < d) (hd' : 0 < d')
    (h : n * d' = n' * d) : nearestEven n d = nearestEven n' d' := by
  rw [← nearestEven_mul_right n d hd', ← nearestEven_mul_right n' d' hd, h, Nat.mul_comm d d']

theorem nearestEven_mul_self (m : Nat) {d : Nat} (hd : 0 < d) : nearestEven (m * d) d = m := by
  unfold nearestEven
  simp only [Nat.mul_div_cancel _ hd, Nat.mul_mod_left]
  rw [if_pos (by omega)]

/-- The quotient in units of `base ^ e`. -/
theorem inUnits_ratio {base : Nat} (hbase : 0 < base) (num den : Nat) (e : Int) :
    ((inUnits base num den e).1 : ℚ) / (inUnits base num den e).2 =
      num / den / (base : ℚ) ^ e := by
  have hb : (base : ℚ) ≠ 0 := by positivity
  have power : (base : ℚ) ^ e = (base : ℚ) ^ e.toNat / (base : ℚ) ^ (-e).toNat := by
    rw [← zpow_natCast, ← zpow_natCast, ← zpow_sub₀ hb]
    congr 1
    omega
  rw [power]
  simp only [inUnits, Nat.pow_eq, Nat.cast_mul, Nat.cast_pow]
  field_simp

theorem inUnits_den_pos {base : Nat} (hbase : 0 < base) (num : Nat) {den : Nat} (hden : 0 < den)
    (e : Int) : 0 < (inUnits base num den e).2 :=
  Nat.mul_pos hden (Nat.pow_pos hbase)

namespace Binary64

/-! ### The unit that a value is rounded in -/

/-- The exponent of the last place of the doubles around a value: the value has at most 53 bits in
this unit, and no fewer unless the unit is the least one. -/
structure IsUnit (v : ℚ) (e : Int) : Prop where
  least : -1074 ≤ e
  upper : v < 2 ^ (e + 53)
  lower : 2 ^ (e + 52) ≤ v ∨ e = -1074

theorem IsUnit.le {v : ℚ} {e e' : Int} (h : IsUnit v e) (h' : IsUnit v e') : e ≤ e' := by
  by_contra larger
  rcases h.lower with lower | least
  · have : (2 : ℚ) ^ (e' + 53) ≤ 2 ^ (e + 52) := zpow_le_zpow_right₀ (by norm_num) (by omega)
    have := h'.upper
    linarith
  · have := h'.least
    omega

theorem IsUnit.unique {v : ℚ} {e e' : Int} (h : IsUnit v e) (h' : IsUnit v e') : e = e' :=
  le_antisymm (h.le h') (h'.le h)

/-- The bit lengths bound the quotient within a factor of four. -/
theorem log2_bounds {num den : Nat} (hnum : num ≠ 0) (hden : den ≠ 0) :
    (2 : ℚ) ^ ((num.log2 : Int) - den.log2 - 1) < num / den ∧
      (num : ℚ) / den < 2 ^ ((num.log2 : Int) - den.log2 + 1) := by
  have lowNum : (2 : ℚ) ^ num.log2 ≤ num := by exact_mod_cast Nat.log2_self_le hnum
  have highNum : (num : ℚ) < 2 ^ (num.log2 + 1) := by exact_mod_cast Nat.lt_log2_self
  have lowDen : (2 : ℚ) ^ den.log2 ≤ den := by exact_mod_cast Nat.log2_self_le hden
  have highDen : (den : ℚ) < 2 ^ (den.log2 + 1) := by exact_mod_cast Nat.lt_log2_self
  have denPos : (0 : ℚ) < den := by positivity
  constructor
  · rw [lt_div_iff₀ denPos]
    calc (2 : ℚ) ^ ((num.log2 : Int) - den.log2 - 1) * den
        < 2 ^ ((num.log2 : Int) - den.log2 - 1) * 2 ^ (den.log2 + 1) := by gcongr
      _ = 2 ^ num.log2 := by
          rw [← zpow_natCast, ← zpow_natCast, ← zpow_add₀ (by norm_num)]
          congr 1
          push_cast
          ring
      _ ≤ num := lowNum
  · rw [div_lt_iff₀ denPos]
    calc (num : ℚ) < 2 ^ (num.log2 + 1) := highNum
      _ = 2 ^ ((num.log2 : Int) - den.log2 + 1) * 2 ^ den.log2 := by
          rw [← zpow_natCast, ← zpow_natCast, ← zpow_add₀ (by norm_num)]
          congr 1
          push_cast
          ring
      _ ≤ 2 ^ ((num.log2 : Int) - den.log2 + 1) * den := by gcongr

/-- The whole part of a quotient is below a number as the quotient is. -/
theorem div_lt_iff_ratio_lt {n d k : Nat} (hd : 0 < d) : n / d < k ↔ (n : ℚ) / d < k := by
  rw [Nat.div_lt_iff_lt_mul hd, div_lt_iff₀ (by exact_mod_cast hd)]
  exact_mod_cast Iff.rfl

theorem isUnit_unitExponent {num den : Nat} (hnum : num ≠ 0) (hden : den ≠ 0) :
    IsUnit ((num : ℚ) / den) (unitExponent num den) := by
  obtain ⟨low, high⟩ := log2_bounds hnum hden
  have unit_pos (e : Int) : (0 : ℚ) < 2 ^ e := by positivity
  let e := max (-1074) ((num.log2 : Int) - den.log2 - 53)
  have fits : (inUnits 2 num den e).1 / (inUnits 2 num den e).2 < Nat.pow 2 53 ↔
      (num : ℚ) / den < 2 ^ (e + 53) := by
    rw [div_lt_iff_ratio_lt (inUnits_den_pos (by decide) num (by omega) e),
      inUnits_ratio (by decide), div_lt_iff₀ (by positivity), zpow_add₀ (by norm_num), mul_comm]
    norm_num
  have unit : unitExponent num den = if (num : ℚ) / den < 2 ^ (e + 53) then e else e + 1 := by
    unfold unitExponent
    exact if_congr fits rfl rfl
  rw [unit]
  split_ifs with small
  · refine ⟨by omega, small, ?_⟩
    by_cases least : e = -1074
    · exact .inr least
    · left
      have : e + 52 = num.log2 - den.log2 - 1 := by omega
      rw [this]
      exact low.le
  · have larger : (2 : ℚ) ^ ((num.log2 : Int) - den.log2 + 1) ≤ 2 ^ (e + 1 + 53) :=
      zpow_le_zpow_right₀ (by norm_num) (by omega)
    refine ⟨by omega, by linarith, .inl ?_⟩
    rw [add_assoc]
    exact not_lt.mp small

/-! ### Rounding a quotient -/

/-- **Rounding depends on the value only.** -/
theorem ofRatio_congr {num den num' den' : Nat} (hden : den ≠ 0) (hden' : den' ≠ 0)
    (h : num * den' = num' * den) (negative : Bool) :
    ofRatio negative num den = ofRatio negative num' den' := by
  by_cases zero : num = 0
  · have zero' : num' = 0 := by
      rw [zero, Nat.zero_mul] at h
      exact (Nat.mul_eq_zero.mp h.symm).resolve_right hden
    simp [ofRatio, zero, zero']
  · have zero' : num' ≠ 0 := by
      rintro rfl
      rw [Nat.zero_mul] at h
      exact (Nat.mul_eq_zero.mp h).elim zero hden'
    have value : (num : ℚ) / den = num' / den' := by
      rw [div_eq_div_iff (by exact_mod_cast hden) (by exact_mod_cast hden')]
      exact_mod_cast h
    have unit : unitExponent num den = unitExponent num' den' := by
      refine (isUnit_unitExponent zero hden).unique ?_
      rw [value]
      exact isUnit_unitExponent zero' hden'
    let e := unitExponent num' den'
    have significand : nearestEven (inUnits 2 num den e).1 (inUnits 2 num den e).2 =
        nearestEven (inUnits 2 num' den' e).1 (inUnits 2 num' den' e).2 := by
      refine nearestEven_congr (inUnits_den_pos (by decide) num (by omega) _)
        (inUnits_den_pos (by decide) num' (by omega) _) ?_
      simp only [inUnits]
      calc num * _ * (den' * _) = num * den' * _ := Nat.mul_mul_mul_comm _ _ _ _
        _ = num' * den * _ := by rw [h]
        _ = _ := by ring
    unfold ofRatio
    rw [if_neg zero, if_neg zero']
    simp only [unit, significand, e]

/-- **A double is rounded to itself.** -/
theorem ofRatio_of_canonical {m : Nat} {e : Int} (canonical : Canonical m e) (hm : m ≠ 0)
    {num den : Nat} (hden : den ≠ 0) (h : (num : ℚ) / den = m * 2 ^ e) (negative : Bool) :
    ofRatio negative num den = .finite negative m e canonical := by
  have ⟨bits, least, _, leading⟩ := canonical
  rw [Nat.pow_eq] at bits leading
  have unit_pos : (0 : ℚ) < 2 ^ e := by positivity
  have nonzero : num ≠ 0 := by
    rintro rfl
    have : (m : ℚ) * 2 ^ e ≠ 0 := by positivity
    simp [← h] at this
  have unit : unitExponent num den = e := by
    refine (isUnit_unitExponent nonzero hden).unique ⟨least, ?_, leading.imp_left fun lead => ?_⟩
    · rw [h, zpow_add₀ (by norm_num), mul_comm]
      have : (m : ℚ) < 2 ^ (53 : Int) := by exact_mod_cast bits
      gcongr
    · rw [h, zpow_add₀ (by norm_num), mul_comm]
      have : (2 : ℚ) ^ (52 : Int) ≤ m := by exact_mod_cast lead
      gcongr
  have denPos := inUnits_den_pos (by decide : 0 < 2) num (by omega : 0 < den) e
  have exact_ : (inUnits 2 num den e).1 = m * (inUnits 2 num den e).2 := by
    have ratio := inUnits_ratio (by decide : 0 < 2) num den e
    rw [h, Nat.cast_two, mul_div_cancel_right₀ _ unit_pos.ne',
      div_eq_iff (by exact_mod_cast denPos.ne')] at ratio
    exact_mod_cast ratio
  unfold ofRatio
  rw [if_neg nonzero]
  simp only [unit, exact_, nearestEven_mul_self m denPos]
  rw [dif_pos canonical]

end Binary64

end StarSchema
