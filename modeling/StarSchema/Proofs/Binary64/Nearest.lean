import Mathlib.Algebra.Order.Floor.Semifield
import Mathlib.Data.Nat.Cast.Order.Field
import Mathlib.Data.Rat.Floor
import StarSchema.Binary64.Arith
import StarSchema.Proofs.Binary64.ReadBack

/-!
# The nearest double

What rounding gives, said of the values alone: a value is brought to the nearest multiple of its
unit, a tie to the even one. The double that stands for a quotient holds this number, unless the
quotient is too large for any double.

Main definitions: `IsNearest`, `Binary64.Rounds`, `Binary64.Holds`.

Main results: `Binary64.ofRatio_cases`, `Binary64.holds_ofRatio`, `Binary64.truncate_of_holds`.
-/

namespace StarSchema

/-! ### Whole numbers -/

/-- The whole number is the nearest one, and the even one of two that are equally near. -/
structure IsNearest (v : ℚ) (m : Nat) : Prop where
  near : |v - m| ≤ 1 / 2
  even : |v - m| = 1 / 2 → m % 2 = 0

namespace IsNearest

variable {v : ℚ} {m k : Nat}

theorem le_add_half (h : IsNearest v m) : v ≤ m + 1 / 2 := by
  linarith [(abs_le.mp h.near).2]

theorem sub_half_le (h : IsNearest v m) : m - 1 / 2 ≤ v := by
  linarith [(abs_le.mp h.near).1]

/-- What is not above a whole number is not brought above it. -/
theorem le_of_le (h : IsNearest v m) (bound : v ≤ k) : m ≤ k := by
  by_contra larger
  have step : (k : ℚ) + 1 ≤ m := by exact_mod_cast Nat.lt_of_not_le larger
  linarith [h.sub_half_le]

/-- What is not below a whole number is not brought below it. -/
theorem ge_of_ge (h : IsNearest v m) (bound : k ≤ v) : k ≤ m := by
  by_contra smaller
  have step : (m : ℚ) + 1 ≤ k := by exact_mod_cast Nat.lt_of_not_le smaller
  linarith [h.le_add_half]

theorem unique (h : IsNearest v m) (h' : IsNearest v k) : m = k := by
  wlog smaller : m ≤ k generalizing m k
  · exact (this h' h (Nat.le_of_not_le smaller)).symm
  rcases Nat.lt_or_eq_of_le smaller with next | same
  · -- the value is halfway between two neighbours, of which one is odd
    have step : (m : ℚ) + 1 ≤ k := by exact_mod_cast next
    have low := h.le_add_half
    have high := h'.sub_half_le
    have tie : |v - m| = 1 / 2 := by
      rw [abs_of_nonneg (by linarith)]
      linarith
    have tie' : |v - k| = 1 / 2 := by
      rw [abs_of_nonpos (by linarith)]
      linarith
    have neighbours : k = m + 1 := by
      have : (k : ℚ) = m + 1 := by linarith
      exact_mod_cast this
    have even := h.even tie
    have even' := h'.even tie'
    omega
  · exact same

end IsNearest

theorem isNearest_nearestEven (n : Nat) {d : Nat} (hd : 0 < d) :
    IsNearest ((n : ℚ) / d) (nearestEven n d) := by
  have positive : (0 : ℚ) < d := by exact_mod_cast hd
  have parts : (d : ℚ) * (n / d : Nat) + (n % d : Nat) = n := by
    exact_mod_cast Nat.div_add_mod n d
  have rest : ((n % d : Nat) : ℚ) < d := by exact_mod_cast Nat.mod_lt n hd
  have rest_nonneg : (0 : ℚ) ≤ (n % d : Nat) := Nat.cast_nonneg _
  have distance (m : Nat) : |(n : ℚ) / d - m| = |(n : ℚ) - d * m| / d := by
    rw [← abs_of_pos positive, ← abs_div, abs_of_pos positive, sub_div,
      mul_div_cancel_left₀ _ positive.ne']
  unfold nearestEven
  dsimp only
  split_ifs with small large
  · have small : 2 * ((n % d : Nat) : ℚ) < d := by exact_mod_cast small
    have near : |(n : ℚ) / d - (n / d : Nat)| < 1 / 2 := by
      rw [distance, ← parts, add_sub_cancel_left, abs_of_nonneg rest_nonneg, div_lt_iff₀ positive]
      linarith
    exact ⟨near.le, fun tie => absurd tie near.ne⟩
  · have large : (d : ℚ) < 2 * (n % d : Nat) := by exact_mod_cast large
    have near : |(n : ℚ) / d - (n / d + 1 : Nat)| < 1 / 2 := by
      rw [distance, ← parts, div_lt_iff₀ positive, abs_lt]
      push_cast
      constructor <;> linarith
    exact ⟨near.le, fun tie => absurd tie near.ne⟩
  · have half : (d : ℚ) = 2 * (n % d : Nat) := by
      have : d = 2 * (n % d) := by omega
      exact_mod_cast this
    have near : |(n : ℚ) / d - (n / d + n / d % 2 : Nat)| = 1 / 2 := by
      rcases Nat.mod_two_eq_zero_or_one (n / d) with even | odd
      · rw [even, distance, ← parts, Nat.add_zero, add_sub_cancel_left, abs_of_nonneg rest_nonneg,
          div_eq_iff positive.ne']
        linarith
      · rw [odd, distance, ← parts, abs_of_nonpos (by push_cast; linarith),
          div_eq_iff positive.ne']
        push_cast
        linarith
    exact ⟨near.le, fun _ => by omega⟩

namespace Binary64

/-! ### Values of 53 bits -/

/-- The number of 53 bits that is nearest to a value. -/
def Rounds (v r : ℚ) : Prop :=
  ∃ (e : Int) (m : Nat), IsUnit v e ∧ IsNearest (v / 2 ^ e) m ∧ r = m * 2 ^ e

namespace IsUnit

variable {v : ℚ} {e k : Int} {m : Nat}

theorem le_of_lt (h : IsUnit v e) (least : -1074 ≤ k) (small : v < 2 ^ (k + 53)) : e ≤ k := by
  rcases h.lower with low | least'
  · have := (zpow_lt_zpow_iff_right₀ (by norm_num)).mp (low.trans_lt small)
    omega
  · omega

theorem ge_of_le (h : IsUnit v e) (large : 2 ^ (k + 52) ≤ v) : k ≤ e := by
  have := (zpow_lt_zpow_iff_right₀ (by norm_num)).mp (large.trans_lt h.upper)
  omega

theorem significand_le (h : IsUnit v e) (nearest : IsNearest (v / 2 ^ e) m) : m ≤ 2 ^ 53 := by
  refine nearest.le_of_le ?_
  have upper := h.upper
  rw [zpow_add₀ (by norm_num), mul_comm] at upper
  rw [div_le_iff₀ (by positivity)]
  push_cast
  exact_mod_cast upper.le

theorem le_significand (h : IsUnit v e) (nearest : IsNearest (v / 2 ^ e) m) :
    2 ^ 52 ≤ m ∨ e = -1074 := by
  refine h.lower.imp_left fun lower => nearest.ge_of_ge ?_
  rw [zpow_add₀ (by norm_num), mul_comm] at lower
  rw [le_div_iff₀ (by positivity)]
  push_cast
  exact_mod_cast lower

/-- A quotient with a numerator of 53 bits has a unit that is no greater than one. -/
theorem le_zero {num den : Nat} (hden : 0 < den) (h : IsUnit ((num : ℚ) / den) e)
    (bits : num < 2 ^ 53) : e ≤ 0 := by
  refine h.le_of_lt (by decide) ?_
  calc (num : ℚ) / den ≤ num := div_le_self (by positivity) (by exact_mod_cast hden)
    _ < 2 ^ (0 + 53 : Int) := by exact_mod_cast bits

/-- Half of that unit does not reach from the quotient to the next whole number. -/
theorem add_half_lt {num den : Nat} (hden : 0 < den) (h : IsUnit ((num : ℚ) / den) e)
    (bits : num < 2 ^ 53) : (num : ℚ) / den + 2 ^ e / 2 < (num / den : Nat) + 1 := by
  have positive : (0 : ℚ) < den := by exact_mod_cast hden
  rcases h.lower with low | least
  · have short : (2 : ℚ) ^ e / 2 < 1 / den := by
      rw [zpow_add₀ (by norm_num)] at low
      calc (2 : ℚ) ^ e / 2 = 2 ^ e * 2 ^ (52 : Int) / 2 ^ (53 : Int) := by norm_num; ring
        _ ≤ num / den / 2 ^ (53 : Int) := by gcongr
        _ < 2 ^ (53 : Int) / den / 2 ^ (53 : Int) := by
          have : (num : ℚ) < 2 ^ (53 : Int) := by exact_mod_cast bits
          gcongr
        _ = 1 / den := by rw [div_right_comm, div_self (by positivity)]
    have reach : (num : ℚ) / den + 1 / den ≤ (num / den : Nat) + 1 := by
      rw [← add_div, div_le_iff₀ positive]
      exact_mod_cast Nat.succ_le_of_lt (Nat.lt_mul_of_div_lt (Nat.lt_succ_self (num / den)) hden)
    linarith
  · have small : (num : ℚ) / den < 1 / 2 :=
      calc (num : ℚ) / den < 2 ^ (e + 53) := h.upper
        _ ≤ 2 ^ (-1 : Int) := zpow_le_zpow_right₀ (by norm_num) (by omega)
        _ = 1 / 2 := by norm_num
    have step : (2 : ℚ) ^ e ≤ 1 :=
      calc (2 : ℚ) ^ e ≤ 2 ^ (0 : Int) := zpow_le_zpow_right₀ (by norm_num) (h.le_zero hden bits)
        _ = 1 := zpow_zero 2
    have := Nat.cast_nonneg (α := ℚ) (num / den)
    linarith

end IsUnit

/-- A whole number is a multiple of any unit that is no greater than one. -/
theorem natCast_eq_mul_zpow {e : Int} (fraction : e ≤ 0) (k : Nat) :
    (k : ℚ) = (k * 2 ^ (-e).toNat : Nat) * 2 ^ e := by
  have power : (2 : ℚ) ^ (-e).toNat * 2 ^ e = 1 := by
    rw [← zpow_natCast, Int.toNat_of_nonneg (by omega), ← zpow_add₀ (by norm_num),
      neg_add_cancel, zpow_zero]
  push_cast
  rw [mul_assoc, power, mul_one]

theorem exists_isUnit (num : Nat) {den : Nat} (hden : den ≠ 0) :
    ∃ e, IsUnit ((num : ℚ) / den) e := by
  by_cases zero : num = 0
  · refine ⟨-1074, le_rfl, ?_, .inr rfl⟩
    rw [zero, Nat.cast_zero, zero_div]
    positivity
  · exact ⟨_, isUnit_unitExponent zero hden⟩

theorem isNearest_inUnits (num : Nat) {den : Nat} (hden : den ≠ 0) (e : Int) :
    IsNearest ((num : ℚ) / den / 2 ^ e)
      (nearestEven (inUnits 2 num den e).1 (inUnits 2 num den e).2) := by
  have ratio := inUnits_ratio (by decide : 0 < 2) num den e
  rw [Nat.cast_two] at ratio
  rw [← ratio]
  exact isNearest_nearestEven _ (inUnits_den_pos (by decide) num (Nat.pos_of_ne_zero hden) e)

theorem exists_rounds (num : Nat) {den : Nat} (hden : den ≠ 0) :
    ∃ r, Rounds ((num : ℚ) / den) r := by
  obtain ⟨e, unit⟩ := exists_isUnit num hden
  exact ⟨_, e, _, unit, isNearest_inUnits num hden e, rfl⟩

namespace Rounds

variable {v r : ℚ}

/-- A multiple of the unit that is not above the value is not above the number. -/
theorem ge_of_ge (h : Rounds v r) {e : Int} (unit : IsUnit v e) {k : Nat}
    (bound : k * 2 ^ e ≤ v) : k * 2 ^ e ≤ r := by
  obtain ⟨e', m, unit', nearest, rfl⟩ := h
  obtain rfl := unit.unique unit'
  have positive : (0 : ℚ) < 2 ^ e := by positivity
  have : k ≤ m := nearest.ge_of_ge ((le_div_iff₀ positive).mpr bound)
  gcongr

theorem nonneg (h : Rounds v r) : 0 ≤ r := by
  obtain ⟨e, m, -, -, rfl⟩ := h
  positivity

theorem le_add_half (h : Rounds v r) {e : Int} (unit : IsUnit v e) : r ≤ v + 2 ^ e / 2 := by
  obtain ⟨e', m, unit', nearest, rfl⟩ := h
  obtain rfl := unit.unique unit'
  have positive : (0 : ℚ) < 2 ^ e := by positivity
  calc m * 2 ^ e ≤ (v / 2 ^ e + 1 / 2) * 2 ^ e := by
        have := nearest.sub_half_le
        gcongr
        linarith
    _ = v + 2 ^ e / 2 := by
        rw [add_mul, div_mul_cancel₀ _ positive.ne']
        ring

/-- A quotient with a numerator of 53 bits is not brought past a whole number. -/
theorem floor_eq {num den : Nat} (hden : 0 < den) (h : Rounds ((num : ℚ) / den) r)
    (bits : num < 2 ^ 53) : ⌊r⌋₊ = num / den := by
  obtain ⟨e, unit⟩ := exists_isUnit num hden.ne'
  rw [Nat.floor_eq_iff h.nonneg]
  constructor
  · have multiple := natCast_eq_mul_zpow (unit.le_zero hden bits) (num / den)
    rw [multiple]
    refine h.ge_of_ge unit ?_
    rw [← multiple]
    exact Nat.cast_div_le
  · exact (h.le_add_half unit).trans_lt (unit.add_half_lt hden bits)

/-! The numbers of 53 bits around `2 ^ 63`: they are `2 ^ 10` apart below it and `2 ^ 11` above. -/

/-- The middle between `2 ^ 63` and the next number is a tie that `2 ^ 63` wins. -/
theorem le_two_pow (h : Rounds v r) (bound : v ≤ 2 ^ 63 + 2 ^ 10) : r ≤ 2 ^ 63 := by
  obtain ⟨e, m, unit, nearest, rfl⟩ := h
  have small : e ≤ 11 := unit.le_of_lt (by decide) (by norm_num; linarith)
  rcases small.eq_or_lt with rfl | smaller
  · have step : (2 : ℚ) ^ (11 : Int) = 2 ^ 11 := by norm_num
    have half := nearest.sub_half_le
    have even := nearest.even
    rw [step] at half even ⊢
    rw [le_div_iff₀ (by positivity)] at half
    have next : m ≤ 2 ^ 52 + 1 := by
      have : (m : ℚ) ≤ 2 ^ 52 + 1 := by linarith
      exact_mod_cast this
    have tie : m ≠ 2 ^ 52 + 1 := by
      rintro rfl
      have : v = 2 ^ 63 + 2 ^ 10 := by
        push_cast at half
        linarith
      have := even (by rw [this]; norm_num)
      omega
    have : (m : ℚ) ≤ 2 ^ 52 := by
      have : m ≤ 2 ^ 52 := by omega
      exact_mod_cast this
    linarith
  · have power : (2 : ℚ) ^ e ≤ 2 ^ (10 : Int) := zpow_le_zpow_right₀ (by norm_num) (by omega)
    calc (m : ℚ) * 2 ^ e ≤ (2 ^ 53 : Nat) * 2 ^ (10 : Int) := by
          have := unit.significand_le nearest
          gcongr
      _ = 2 ^ 63 := by norm_num

/-- What is above the middle is brought to the next number or beyond. -/
theorem two_pow_add_le (h : Rounds v r) (beyond : 2 ^ 63 + 2 ^ 10 < v) :
    2 ^ 63 + 2 ^ 11 ≤ r := by
  obtain ⟨e, m, unit, nearest, rfl⟩ := h
  have large : 11 ≤ e := unit.ge_of_le (by norm_num; linarith)
  rcases large.eq_or_lt with rfl | larger
  · have step : (2 : ℚ) ^ (11 : Int) = 2 ^ 11 := by norm_num
    have half := nearest.le_add_half
    rw [step] at half ⊢
    rw [div_le_iff₀ (by positivity)] at half
    have next : 2 ^ 52 + 1 ≤ m := by
      have : (2 ^ 52 : ℚ) < m := by linarith
      exact_mod_cast this
    have : (2 ^ 52 + 1 : ℚ) ≤ m := by exact_mod_cast next
    linarith
  · have leading := (unit.le_significand nearest).resolve_right (by omega)
    have power : (2 : ℚ) ^ (12 : Int) ≤ 2 ^ e := zpow_le_zpow_right₀ (by norm_num) larger
    calc (2 : ℚ) ^ 63 + 2 ^ 11 ≤ (2 ^ 52 : Nat) * 2 ^ (12 : Int) := by norm_num
      _ ≤ m * 2 ^ e := by gcongr

/-- The integers of 64 bits and the values around `2 ^ 63` that stand for its bound. -/
theorem floor_le_iff (h : Rounds v r) : ⌊r⌋₊ ≤ 2 ^ 63 ↔ v ≤ 2 ^ 63 + 2 ^ 10 := by
  constructor
  · intro bound
    by_contra beyond
    have next : 2 ^ 63 + 2 ^ 11 ≤ ⌊r⌋₊ :=
      Nat.le_floor (by exact_mod_cast h.two_pow_add_le (not_le.mp beyond))
    omega
  · intro bound
    exact Nat.floor_le_of_le (by exact_mod_cast h.le_two_pow bound)

/-- The greatest integer of 64 bits is brought to `2 ^ 63`, and nothing above it lower. -/
theorem le_floor (h : Rounds v r) (top : 2 ^ 63 - 1 ≤ v) : 2 ^ 63 ≤ ⌊r⌋₊ := by
  obtain ⟨e, m, unit, nearest, rfl⟩ := h
  have large : 10 ≤ e := unit.ge_of_le (by norm_num; linarith)
  have reached : (2 : ℚ) ^ 63 ≤ m * 2 ^ e := by
    rcases large.eq_or_lt with rfl | larger
    · have step : (2 : ℚ) ^ (10 : Int) = 2 ^ 10 := by norm_num
      have half := nearest.le_add_half
      rw [step] at half ⊢
      rw [div_le_iff₀ (by positivity)] at half
      have : (2 ^ 53 : ℚ) ≤ m := by
        have : (2 ^ 53 : ℚ) < m + 1 := by linarith
        have : 2 ^ 53 < m + 1 := by exact_mod_cast this
        exact_mod_cast Nat.le_of_lt_succ this
      linarith
    · have leading := (unit.le_significand nearest).resolve_right (by omega)
      have power : (2 : ℚ) ^ (11 : Int) ≤ 2 ^ e := zpow_le_zpow_right₀ (by norm_num) larger
      calc (2 : ℚ) ^ 63 = (2 ^ 52 : Nat) * 2 ^ (11 : Int) := by norm_num
        _ ≤ m * 2 ^ e := by gcongr
  exact Nat.le_floor (by exact_mod_cast reached)

end Rounds

/-! ### Doubles -/

/-- The double is a finite one of this sign and magnitude. -/
def Holds (x : Binary64) (negative : Bool) (r : ℚ) : Prop :=
  ∃ m e canonical, x = .finite negative m e canonical ∧ r = m * 2 ^ e

theorem isFinite_of_holds {x : Binary64} {negative : Bool} {r : ℚ} (h : x.Holds negative r) :
    x.isFinite = true := by
  obtain ⟨m, e, canonical, rfl, -⟩ := h
  rfl

/-- A significand of 53 bits is held as it is; the least one of 54 bits moves up by a place. -/
theorem holds_of_significand {m : Nat} {e : Int} (bits : m ≤ 2 ^ 53) (least : -1074 ≤ e)
    (within : e ≤ 970) (leading : 2 ^ 52 ≤ m ∨ e = -1074) (negative : Bool) :
    Holds
      (if h : Canonical m e then .finite negative m e h
        else if h : Canonical (m / 2) (e + 1) then .finite negative (m / 2) (e + 1) h
        else .infinity negative)
      negative (m * 2 ^ e) := by
  rcases bits.lt_or_eq with fits | rfl
  · have canonical : Canonical m e := ⟨fits, least, by omega, leading⟩
    rw [dif_pos canonical]
    exact ⟨m, e, canonical, rfl, rfl⟩
  · have canonical : Canonical (2 ^ 53 / 2) (e + 1) :=
      ⟨by decide, by omega, by omega, .inl (by decide)⟩
    rw [dif_neg fun fits => absurd fits.1 (by decide), dif_pos canonical]
    refine ⟨_, _, canonical, rfl, ?_⟩
    rw [zpow_add₀ (by norm_num)]
    norm_num
    ring

/-- **A quotient becomes the nearest number of 53 bits**, or an infinity if it is too large. -/
theorem ofRatio_cases {num den : Nat} (hden : den ≠ 0) {r : ℚ} (h : Rounds ((num : ℚ) / den) r)
    (negative : Bool) :
    (ofRatio negative num den).Holds negative r ∨
      ofRatio negative num den = .infinity negative ∧ (2 : ℚ) ^ (1023 : Int) ≤ num / den := by
  obtain ⟨e, m, unit, nearest, rfl⟩ := h
  by_cases zero : num = 0
  · left
    have least : m ≤ 0 := nearest.le_of_le (by simp [zero])
    refine ⟨0, -1074, by decide, ?_, ?_⟩
    · rw [ofRatio, if_pos zero]
      rfl
    · simp [Nat.le_zero.mp least]
  · have same : unitExponent num den = e := (isUnit_unitExponent zero hden).unique unit
    have rounded : nearestEven (inUnits 2 num den e).1 (inUnits 2 num den e).2 = m :=
      (isNearest_inUnits num hden e).unique nearest
    have value : ofRatio negative num den =
        if h : Canonical m e then .finite negative m e h
        else if h : Canonical (m / 2) (e + 1) then .finite negative (m / 2) (e + 1) h
        else .infinity negative := by
      rw [ofRatio, if_neg zero]
      simp only [same, rounded]
    rw [value]
    by_cases within : e ≤ 970
    · exact .inl (holds_of_significand (unit.significand_le nearest) unit.least within
        (unit.le_significand nearest) negative)
    · have large : (2 : ℚ) ^ (1023 : Int) ≤ num / den := by
        rcases unit.lower with low | least
        · exact (zpow_le_zpow_right₀ (by norm_num) (by omega)).trans low
        · omega
      split_ifs with canonical moved
      · exact .inl ⟨m, e, canonical, rfl, rfl⟩
      · exact absurd moved.2.2.1 (by omega)
      · exact .inr ⟨rfl, large⟩

/-- What is nearer to zero than to any other double becomes zero. -/
theorem holds_zero {v r : ℚ} (h : Rounds v r) (hv : 0 ≤ v) (small : v < 2 ^ (-1075 : Int))
    (negative : Bool) : (zero negative).Holds negative r := by
  obtain ⟨e', m, unit, nearest, rfl⟩ := h
  have unit' : IsUnit v (-1074) :=
    ⟨le_rfl, small.trans (zpow_lt_zpow_right₀ (by norm_num) (by decide)), .inr rfl⟩
  obtain rfl := unit'.unique unit
  have near : v / 2 ^ (-1074 : Int) < 1 / 2 := by
    rw [div_lt_iff₀ (by positivity)]
    calc v < 2 ^ (-1075 : Int) := small
      _ = 2 ^ (-1 : Int) * 2 ^ (-1074 : Int) := by rw [← zpow_add₀ (by norm_num)]; rfl
      _ = 1 / 2 * 2 ^ (-1074 : Int) := by norm_num
  have positive : (0 : ℚ) ≤ v / 2 ^ (-1074 : Int) := by positivity
  have nothing : IsNearest (v / 2 ^ (-1074 : Int)) 0 := by
    have distance : |v / 2 ^ (-1074 : Int) - (0 : Nat)| < 1 / 2 := by
      rwa [Nat.cast_zero, sub_zero, abs_of_nonneg positive]
    exact ⟨distance.le, fun tie => absurd tie distance.ne⟩
  exact ⟨0, -1074, by decide, rfl, by rw [nearest.unique nothing]⟩

/-- A quotient within reach becomes a finite double. -/
theorem holds_ofRatio {num den : Nat} (hden : den ≠ 0) {r : ℚ} (h : Rounds ((num : ℚ) / den) r)
    (small : (num : ℚ) / den < 2 ^ (1023 : Int)) (negative : Bool) :
    (ofRatio negative num den).Holds negative r :=
  (ofRatio_cases hden h negative).resolve_right fun large => absurd large.2 (not_le.mpr small)

theorem isFinite_ofRatio {num den : Nat} (hden : den ≠ 0)
    (small : (num : ℚ) / den < 2 ^ (1023 : Int)) (negative : Bool) :
    (ofRatio negative num den).isFinite = true := by
  obtain ⟨r, rounds⟩ := exists_rounds num hden
  exact isFinite_of_holds (holds_ofRatio hden rounds small negative)

/-- The integer part of a number is that of its magnitude, with the sign. -/
theorem truncate_of_holds {x : Binary64} {negative : Bool} {r : ℚ} (h : x.Holds negative r) :
    x.truncate = if negative then -(⌊r⌋₊ : Int) else ⌊r⌋₊ := by
  obtain ⟨m, e, canonical, rfl, rfl⟩ := h
  have whole : m * Nat.pow 2 e.toNat / Nat.pow 2 (-e).toNat = ⌊(m : ℚ) * 2 ^ e⌋₊ := by
    have ratio := inUnits_ratio (by decide : 0 < 2) m 1 (-e)
    rw [Nat.cast_two, Nat.cast_one, div_one, zpow_neg, div_inv_eq_mul] at ratio
    rw [← ratio, Nat.floor_div_eq_div]
    simp [inUnits]
  rw [truncate, whole]

/-! ### Decimals -/

namespace Decimal

def value (d : Decimal) : ℚ :=
  d.digits * 10 ^ d.exponent

theorem value_eq_div (d : Decimal) :
    d.value = ((inUnits 10 d.digits 1 (-d.exponent)).1 : ℚ) /
      (inUnits 10 d.digits 1 (-d.exponent)).2 := by
  rw [inUnits_ratio (by decide), Nat.cast_one, div_one, zpow_neg, div_inv_eq_mul]
  rfl

theorem value_nonneg (d : Decimal) : 0 ≤ d.value := by
  unfold value
  positivity

/-- The digits of a number place it between two powers of ten. -/
theorem value_bounds {d : Decimal} (nonzero : d.digits ≠ 0) {n : Int}
    (length : ((Nat.toDigits 10 d.digits).length : Int) + d.exponent = n) :
    10 ^ (n - 1) ≤ d.value ∧ d.value < 10 ^ n := by
  have positive : 0 < (Nat.toDigits 10 d.digits).length := Nat.length_toDigits_pos
  have above : d.digits < 10 ^ (Nat.toDigits 10 d.digits).length :=
    (Nat.length_toDigits_le_iff (by decide) positive).mp le_rfl
  have below : 10 ^ ((Nat.toDigits 10 d.digits).length - 1) ≤ d.digits := by
    by_contra smaller
    rcases Nat.eq_zero_or_pos ((Nat.toDigits 10 d.digits).length - 1) with one | more
    · rw [one] at smaller
      omega
    · have := (Nat.length_toDigits_le_iff (by decide) more).mpr (not_le.mp smaller)
      omega
  obtain rfl := length
  constructor
  · calc (10 : ℚ) ^ (((Nat.toDigits 10 d.digits).length : Int) + d.exponent - 1)
        = (10 ^ ((Nat.toDigits 10 d.digits).length - 1) : Nat) * 10 ^ d.exponent := by
          rw [Nat.cast_pow, ← zpow_natCast, Nat.cast_ofNat, ← zpow_add₀ (by norm_num)]
          congr 1
          omega
      _ ≤ d.digits * 10 ^ d.exponent := by gcongr
  · calc (d.digits : ℚ) * 10 ^ d.exponent
        < (10 ^ (Nat.toDigits 10 d.digits).length : Nat) * 10 ^ d.exponent := by gcongr
      _ = 10 ^ (((Nat.toDigits 10 d.digits).length : Int) + d.exponent) := by
          rw [Nat.cast_pow, ← zpow_natCast, Nat.cast_ofNat, ← zpow_add₀ (by norm_num)]

theorem two_zpow_le {a b : Nat} (h : 2 ^ a ≤ 10 ^ b) : (2 : ℚ) ^ (a : Int) ≤ 10 ^ (b : Int) := by
  rw [zpow_natCast, zpow_natCast]
  exact_mod_cast h

theorem ten_zpow_neg_le {a b : Nat} (h : 2 ^ a ≤ 10 ^ b) :
    (10 : ℚ) ^ (-b : Int) ≤ 2 ^ (-a : Int) := by
  rw [zpow_neg, zpow_neg]
  exact inv_anti₀ (by positivity) (two_zpow_le h)

/-- **A decimal is rounded to the nearest number of 53 bits.** The bounds outside of which a power
of ten is not formed make no difference. -/
theorem round_cases {d : Decimal} {r : ℚ} (h : Rounds d.value r) (negative : Bool) :
    (d.round negative).Holds negative r ∨
      d.round negative = .infinity negative ∧ 2 ^ (1023 : Int) ≤ d.value := by
  unfold Decimal.round ofDecimal
  by_cases zero : d.digits = 0
  · rw [if_pos zero]
    exact .inl (holds_zero h d.value_nonneg (by simp [value, zero]) negative)
  · rw [if_neg zero]
    dsimp only
    split_ifs with high low
    · refine .inr ⟨rfl, ?_⟩
      calc (2 : ℚ) ^ (1023 : Int) ≤ 10 ^ (310 : Int) :=
            two_zpow_le (a := 1023) (b := 310) (by decide +kernel)
        _ ≤ 10 ^ (((Nat.toDigits 10 d.digits).length : Int) + d.exponent - 1) :=
            zpow_le_zpow_right₀ (by norm_num) (by omega)
        _ ≤ d.value := (value_bounds zero rfl).1
    · refine .inl (holds_zero h d.value_nonneg ?_ negative)
      calc d.value < 10 ^ (((Nat.toDigits 10 d.digits).length : Int) + d.exponent) :=
            (value_bounds zero rfl).2
        _ ≤ 10 ^ (-327 : Int) := zpow_le_zpow_right₀ (by norm_num) (by omega)
        _ ≤ 2 ^ (-1075 : Int) := ten_zpow_neg_le (a := 1075) (b := 327) (by decide +kernel)
    · have den := (inUnits_den_pos (by decide : 0 < 10) d.digits (by decide : 0 < 1)
        (-d.exponent)).ne'
      rw [value_eq_div] at h ⊢
      exact ofRatio_cases den h negative

end Decimal

end Binary64

end StarSchema
