import StarSchema.Proofs.Binary64.Nearest

/-!
# Whole numbers among the doubles

A whole number is a double if its binary digits are 53 at most, apart from zeros at the end. Of the
others the nearest double is a whole number too, so that rounding moves them by at least one.

Main definition: `FitsBinary64`.

Main results: `fitsBinary64_of_le`, `Binary64.Rounds.eq_self`, `Binary64.Rounds.exists_whole`,
`Binary64.holds_ofInt`.
-/

namespace StarSchema

/-- A number of 53 binary digits, and zeros behind them. -/
def FitsBinary64 (n : Nat) : Prop :=
  ∃ m k : Nat, m < 2 ^ 53 ∧ n = m * 2 ^ k

theorem fitsBinary64_mul {m : Nat} (bits : m ≤ 2 ^ 53) (k : Nat) : FitsBinary64 (m * 2 ^ k) := by
  rcases bits.lt_or_eq with fits | rfl
  · exact ⟨m, k, fits, rfl⟩
  · refine ⟨1, 53 + k, by decide, ?_⟩
    rw [Nat.pow_add, Nat.one_mul]

/-- Small numbers fit. -/
theorem fitsBinary64_of_le {n : Nat} (small : n ≤ 2 ^ 53) : FitsBinary64 n := by
  simpa using fitsBinary64_mul small 0

/-- Large odd numbers do not. -/
theorem not_fitsBinary64_of_odd {n : Nat} (odd : n % 2 = 1) (large : 2 ^ 53 < n) :
    ¬FitsBinary64 n := by
  rintro ⟨m, k, bits, rfl⟩
  cases k with
  | zero => omega
  | succ k =>
    rw [Nat.pow_succ, ← Nat.mul_assoc, Nat.mul_mod_left] at odd
    cases odd

theorem isNearest_natCast (n : Nat) : IsNearest (n : ℚ) n :=
  ⟨by norm_num, by norm_num⟩

namespace Binary64

/-- A multiple of the unit is not moved. -/
theorem Rounds.eq_of_multiple {v r : ℚ} (h : Rounds v r) {e : Int} (unit : IsUnit v e) {k : Nat}
    (multiple : v = k * 2 ^ e) : r = v := by
  obtain ⟨e', m, unit', nearest, rfl⟩ := h
  obtain rfl := unit.unique unit'
  have positive : (0 : ℚ) < 2 ^ e := by positivity
  rw [multiple, mul_div_cancel_right₀ _ positive.ne'] at nearest
  rw [multiple, nearest.unique (isNearest_natCast k)]

/-- A number that fits is not moved. -/
theorem Rounds.eq_self {n : Nat} {r : ℚ} (h : Rounds n r) (fits : FitsBinary64 n) : r = n := by
  obtain ⟨e, unit⟩ := exists_isUnit n one_ne_zero
  rw [Nat.cast_one, div_one] at unit
  obtain ⟨m, k, bits, rfl⟩ := fits
  have small : e ≤ k := by
    refine unit.le_of_lt (by omega) ?_
    rw [zpow_add₀ (by norm_num), mul_comm, zpow_natCast]
    have : (m : ℚ) < 2 ^ (53 : Int) := by exact_mod_cast bits
    rw [Nat.cast_mul, Nat.cast_pow, Nat.cast_ofNat]
    gcongr
  refine h.eq_of_multiple unit (k := m * 2 ^ (k - e).toNat) ?_
  have power : (2 : ℚ) ^ (k - e).toNat * 2 ^ e = 2 ^ k := by
    rw [← zpow_natCast, ← zpow_natCast, ← zpow_add₀ (by norm_num)]
    congr 1
    omega
  push_cast
  rw [mul_assoc, power]

/-- **The nearest double of a whole number** is a whole number that fits. -/
theorem Rounds.exists_whole {n : Nat} {r : ℚ} (h : Rounds n r) :
    ∃ w : Nat, r = w ∧ FitsBinary64 w := by
  obtain ⟨e, m, unit, nearest, value⟩ := id h
  have bits := unit.significand_le nearest
  by_cases fraction : e ≤ 0
  · -- the number is a multiple of its unit, and has no more digits than the significand
    have same := h.eq_of_multiple unit (natCast_eq_mul_zpow fraction n)
    refine ⟨n, same, fitsBinary64_of_le ?_⟩
    have upper : (n : ℚ) ≤ 2 ^ (53 : Int) :=
      unit.upper.le.trans (zpow_le_zpow_right₀ (by norm_num) (by omega))
    exact_mod_cast upper
  · obtain ⟨k, rfl⟩ := Int.eq_ofNat_of_zero_le (by omega : 0 ≤ e)
    refine ⟨m * 2 ^ k, ?_, fitsBinary64_mul bits k⟩
    rw [value]
    push_cast
    rfl

theorem natAbs_toInt_le (n : Int64) : n.toInt.natAbs ≤ 2 ^ 63 := by
  have low := Int64.minValue_le_toInt n
  have high := Int64.toInt_le n
  change -2 ^ 63 ≤ n.toInt at low
  change n.toInt ≤ 2 ^ 63 - 1 at high
  omega

/-- No such number is out of reach. -/
theorem natCast_lt_two_zpow {n : Nat} (small : n ≤ 2 ^ 63) : (n : ℚ) < 2 ^ (1023 : Int) :=
  calc (n : ℚ) ≤ (2 ^ 63 : Nat) := by exact_mod_cast small
    _ = 2 ^ (63 : Int) := by norm_num
    _ < 2 ^ (1023 : Int) := zpow_lt_zpow_right₀ (by norm_num) (by decide)

/-- An integer of 64 bits is brought to its nearest double. -/
theorem holds_ofInt {n : Int64} {r : ℚ} (h : Rounds n.toInt.natAbs r) :
    (ofInt n.toInt).Holds (n.toInt < 0) r := by
  have small := natCast_lt_two_zpow (natAbs_toInt_le n)
  have quotient : (n.toInt.natAbs : ℚ) = n.toInt.natAbs / (1 : Nat) := by
    rw [Nat.cast_one, div_one]
  rw [quotient] at h small
  exact holds_ofRatio one_ne_zero h small _

end Binary64

end StarSchema
