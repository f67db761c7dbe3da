import StarSchema.Proofs.Binary64.Nearest
import StarSchema.Proofs.Value.Conversion

/-!
# Converted numbers are finite

Infinities and NaN are refused, and rounding to hundredths does not bring them back: its result is
out of reach of the largest double, since it is divided by a hundred in the end.

Main result: `isFinite_of_convert`.
-/

namespace StarSchema

namespace Binary64

theorem isFinite_ofScaled {num den : Nat} (hden : den ≠ 0) {e : Int}
    (small : (num : ℚ) / den * 2 ^ e < 2 ^ (1023 : Int)) (negative : Bool) :
    (ofScaled negative num den e).isFinite = true := by
  have ratio := inUnits_ratio (by decide : 0 < 2) num den (-e)
  rw [Nat.cast_two, zpow_neg, div_inv_eq_mul] at ratio
  rw [← ratio] at small
  have den := inUnits_den_pos (by decide : 0 < 2) num (Nat.pos_of_ne_zero hden) (-e)
  exact isFinite_ofRatio den.ne' small negative

/-- A whole number is finite: without a fraction it stays as it is, and with one it is small. -/
theorem isFinite_roundHalfAway {x : Binary64} (finite : x.isFinite = true) :
    x.roundHalfAway.isFinite = true := by
  cases x with
  | nan | infinity => cases finite
  | finite negative m e canonical =>
    rw [roundHalfAway]
    split
    · rfl
    · have bits : m < 2 ^ 53 := canonical.1
      have unit : 0 < Nat.pow 2 (-e).toNat := Nat.pow_pos (by decide)
      have quotient : (2 * m + Nat.pow 2 (-e).toNat) / (2 * Nat.pow 2 (-e).toNat) ≤ 2 ^ 53 := by
        refine Nat.div_le_of_le_mul ?_
        nlinarith
      refine isFinite_ofRatio (by decide) ?_ negative
      calc _ ≤ ((2 ^ 53 : Nat) : ℚ) := by
            rw [Nat.cast_one, div_one]
            exact_mod_cast quotient
        _ = 2 ^ (53 : Int) := by norm_num
        _ < 2 ^ (1023 : Int) := zpow_lt_zpow_right₀ (by norm_num) (by decide)

/-- A hundredth of a finite number is finite. -/
theorem isFinite_div_hundred {x : Binary64} (finite : x.isFinite = true) :
    (x.div (ofInt 100)).isFinite = true := by
  cases x with
  | nan | infinity => cases finite
  | finite negative m e canonical =>
    have hundred : ofInt 100 = .finite false (100 * 2 ^ 46) (-46) (by decide) := by decide +kernel
    rw [hundred]
    refine isFinite_ofScaled (by decide) ?_ _
    have bits : m < 2 ^ 53 := canonical.1
    have greatest := canonical.2.2.1
    have power : (2 : ℚ) ^ (e - -46) ≤ 2 ^ (1017 : Int) :=
      zpow_le_zpow_right₀ (by norm_num) (by omega)
    have quotient : (m : ℚ) / (100 * 2 ^ 46 : Nat) ≤ 2 ^ (1 : Int) := by
      have : m ≤ 2 * (100 * 2 ^ 46) := by omega
      rw [div_le_iff₀ (by norm_num), zpow_one]
      exact_mod_cast this
    calc (m : ℚ) / (100 * 2 ^ 46 : Nat) * 2 ^ (e - -46)
        ≤ 2 ^ (1 : Int) * 2 ^ (1017 : Int) := by gcongr
      _ = 2 ^ (1018 : Int) := (zpow_add₀ (by norm_num) 1 1017).symm
      _ < 2 ^ (1023 : Int) := zpow_lt_zpow_right₀ (by norm_num) (by decide)

end Binary64

theorem isFinite_roundToCents {x : Binary64} (finite : x.isFinite = true) :
    (roundToCents x).isFinite = true := by
  rw [roundToCents]
  split
  · next scaled => exact Binary64.isFinite_div_hundred (Binary64.isFinite_roundHalfAway scaled)
  · exact finite

theorem isFinite_of_toFloat {dataType : DataType} {input : Input} {x : Binary64}
    (h : input.toFloat dataType = .ok x) : x.isFinite = true := by
  have checked {y : Binary64} {e : ConversionError}
      (h : (if y.isFinite = true then .ok y else .error e) = Except.ok x) : x.isFinite = true := by
    split at h
    · next finite =>
      obtain rfl := Except.ok.inj h
      exact finite
    · cases h
  cases input with
  | float | int | bool => exact checked h
  | str s =>
    rw [Input.toFloat] at h
    split at h
    · exact checked h
    · cases h
  | null | date | dateTime => cases h

/-- **A converted number is finite.** -/
theorem isFinite_of_convert {dataType : DataType} {input : Input} {x : Binary64}
    (h : convert dataType input = .ok (some (.float x))) : x.isFinite = true := by
  obtain rfl : dataType = .float := (dataType_of_convert h).symm
  rw [convert] at h
  split at h
  · cases h
  · split at h
    · cases h
      rfl
    · obtain ⟨y, converted, same⟩ := map_eq_ok_iff.mp h
      cases same
      exact isFinite_roundToCents (isFinite_of_toFloat converted)

end StarSchema
