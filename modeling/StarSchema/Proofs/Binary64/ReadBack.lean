import StarSchema.Proofs.Binary64.Literal
import StarSchema.Proofs.Binary64.Rounding

/-!
# A printed number reads back

The SQL literal of a finite number denotes a decimal that rounds to that number, so reading the
literal gives the number again.

Main definition: `Binary64.Decimal.round`.

Main result: `Binary64.decimal?_sqlLiteral?`.
-/

namespace StarSchema.Binary64

/-! ### Rounding decimals -/

/-- The double nearest to a decimal. -/
def Decimal.round (negative : Bool) (d : Decimal) : Binary64 :=
  ofDecimal negative d.digits d.exponent

theorem length_toDigits_scale {n : Nat} (hn : n ≠ 0) (count : Nat) :
    (Nat.toDigits 10 (n * 10 ^ count)).length = (Nat.toDigits 10 n).length + count := by
  induction count with
  | zero => simp
  | succ count ih =>
    have shift := Nat.toDigits_append_toDigits (b := 10) (n := n * 10 ^ count) (d := 0)
      (by decide) (by positivity) (by decide)
    have next : n * 10 ^ (count + 1) = 10 * (n * 10 ^ count) + 0 := by ring
    rw [next, ← shift, List.length_append, ih]
    rfl

/-- The ratio of a decimal is the same with more zeros at the end of its digits. -/
theorem ofRatio_inUnits_scale (negative : Bool) (digits count : Nat) (exponent : Int) :
    ofRatio negative (inUnits 10 (digits * 10 ^ count) 1 (-(exponent - count))).1
        (inUnits 10 (digits * 10 ^ count) 1 (-(exponent - count))).2 =
      ofRatio negative (inUnits 10 digits 1 (-exponent)).1
        (inUnits 10 digits 1 (-exponent)).2 := by
  have pos (k : Nat) (e : Int) : (inUnits 10 k 1 e).2 ≠ 0 :=
    (inUnits_den_pos (by decide) k (by decide) e).ne'
  refine ofRatio_congr (pos _ _) (pos _ _) ?_ negative
  have scaled := inUnits_ratio (by decide : 0 < 10) (digits * 10 ^ count) 1 (-(exponent - count))
  have plain := inUnits_ratio (by decide : 0 < 10) digits 1 (-exponent)
  have power : ((10 : Nat) : ℚ) ^ (-(exponent - count)) =
      ((10 : Nat) : ℚ) ^ (-exponent) * 10 ^ count := by
    rw [← zpow_natCast, Nat.cast_ofNat, ← zpow_add₀ (by norm_num)]
    congr 1
    ring
  have same : (((digits * 10 ^ count : Nat) : ℚ) / (1 : Nat)) / ((10 : Nat) : ℚ) ^
      (-(exponent - count)) = (digits : ℚ) / (1 : Nat) / ((10 : Nat) : ℚ) ^ (-exponent) := by
    rw [power]
    push_cast
    field_simp
  rw [same, ← plain, div_eq_div_iff (by exact_mod_cast pos _ _) (by exact_mod_cast pos _ _)]
    at scaled
  exact_mod_cast scaled

/-- Zeros at the end of a decimal do not change what it rounds to. -/
theorem Decimal.round_scale (negative : Bool) (d : Decimal) (count : Nat) :
    (d.scale count).round negative = d.round negative := by
  obtain ⟨digits, exponent⟩ := d
  by_cases zero : digits = 0
  · simp [Decimal.round, scale, ofDecimal, zero]
  · have nonzero : digits * 10 ^ count ≠ 0 := by positivity
    have magnitude : ((Nat.toDigits 10 (digits * 10 ^ count)).length : Int) + (exponent - count) =
        (Nat.toDigits 10 digits).length + exponent := by
      rw [length_toDigits_scale zero]
      push_cast
      ring
    unfold Decimal.round scale ofDecimal
    rw [if_neg nonzero, if_neg zero]
    simp only [magnitude, ofRatio_inUnits_scale]

/-- A decimal without the zeros at its end is the same number. -/
theorem Decimal.exists_scale_strip (d : Decimal) : ∃ count, d = d.strip.scale count := by
  suffices go : ∀ k (d : Decimal), ∃ count, d = (strip.go k d).scale count from go _ d
  intro k
  induction k with
  | zero =>
    intro d
    exact ⟨0, d.scale_zero.symm⟩
  | succ k ih =>
    intro d
    unfold strip.go
    split_ifs with zero
    · obtain ⟨count, h⟩ := ih ⟨d.digits / 10, d.exponent + 1⟩
      refine ⟨count + 1, ?_⟩
      rw [← scale_scale, ← h]
      obtain ⟨digits, exponent⟩ := d
      simp only [scale, Nat.pow_one, Decimal.mk.injEq] at zero ⊢
      omega
    · exact ⟨0, d.scale_zero.symm⟩

theorem Decimal.round_strip (negative : Bool) (d : Decimal) :
    d.strip.round negative = d.round negative := by
  obtain ⟨count, h⟩ := d.exists_scale_strip
  rw [h, round_scale, ← h]

/-- A double with another sign. -/
def withSign (negative : Bool) : Binary64 → Binary64
  | .nan => .nan
  | .infinity _ => .infinity negative
  | .finite _ m e canonical => .finite negative m e canonical

theorem ofRatio_sign (negative : Bool) (num den : Nat) :
    ofRatio negative num den = (ofRatio false num den).withSign negative := by
  unfold ofRatio
  dsimp only
  split_ifs <;> rfl

/-- The sign takes no part in rounding. -/
theorem Decimal.round_sign (negative : Bool) (d : Decimal) :
    d.round negative = (d.round false).withSign negative := by
  unfold Decimal.round ofDecimal
  dsimp only
  split_ifs
  · rfl
  · rfl
  · rfl
  · exact ofRatio_sign _ _ _

/-! ### The shortest decimal -/

/-- A decimal whose value is a double rounds to it, as far as its digits are in reach. -/
theorem Decimal.round_of_value {d : Decimal} {m : Nat} {e : Int} (canonical : Canonical m e)
    (hm : m ≠ 0) (low : -326 ≤ ((Nat.toDigits 10 d.digits).length : Int) + d.exponent)
    (high : ((Nat.toDigits 10 d.digits).length : Int) + d.exponent ≤ 310)
    (value : (d.digits : ℚ) * 10 ^ d.exponent = m * 2 ^ e) :
    d.round false = .finite false m e canonical := by
  have nonzero : d.digits ≠ 0 := by
    intro zero
    have : (m : ℚ) * 2 ^ e ≠ 0 := by positivity
    simp [← value, zero] at this
  unfold Decimal.round ofDecimal
  rw [if_neg nonzero]
  dsimp only
  rw [if_neg (by omega), if_neg (by omega)]
  refine ofRatio_of_canonical canonical hm (inUnits_den_pos (by decide) _ (by decide) _).ne' ?_ _
  rw [inUnits_ratio (by decide), ← value, zpow_neg]
  simp

theorem length_toDigits_le {n k : Nat} (hk : 0 < k) (h : n < 10 ^ k) :
    (Nat.toDigits 10 n).length ≤ k :=
  (Nat.length_toDigits_le_iff (by decide) hk).mpr h

/-! The bounds are stated for any exponents, since those of the format are too large to write
out. -/

theorem ten_pow_le {a b j : Nat} (h : 2 ^ a ≤ 5 ^ b) (hj : j ≤ a) : 10 ^ j ≤ 5 ^ (j + b) := by
  calc 10 ^ j = 2 ^ j * 5 ^ j := by rw [← Nat.mul_pow]
    _ ≤ 2 ^ a * 5 ^ j := Nat.mul_le_mul_right _ (Nat.pow_le_pow_right (by decide) hj)
    _ ≤ 5 ^ b * 5 ^ j := Nat.mul_le_mul_right _ h
    _ = 5 ^ (j + b) := by rw [Nat.pow_add, Nat.mul_comm]

theorem mul_two_pow_lt {a b c m k : Nat} (h : 2 ^ a * 2 ^ b < 10 ^ c) (hm : m < 2 ^ a)
    (hk : k ≤ b) : m * 2 ^ k < 10 ^ c := by
  calc m * 2 ^ k ≤ m * 2 ^ b := Nat.mul_le_mul_left _ (Nat.pow_le_pow_right (by decide) hk)
    _ ≤ 2 ^ a * 2 ^ b := Nat.mul_le_mul_right _ hm.le
    _ < 10 ^ c := h

theorem mul_five_pow_lt {a c m : Nat} (h : 2 ^ a < 10 ^ c) (hm : m < 2 ^ a) (k : Nat) :
    m * 5 ^ k < 10 ^ (c + k) := by
  calc m * 5 ^ k ≤ m * 10 ^ k := Nat.mul_le_mul_left _ (Nat.pow_le_pow_left (by decide) _)
    _ < 10 ^ c * 10 ^ k := Nat.mul_lt_mul_of_pos_right (hm.trans h) (by positivity)
    _ = 10 ^ (c + k) := (Nat.pow_add _ _ _).symm

/-- A power of five has at least as many digits as its decimal places allow for. -/
theorem le_length_toDigits {m k : Nat} (hm : 0 < m) (hk : k ≤ 1074) :
    k ≤ (Nat.toDigits 10 (m * 5 ^ k)).length + 326 := by
  by_contra short
  obtain ⟨j, rfl⟩ : ∃ j, k = j + 327 := ⟨k - 327, by omega⟩
  have positive : 0 < (Nat.toDigits 10 (m * 5 ^ (j + 327))).length := Nat.length_toDigits_pos
  have small : m * 5 ^ (j + 327) < 10 ^ j :=
    (Nat.length_toDigits_le_iff (by decide) (by omega)).mp (by omega)
  have large : 10 ^ j ≤ 5 ^ (j + 327) := ten_pow_le (a := 747) (by decide +kernel) (by omega)
  have : 5 ^ (j + 327) ≤ m * 5 ^ (j + 327) := Nat.le_mul_of_pos_left _ hm
  omega

/-- All digits of a double are in reach. -/
theorem round_exactDecimal {m : Nat} {e : Int} (canonical : Canonical m e) (hm : m ≠ 0) :
    (exactDecimal m e).round false = .finite false m e canonical := by
  have ⟨bits, least, greatest, _⟩ := canonical
  rw [Nat.pow_eq] at bits
  unfold exactDecimal
  split_ifs with whole
  · obtain ⟨k, rfl⟩ := Int.eq_ofNat_of_zero_le whole
    have small : m * 2 ^ k < 10 ^ 310 :=
      mul_two_pow_lt (b := 971) (by decide +kernel) bits (by omega)
    have length := length_toDigits_le (by decide) small
    refine Decimal.round_of_value canonical hm ?_ ?_ ?_
    · simp only [Int.toNat_natCast, Nat.pow_eq]
      omega
    · simp only [Int.toNat_natCast, Nat.pow_eq]
      omega
    · simp
  · obtain ⟨k, rfl⟩ : ∃ k : Nat, e = -k := ⟨(-e).toNat, by omega⟩
    have small : m * 5 ^ k < 10 ^ (310 + k) := mul_five_pow_lt (by decide +kernel) bits k
    have longest := length_toDigits_le (by omega) small
    have shortest := le_length_toDigits (m := m) (k := k) (by omega) (by omega)
    refine Decimal.round_of_value canonical hm ?_ ?_ ?_
    · simp only [Int.neg_neg, Int.toNat_natCast, Nat.pow_eq]
      omega
    · simp only [Int.neg_neg, Int.toNat_natCast, Nat.pow_eq]
      omega
    · have ten : (10 : ℚ) ^ k = 2 ^ k * 5 ^ k := by
        rw [← mul_pow]
        norm_num
      simp only [Int.neg_neg, Int.toNat_natCast, Nat.pow_eq, zpow_neg, zpow_natCast, ten]
      push_cast
      field_simp

theorem round_shortest (tie : Tie) {m : Nat} {e : Int} (canonical : Canonical m e) (hm : m ≠ 0) :
    (shortest tie m e).round false = .finite false m e canonical := by
  have self : ofRatio false (inUnits 2 m 1 (-e)).1 (inUnits 2 m 1 (-e)).2 =
      .finite false m e canonical := by
    refine ofRatio_of_canonical canonical hm (inUnits_den_pos (by decide) m (by decide) _).ne' ?_ _
    rw [inUnits_ratio (by decide), zpow_neg]
    simp
  unfold shortest
  rw [if_neg hm]
  dsimp only
  rw [Decimal.round_strip, self]
  cases found : List.findSome? _ (List.range 17) with
  | none => exact round_exactDecimal canonical hm
  | some d =>
    obtain ⟨count, -, hcount⟩ := List.exists_of_findSome?_eq_some found
    obtain ⟨k, hk, rfl⟩ := Option.map_eq_some_iff.mp hcount
    simpa [Decimal.round] using List.find?_some hk

/-! ### Reading the text -/

theorem splitSign_signText (negative : Bool) (t : NumberText) :
    Numeral.splitSign (signText negative ++ t.text) = (negative, t.text) := by
  obtain ⟨c, s, text, hc⟩ := t.exists_text_eq_cons
  rw [text]
  cases negative with
  | true => rfl
  | false => exact Numeral.splitSign_of_isDigit hc s

/-- The parts of a number are read for the decimal that they denote. -/
theorem unsigned?_text (negative : Bool) (t : NumberText) :
    Numeral.unsigned? negative t.text = some (t.decimal.round negative) := by
  have whole : ∀ c ∈ t.whole, c.isDigit = true := fun c hc =>
    t.isDigit c (List.mem_append_left _ hc)
  have atEnd : ∀ c, ([] : List Char).head? = some c → c.isDigit = false := by simp
  have afterWhole := t.placesText_stops atEnd
  have afterPlaces := t.powerText_stops atEnd
  rw [List.append_nil] at afterWhole afterPlaces
  have places : Numeral.fraction (t.placesText ++ t.powerText) =
      (t.places?.getD [], t.powerText) := by
    have isDigit := t.isDigit
    unfold NumberText.placesText
    cases found : t.places? with
    | some ds =>
      rw [found] at isDigit
      exact Numeral.spanDigits_append
        (fun c hc => isDigit c (List.mem_append_right _ hc)) afterPlaces
    | none =>
      unfold NumberText.powerText
      cases t.power? <;> rfl
  have power : Numeral.powerOfTen? t.powerText = some (t.power?.getD 0) := by
    unfold NumberText.powerText
    cases t.power? with
    | none => rfl
    | some power => exact Numeral.powerOfTen?_ofInt power
  have nonempty : t.whole.isEmpty = false := List.isEmpty_eq_false_iff.mpr t.whole_ne
  rw [Numeral.unsigned?, NumberText.text, List.append_assoc,
    Numeral.spanDigits_append whole afterWhole]
  dsimp only
  rw [places]
  dsimp only
  rw [power, nonempty]
  rfl

/-- **A printed number reads back.** -/
theorem decimal?_sqlLiteral? {x : Binary64} {s : List Char} (h : x.sqlLiteral? = some s) :
    Numeral.decimal? s = some x := by
  cases x with
  | nan | infinity => cases h
  | finite negative m e canonical =>
    cases h
    by_cases hm : m = 0
    · have least : e = -1074 := by
        obtain ⟨-, -, -, leading | least⟩ := canonical
        · rw [hm] at leading
          cases leading
        · exact least
      subst hm least
      cases negative <;> rfl
    · obtain ⟨t, count, text, value⟩ := Decimal.exists_numberText (shortest .toEven m e)
      rw [if_neg hm, ← text, Numeral.decimal?, splitSign_signText]
      dsimp only
      rw [unsigned?_text, value, Decimal.round_scale, Decimal.round_sign,
        round_shortest .toEven canonical hm]
      rfl

theorem Decimal.point_mem_plain {d : Decimal} (h : d.exponent < 0) : '.' ∈ d.plain := by
  rw [Decimal.plain, if_neg (Int.not_le.mpr h)]
  dsimp only
  split <;> simp

/-- A literal has a point or a power of ten. -/
theorem Decimal.exists_not_isDigit_literal (d : Decimal) : ∃ c ∈ d.literal, c.isDigit = false := by
  have positive : 0 < (digitText d.digits).length := Nat.length_toDigits_pos
  unfold Decimal.literal
  dsimp only
  split_ifs with ordinary whole small
  · exact ⟨'.', by simp, rfl⟩
  · exact ⟨'.', d.point_mem_plain (Int.not_le.mp whole), rfl⟩
  · exact ⟨'.', d.point_mem_plain (by omega), rfl⟩
  · exact ⟨'e', by simp, rfl⟩

/-- The literal of a number is never that of an integer. -/
theorem integer?_sqlLiteral? {x : Binary64} {s : List Char} (h : x.sqlLiteral? = some s) :
    Numeral.integer? s = none := by
  cases x with
  | nan | infinity => cases h
  | finite negative m e canonical =>
    cases h
    split_ifs
    · exact Numeral.integer?_eq_none (splitSign_signText negative
        ⟨['0'], some ['0'], none, by decide, by simp⟩)
        (List.mem_cons_of_mem _ List.mem_cons_self) rfl
    · obtain ⟨t, count, text, -⟩ := Decimal.exists_numberText (shortest .toEven m e)
      obtain ⟨c, hc, other⟩ := (shortest .toEven m e).exists_not_isDigit_literal
      rw [← text] at hc ⊢
      exact Numeral.integer?_eq_none (splitSign_signText negative t) hc other

end StarSchema.Binary64
