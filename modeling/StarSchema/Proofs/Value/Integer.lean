import StarSchema.Proofs.Value.Amount

/-!
# Integers of inputs

Which inputs are brought to the integer part of the number that they denote, or refused if it has
more than 64 bits, and which are not. Numerals that are no 64-bit integers are read as doubles, so
that low digits are lost beyond 53 bits; and the range is checked against a bound that is `2 ^ 63`,
so that what rounds to it becomes the integer next to it.

Main definitions: `Input.IsExact`, `Binary64.value`.

Main results: `Amount.isExact_iff`, `Amount.isExact_of_digits_lt`, `Binary64.isExact_float_iff`,
`convert_int_exact`.
-/

namespace StarSchema

open Binary64 (signText)

/-- The input is brought to the integer part of a number, or refused if that has more than 64
bits. -/
structure Input.IsExact (input : Input) (q : ℚ) : Prop where
  value : ∀ n : Int64, n.toInt = integerPart q → convert .int input = .ok (some (.int n))
  refused : (∀ n : Int64, n.toInt ≠ integerPart q) → ∃ e, convert .int input = .error e

/-- The number that a finite double is. -/
def Binary64.value : Binary64 → ℚ
  | .finite negative m e _ => if negative then -(m * 2 ^ e) else m * 2 ^ e
  | _ => 0

/-! ### Integers of 64 bits -/

theorem minInt64_eq : minInt64 = -2 ^ 63 := rfl

theorem maxInt64_eq : maxInt64 = 2 ^ 63 - 1 := rfl

theorem toInt_ofInt {i : Int} (low : minInt64 ≤ i) (high : i ≤ maxInt64) :
    (Int64.ofInt i).toInt = i := by
  rw [maxInt64_eq] at high
  exact Int64.toInt_ofInt_of_le low (by omega)

/-- The integer of 64 bits that stands for a whole number, unless it is out of range. The upper
bound of the range is one too high, and stands for the integer below it. -/
def clamp? (whole : Int) : Option Int64 :=
  if whole < minInt64 ∨ maxInt64 + 1 < whole then none
  else some (Int64.ofInt (min whole maxInt64))

theorem clamp?_eq_none_iff {whole : Int} :
    clamp? whole = none ↔ whole < minInt64 ∨ maxInt64 + 1 < whole := by
  rw [clamp?]
  split <;> simp_all

theorem clamp?_eq_some_iff {whole : Int} {n : Int64} :
    clamp? whole = some n ↔
      minInt64 ≤ whole ∧ whole ≤ maxInt64 + 1 ∧ n.toInt = min whole maxInt64 := by
  have bound : minInt64 ≤ maxInt64 := by decide
  rw [clamp?]
  split
  · simp only [reduceCtorEq, false_iff]
    omega
  · have value := toInt_ofInt (i := min whole maxInt64) (by omega) (by omega)
    rw [Option.some.injEq, ← Int64.toInt_inj, value]
    omega

namespace Input

variable {input : Input} {q : ℚ} {x : Binary64}

theorem convert_int_of_toInt (present : input.isNull = false) (filled : input.isBlank = false) :
    convert .int input = input.toInt.map (some ∘ .int) := by
  rw [convert, present, filled]
  rfl

/-- An input that is read as a double stands for the integer part of that, if for anything. -/
theorem convert_int_of_toFloat (present : input.isNull = false) (filled : input.isBlank = false)
    (byFloat : input.toInt = input.toIntByFloat) (h : input.toFloat .int = .ok x) :
    convert .int input =
      match clamp? x.truncate with
      | some n => .ok (some (.int n))
      | none => .error ⟨.int, input.text, .outOfRange⟩ := by
  rw [convert_int_of_toInt present filled, byFloat, toIntByFloat, h, clamp?]
  by_cases outside : x.truncate < minInt64 ∨ maxInt64 + 1 < x.truncate
  · rw [if_pos outside]
    exact congrArg _ (if_pos outside)
  · rw [if_neg outside]
    exact congrArg _ (if_neg outside)

/-- Such an input is exact just if it stands for the integer part, and for no other integer. -/
theorem isExact_iff_of_toFloat (present : input.isNull = false) (filled : input.isBlank = false)
    (byFloat : input.toInt = input.toIntByFloat) (h : input.toFloat .int = .ok x) :
    input.IsExact q ↔
      if minInt64 ≤ integerPart q ∧ integerPart q ≤ maxInt64 then
        minInt64 ≤ x.truncate ∧ x.truncate ≤ maxInt64 + 1 ∧
          min x.truncate maxInt64 = integerPart q
      else x.truncate < minInt64 ∨ maxInt64 + 1 < x.truncate := by
  replace h := convert_int_of_toFloat present filled byFloat h
  split_ifs with fits
  · have value := toInt_ofInt fits.1 fits.2
    rw [eq_comm (b := integerPart q), ← value, ← clamp?_eq_some_iff]
    constructor
    · intro exact_
      rw [exact_.value _ value] at h
      cases clamped : clamp? x.truncate with
      | none =>
        rw [clamped] at h
        cases h
      | some n =>
        rw [clamped] at h
        cases h
        rfl
    · intro clamped
      rw [clamped] at h
      refine ⟨fun n same => ?_, fun none => absurd value (none _)⟩
      rw [h, Int64.toInt_inj.mp (same.trans value.symm)]
  · have none (n : Int64) : n.toInt ≠ integerPart q := fun same =>
      fits (same ▸ ⟨Int64.minValue_le_toInt n, Int64.toInt_le n⟩)
    rw [← clamp?_eq_none_iff]
    constructor
    · intro exact_
      obtain ⟨e', refused⟩ := exact_.refused none
      rw [refused] at h
      cases clamped : clamp? x.truncate with
      | none => rfl
      | some n =>
        rw [clamped] at h
        cases h
    · intro clamped
      rw [clamped] at h
      exact ⟨fun n same => absurd same (none n), fun _ => ⟨_, h⟩⟩

/-- An input that is refused is exact just if the integer part is out of range. -/
theorem isExact_iff_of_error {e : ConversionError} (h : convert .int input = .error e) :
    input.IsExact q ↔ ¬(minInt64 ≤ integerPart q ∧ integerPart q ≤ maxInt64) := by
  constructor
  · intro exact_ fits
    rw [exact_.value _ (toInt_ofInt fits.1 fits.2)] at h
    cases h
  · intro outside
    refine ⟨fun n same => absurd ?_ outside, fun _ => ⟨e, h⟩⟩
    rw [← same]
    exact ⟨Int64.minValue_le_toInt n, Int64.toInt_le n⟩

/-- An input that has a value of 64 bits is exact if the value is the integer part. -/
theorem isExact_of_ok {n : Int64} (h : convert .int input = .ok (some (.int n)))
    (value : n.toInt = integerPart q) : input.IsExact q where
  value n' same := by rw [h, Int64.toInt_inj.mp (same.trans value.symm)]
  refused none := absurd value (none n)

end Input

/-! ### Amounts -/

namespace Amount

variable {a : Amount} {s : String} {r : ℚ}

theorem toInt_eq (h : a.IsWrittenAs s) :
    (Input.str s).toInt =
      match Numeral.integer? (signText a.negative ++ a.number.text) with
      | some n => .ok n
      | none => (Input.str s).toIntByFloat := by
  rw [← plainNumeral_eq h]
  rfl

theorem toFloat_eq (h : a.IsWrittenAs s) (dataType : DataType) :
    (Input.str s).toFloat dataType =
      if (a.number.decimal.round a.negative).isFinite then
        .ok (a.number.decimal.round a.negative)
      else .error ⟨dataType, s, .notFinite⟩ := by
  rw [Input.toFloat, plainNumeral_eq h, decimal?_eq]
  rfl

/-- What a rounded magnitude stands for, compared with what it should. -/
theorem clamp_iff (rounds : Binary64.Rounds a.magnitude r) :
    (let whole : Int := if a.negative then -(⌊r⌋₊ : Int) else ⌊r⌋₊
      if minInt64 ≤ integerPart a.value ∧ integerPart a.value ≤ maxInt64 then
        minInt64 ≤ whole ∧ whole ≤ maxInt64 + 1 ∧ min whole maxInt64 = integerPart a.value
      else whole < minInt64 ∨ maxInt64 + 1 < whole) ↔
      if minInt64 ≤ integerPart a.value ∧ integerPart a.value ≤ maxInt64 then
        ⌊r⌋₊ = ⌊a.magnitude⌋₊ ∨ integerPart a.value = maxInt64
      else 2 ^ 63 + 2 ^ 10 < a.magnitude := by
  have within : ⌊a.magnitude⌋₊ ≤ 2 ^ 63 → ⌊r⌋₊ ≤ 2 ^ 63 := by
    intro small
    have := (Nat.floor_lt a.magnitude_nonneg).mp (Nat.lt_succ_of_le small)
    push_cast at this
    exact rounds.floor_le_iff.mpr (by linarith)
  have top : 2 ^ 63 - 1 ≤ ⌊a.magnitude⌋₊ → 2 ^ 63 ≤ ⌊r⌋₊ := by
    intro large
    have := (Nat.le_floor_iff a.magnitude_nonneg).mp large
    exact rounds.le_floor (by push_cast at this; linarith)
  have beyond : 2 ^ 63 + 2 ^ 10 < a.magnitude ↔ 2 ^ 63 < ⌊r⌋₊ := by
    rw [← not_le, ← rounds.floor_le_iff, not_le]
  rw [integerPart_value, beyond, minInt64_eq, maxInt64_eq]
  generalize ⌊a.magnitude⌋₊ = v at within top
  generalize ⌊r⌋₊ = w at within top
  cases a.negative with
  | false =>
    simp only [Bool.false_eq_true, if_false]
    split_ifs <;> omega
  | true =>
    simp only [if_true]
    split_ifs <;> omega

/-- A numeral that is read as a double is exact just if rounding does not move it past a whole
number, and out of range just if rounding does not bring it back to the bound. -/
theorem isExact_iff_of_integer?_eq_none (h : a.IsWrittenAs s)
    (rounds : Binary64.Rounds a.magnitude r)
    (none : Numeral.integer? (signText a.negative ++ a.number.text) = none) :
    (Input.str s).IsExact a.value ↔
      if minInt64 ≤ integerPart a.value ∧ integerPart a.value ≤ maxInt64 then
        ⌊r⌋₊ = ⌊a.magnitude⌋₊ ∨ integerPart a.value = maxInt64
      else 2 ^ 63 + 2 ^ 10 < a.magnitude := by
  have filled := isBlank_eq_false h
  have byFloat := toInt_eq h
  have float := toFloat_eq h .int
  rw [none] at byFloat
  rcases Binary64.Decimal.round_cases rounds a.negative with holds | ⟨infinite, large⟩
  · rw [if_pos (Binary64.isFinite_of_holds holds)] at float
    rw [← clamp_iff rounds, ← Binary64.truncate_of_holds holds]
    exact Input.isExact_iff_of_toFloat rfl filled byFloat float
  · rw [infinite] at float
    have refused : convert .int (.str s) = .error ⟨.int, s, .notFinite⟩ := by
      rw [Input.convert_int_of_toInt rfl filled, byFloat, Input.toIntByFloat, float]
      rfl
    have beyond : 2 ^ 63 + 2 ^ 10 < a.magnitude :=
      calc (2 : ℚ) ^ 63 + 2 ^ 10 < 2 ^ (64 : Int) := by norm_num
        _ ≤ 2 ^ (1023 : Int) := zpow_le_zpow_right₀ (by norm_num) (by decide)
        _ ≤ a.magnitude := large
    have outside : ¬(minInt64 ≤ integerPart a.value ∧ integerPart a.value ≤ maxInt64) := by
      have : 2 ^ 63 + 2 ^ 10 ≤ ⌊a.magnitude⌋₊ :=
        Nat.le_floor (by exact_mod_cast beyond.le)
      rw [integerPart_value, minInt64_eq, maxInt64_eq]
      split <;> omega
    rw [if_neg outside, Input.isExact_iff_of_error refused]
    exact iff_of_true outside beyond

/-- **Amounts that are converted exactly**: those without a point that are in range; those with a
point whose integer part rounding does not change, or changes from the greatest integer; and those
out of range that do not round to the bound. -/
theorem isExact_iff (h : a.IsWrittenAs s) (rounds : Binary64.Rounds a.magnitude r) :
    (Input.str s).IsExact a.value ↔
      if minInt64 ≤ integerPart a.value ∧ integerPart a.value ≤ maxInt64 then
        a.number.places? = none ∨ ⌊r⌋₊ = ⌊a.magnitude⌋₊ ∨ integerPart a.value = maxInt64
      else 2 ^ 63 + 2 ^ 10 < a.magnitude := by
  cases places : a.number.places? with
  | some ds =>
    rw [isExact_iff_of_integer?_eq_none h rounds (integer?_of_point places)]
    simp only [reduceCtorEq, false_or]
  | none =>
    have read := integer?_of_whole places
    by_cases fits : minInt64 ≤ integerPart a.value ∧ integerPart a.value ≤ maxInt64
    · rw [if_pos fits] at read ⊢
      have exact_ := toInt_eq h
      rw [read] at exact_
      refine iff_of_true (Input.isExact_of_ok ?_ (toInt_ofInt fits.1 fits.2)) (.inl rfl)
      rw [Input.convert_int_of_toInt rfl (isBlank_eq_false h), exact_]
      rfl
    · rw [if_neg fits] at read
      rw [isExact_iff_of_integer?_eq_none h rounds read, if_neg fits, if_neg fits]

theorem exists_rounds (a : Amount) : ∃ r, Binary64.Rounds a.magnitude r := by
  rw [magnitude, Binary64.Decimal.value_eq_div]
  exact Binary64.exists_rounds _ (inUnits_den_pos (by decide) _ (by decide) _).ne'

/-- Amounts whose digits are a number of 53 bits are converted exactly. -/
theorem isExact_of_digits_lt (h : a.IsWrittenAs s) (bits : a.number.decimal.digits < 2 ^ 53) :
    (Input.str s).IsExact a.value := by
  have ratio := a.number.decimal.value_eq_div
  have den := inUnits_den_pos (by decide : 0 < 10) a.number.decimal.digits (by decide : 0 < 1)
    (-a.number.decimal.exponent)
  have num : (inUnits 10 a.number.decimal.digits 1 (-a.number.decimal.exponent)).1 < 2 ^ 53 := by
    have places : (-(-a.number.decimal.exponent)).toNat = 0 := by
      rw [Binary64.NumberText.decimal, a.power?_eq]
      simp
    rw [inUnits, places]
    simpa using bits
  obtain ⟨r, rounds⟩ := Binary64.exists_rounds _ den.ne'
  have floor := Binary64.Rounds.floor_eq den rounds num
  have same : ⌊a.magnitude⌋₊ = ⌊r⌋₊ := by
    rw [magnitude, ratio, Nat.floor_div_eq_div, floor]
  have small : ⌊a.magnitude⌋₊ < 2 ^ 53 := by
    rw [same, floor]
    exact (Nat.div_le_self _ _).trans_lt num
  rw [← ratio] at rounds
  have fits : minInt64 ≤ integerPart a.value ∧ integerPart a.value ≤ maxInt64 := by
    rw [integerPart_value, minInt64_eq, maxInt64_eq]
    split <;> omega
  rw [isExact_iff h rounds, if_pos fits]
  exact .inr (.inl same.symm)

end Amount

/-! ### Doubles -/

namespace Binary64

theorem truncate_eq_integerPart {x : Binary64} (finite : x.isFinite = true) :
    x.truncate = integerPart x.value := by
  cases x with
  | nan | infinity => cases finite
  | finite negative m e canonical =>
    rw [truncate_of_holds ⟨m, e, canonical, rfl, rfl⟩, value, integerPart_signed]
    positivity

/-- A double has `2 ^ 63` for its integer part just if it is that, since it is then a whole
number. -/
theorem integerPart_value_eq_iff (x : Binary64) :
    integerPart x.value = 2 ^ 63 ↔ x.value = 2 ^ 63 := by
  constructor
  · intro bound
    cases x with
    | nan | infinity => cases bound
    | finite negative m e canonical =>
      rw [value, integerPart_signed _ (by positivity)] at bound
      cases negative with
      | true =>
        rw [if_pos rfl] at bound
        omega
      | false =>
        rw [if_neg Bool.false_ne_true] at bound
        have floor : ⌊(m : ℚ) * 2 ^ e⌋₊ = 2 ^ 63 := by exact_mod_cast bound
        have bits : (m : ℚ) < 2 ^ 53 := by exact_mod_cast canonical.1
        have large : 0 ≤ e := by
          by_contra small
          have unit : (2 : ℚ) ^ e ≤ 1 := zpow_le_one_of_nonpos₀ (by norm_num) (by omega)
          have reached : (2 ^ 63 : ℚ) ≤ m * 2 ^ e := by
            exact_mod_cast floor ▸ Nat.floor_le (by positivity : (0 : ℚ) ≤ m * 2 ^ e)
          have : (m : ℚ) * 2 ^ e ≤ m := mul_le_of_le_one_right (by positivity) unit
          linarith
        obtain ⟨k, rfl⟩ := Int.eq_ofNat_of_zero_le large
        have whole : (m : ℚ) * 2 ^ (k : Int) = (m * 2 ^ k : Nat) := by push_cast; rfl
        rw [value, if_neg Bool.false_ne_true]
        rw [whole, Nat.floor_natCast] at floor
        rw [whole, floor]
        norm_num
  · intro bound
    have integer : (2 : ℚ) ^ 63 = (2 ^ 63 : Nat) := by norm_num
    rw [bound, integer, integerPart, if_neg (not_lt.mpr (Nat.cast_nonneg _)),
      Int.floor_natCast]
    rfl

/-- **Doubles that are converted exactly**: all but the bound of the range. -/
theorem isExact_float_iff {x : Binary64} (finite : x.isFinite = true) :
    (Input.float x).IsExact x.value ↔ x.value ≠ 2 ^ 63 := by
  have bound := x.integerPart_value_eq_iff
  by_cases zero : x.isZero = true
  · have nothing : x.value = 0 := by
      cases x with
      | nan | infinity => rfl
      | finite negative m e canonical =>
        rw [isZero, beq_iff_eq] at zero
        simp [value, zero]
    refine iff_of_true (Input.isExact_of_ok (n := 0) ?_ ?_) ?_
    · rw [convert, Input.isBlank, zero]
      rfl
    · rw [nothing]
      decide
    · rw [nothing]
      norm_num
  · have filled : (Input.float x).isBlank = false := Bool.eq_false_iff.mpr zero
    have float : (Input.float x).toFloat .int = .ok x := if_pos finite
    rw [Input.isExact_iff_of_toFloat rfl filled rfl float, truncate_eq_integerPart finite, ne_eq,
      ← bound, minInt64_eq, maxInt64_eq]
    split_ifs <;> omega

end Binary64

/-- **Integers are converted exactly or refused, save for the doubles.** An amount without a point
that is in range is; one with a point is unless rounding brings it past a whole number, and so
whenever its digits are a number of 53 bits; one out of range is unless it rounds to the bound; and
a double is unless it is the bound. -/
theorem convert_int_exact (a : Amount) (s : String) (x : Binary64) :
    (a.IsWrittenAs s →
      (∃ r, Binary64.Rounds a.magnitude r ∧
        ((Input.str s).IsExact a.value ↔
          if minInt64 ≤ integerPart a.value ∧ integerPart a.value ≤ maxInt64 then
            a.number.places? = none ∨ ⌊r⌋₊ = ⌊a.magnitude⌋₊ ∨ integerPart a.value = maxInt64
          else 2 ^ 63 + 2 ^ 10 < a.magnitude)) ∧
      (a.number.decimal.digits < 2 ^ 53 → (Input.str s).IsExact a.value)) ∧
    (x.isFinite = true → ((Input.float x).IsExact x.value ↔ x.value ≠ 2 ^ 63)) := by
  refine ⟨fun written => ⟨?_, Amount.isExact_of_digits_lt written⟩, Binary64.isExact_float_iff⟩
  obtain ⟨r, rounds⟩ := a.exists_rounds
  exact ⟨r, rounds, Amount.isExact_iff written rounds⟩

/-! ### Exact and inexact amounts -/

namespace Amount

/-- The integer next to the greatest one of 64 bits. -/
def beyond : Amount where
  negative := false
  number := ⟨"9223372036854775808".toList, none, none, by decide,
    List.all_eq_true.mp (by decide)⟩
  power?_eq := rfl

/-- A loss in a column of figures. -/
def loss : Amount where
  negative := true
  number := ⟨"1234".toList, some "56".toList, none, by decide,
    List.all_eq_true.mp (by decide)⟩
  power?_eq := rfl

end Amount

/-- A loss in parentheses is converted exactly. The number next to the greatest integer becomes
that integer, both as a numeral and as a double, and a numeral with a point loses its last digit. -/
theorem convert_int_exact_loss :
    convert .int (.str "($1,234.56)") = .ok (some (.int (-1234))) ∧
    ¬(Input.str "9223372036854775808").IsExact (2 ^ 63) ∧
    convert .int (.str "9223372036854775808") = .ok (some (.int Int64.maxValue)) ∧
    ¬(Input.float (.ofInt (2 ^ 63))).IsExact (2 ^ 63) ∧
    convert .int (.str "9007199254740993.0") = .ok (some (.int 9007199254740992)) := by
  obtain ⟨loss, double⟩ := convert_int_exact .loss "($1,234.56)" (.ofInt (2 ^ 63))
  obtain ⟨numeral, -⟩ := convert_int_exact .beyond "9223372036854775808" (.ofInt (2 ^ 63))
  refine ⟨?_, ?_, by decide +kernel, ?_, by decide +kernel⟩
  · have written : Amount.loss.IsWrittenAs "($1,234.56)" := by
      have body : Text.trim "($1,234.56)".toList = '(' :: ("$1,234.56".toList ++ [')']) := by
        decide +kernel
      refine .inParentheses rfl body ?_
      exact .insert (.inr (.inl rfl)) (.keep _ (.insert (.inl rfl)
        (.keep _ (.keep _ (.keep _ (.keep _ (.keep _ (.keep _ .nil))))))))
    refine ((loss written).2 (by decide +kernel)).value (-1234) ?_
    rw [Amount.integerPart_value, Amount.magnitude, Binary64.Decimal.value_eq_div,
      Nat.floor_div_eq_div]
    decide +kernel
  · have trimmed : Text.trim "9223372036854775808".toList =
        signText Amount.beyond.negative ++ Amount.beyond.number.text := by decide +kernel
    obtain ⟨⟨r, -, exact_iff⟩, -⟩ := numeral (.signed (trimmed ▸ .refl _))
    have digits : Numeral.natOfDigits Amount.beyond.number.whole = 2 ^ 63 := by decide +kernel
    have magnitude : Amount.beyond.magnitude = 2 ^ 63 := by
      rw [Amount.magnitude_of_places? rfl, digits]
      norm_num
    have whole : integerPart Amount.beyond.value = 2 ^ 63 := by
      rw [Amount.integerPart_value, Amount.magnitude_of_places? rfl, digits, Nat.floor_natCast]
      rfl
    rw [whole, if_neg (by decide), magnitude] at exact_iff
    have value : Amount.beyond.value = 2 ^ 63 := magnitude
    rw [value] at exact_iff
    rw [exact_iff]
    norm_num
  · have rounded : Binary64.ofInt (2 ^ 63) = .finite false (2 ^ 52) 11 (by decide) := by
      decide +kernel
    have bound : (Binary64.ofInt (2 ^ 63)).value = 2 ^ 63 := by
      rw [rounded, Binary64.value]
      norm_num
    have exact_iff := double (by decide +kernel)
    rw [bound] at exact_iff
    exact fun exact_ => exact_iff.mp exact_ rfl

end StarSchema
