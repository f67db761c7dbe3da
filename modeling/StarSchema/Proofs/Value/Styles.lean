import StarSchema.Proofs.Binary64.WholeNumbers
import StarSchema.Proofs.Value.Finite
import StarSchema.Proofs.Value.Grouped

/-!
# Amounts as they are shown

An amount is shown with two places, to which its magnitude is rounded, and with groups of three
digits before the point. A style adds a currency sign, and a minus sign or parentheses if the amount
is below zero.

Whether it is below zero is decided by its value, and what is written between the signs is to have
none of its own. This holds of every number but negative zero, which is not below zero and keeps its
minus sign: behind a dollar sign, and instead of parentheses. A number that is rounded to zero from
below comes to it, and a zero in parentheses.

Main definitions: `TwoPlaces`, `DisplayFormat.amountStyle?`.

Main results: `exists_twoPlaces_of_amount`, `AmountStyle.render_eq`, `shown_amounts`.
-/

namespace StarSchema

open Binary64 (signText)

/-! ### Two places -/

/-- Grouped digits, a point and two digits. -/
structure TwoPlaces where
  whole : GroupedDigits
  places : List Char
  length_places : places.length = 2
  isDigit_places : ∀ c ∈ places, c.isDigit = true

namespace TwoPlaces

def text (d : TwoPlaces) : String :=
  String.ofList (d.whole.text ++ '.' :: d.places)

/-- The number of hundredths that the digits denote. -/
def hundredths (d : TwoPlaces) : Nat :=
  Numeral.natOfDigits (d.whole.digits ++ d.places)

/-- The text starts with a digit. -/
theorem isDigit_of_toList_text {d : TwoPlaces} {c : Char} {s : List Char}
    (h : d.text.toList = c :: s) : c.isDigit = true := by
  obtain ⟨c', first, split⟩ := List.exists_cons_of_ne_nil d.whole.first_ne
  rw [text, String.toList_ofList, GroupedDigits.text, split] at h
  obtain ⟨rfl, -⟩ := List.cons_eq_cons.mp h
  exact d.whole.isDigit _ (List.mem_append_left _ (split ▸ List.mem_cons_self))

/-- A minus sign behind what a style puts in front of an amount makes no text of that style. -/
theorem minus_append_ne (d : TwoPlaces) (s : String) :
    ("$" ++ ("-" ++ s) ≠ "$" ++ d.text ∧ "$" ++ ("-" ++ s) ≠ "-$" ++ d.text) ∧
      "-" ++ s ≠ d.text ∧ "-" ++ s ≠ "(" ++ d.text ++ ")" := by
  have unsigned : d.text.toList ≠ '-' :: s.toList := fun h =>
    absurd (isDigit_of_toList_text h) (by decide)
  refine ⟨⟨?_, ?_⟩, ?_, ?_⟩
  all_goals
    rw [Ne, ← String.toList_inj]
    simp [unsigned.symm]

end TwoPlaces

theorem digitValue_digitChar {n : Nat} (digit : n < 10) :
    Numeral.digitValue (Nat.digitChar n) = n :=
  Nat.toNat_digitChar_sub_48_of_lt_ten digit

theorem natOfDigits_twoPlaces (n : Nat) :
    Numeral.natOfDigits (Binary64.digitText (n / 100) ++
      [Nat.digitChar (n % 100 / 10), Nat.digitChar (n % 10)]) = n := by
  have places : Numeral.natOfDigits [Nat.digitChar (n % 100 / 10), Nat.digitChar (n % 10)] =
      n % 100 := by
    show 10 * (10 * 0 + Numeral.digitValue _) + Numeral.digitValue _ = _
    rw [digitValue_digitChar (by omega), digitValue_digitChar (by omega)]
    omega
  rw [Numeral.natOfDigits_append, places]
  show 10 ^ 2 * Numeral.natOfDigits (Numeral.digitsOfNat (n / 100)) + _ = _
  rw [Numeral.natOfDigits_digitsOfNat]
  omega

/-- The text of a number of hundredths. -/
theorem exists_twoPlaces (n : Nat) :
    ∃ d : TwoPlaces, d.hundredths = n ∧ Numeral.IsShortest (n / 100) d.whole.digits ∧
      d.text.toList = groupThousands (Binary64.digitText (n / 100)) ++
        '.' :: [Nat.digitChar (n % 100 / 10), Nat.digitChar (n % 10)] := by
  obtain ⟨whole, digits, text⟩ := exists_groupedDigits (Numeral.digitsOfNat_ne_nil (n / 100))
    fun c => Numeral.isDigit_of_mem_digitsOfNat
  refine ⟨⟨whole, [Nat.digitChar (n % 100 / 10), Nat.digitChar (n % 10)], rfl, ?_⟩, ?_, ?_, ?_⟩
  · simp only [List.forall_mem_cons, Nat.isDigit_digitChar, decide_eq_true_eq]
    exact ⟨by omega, by omega, List.forall_mem_nil _⟩
  · rw [TwoPlaces.hundredths, digits]
    exact natOfDigits_twoPlaces n
  · rw [digits]
    exact Numeral.isShortest_digitsOfNat _
  · rw [TwoPlaces.text, String.toList_ofList, text]
    rfl

/-- **A finite number is shown to the nearest hundredth**, with its sign in front. -/
theorem exists_twoPlaces_of_amount (negative : Bool) {m : Nat} {e : Int}
    (canonical : Binary64.Canonical m e) :
    ∃ d : TwoPlaces, amount (.finite negative m e canonical) =
        signText negative ++ d.text.toList ∧
      IsNearest ((m : ℚ) * 2 ^ e * 100) d.hundredths ∧
      Numeral.IsShortest (d.hundredths / 100) d.whole.digits := by
  obtain ⟨d, count, shortest, text⟩ := exists_twoPlaces (Binary64.hundredths m e)
  refine ⟨d, ?_, ?_, count ▸ shortest⟩
  · rw [text, ← List.append_assoc]
    rfl
  · have nearest := Binary64.isNearest_inUnits (m * 100) one_ne_zero (-e)
    rw [Nat.cast_mul, Nat.cast_one, div_one, zpow_neg, div_inv_eq_mul, mul_right_comm,
      Nat.cast_ofNat] at nearest
    rw [count]
    exact nearest

/-! ### Styles -/

namespace Binary64

variable {x : Binary64}

theorem isNegative_iff (finite : x.isFinite = true) : x.isNegative = true ↔ x.value < 0 := by
  cases x with
  | nan | infinity => cases finite
  | finite negative m e canonical =>
    have magnitude : (0 : ℚ) ≤ m * 2 ^ e := by positivity
    cases negative with
    | false => simpa [isNegative, value] using magnitude
    | true =>
      have positive : 0 < (m : ℚ) * 2 ^ e ↔ m ≠ 0 := by
        rw [mul_pos_iff_of_pos_right (by positivity), Nat.cast_pos, Nat.pos_iff_ne_zero]
      simp [isNegative, value, positive]

theorem eq_zero_true_iff {negative : Bool} {m : Nat} {e : Int} (canonical : Canonical m e) :
    finite negative m e canonical = .zero true ↔ negative = true ∧ m = 0 := by
  rw [zero, finite.injEq]
  constructor
  · rintro ⟨sign, zero, -⟩
    exact ⟨sign, zero⟩
  · rintro ⟨sign, rfl⟩
    exact ⟨sign, rfl, canonical.2.2.2.resolve_left (by decide)⟩

/-- What is not below one does not become zero. -/
theorem Rounds.pos {v r : ℚ} (h : Rounds v r) (bound : 1 ≤ v) : 0 < r := by
  obtain ⟨e, m, unit, nearest, rfl⟩ := h
  have leading : 2 ^ 52 ≤ m := by
    refine (unit.le_significand nearest).resolve_right fun least => ?_
    have small : v < 2 ^ (0 : Int) :=
      unit.upper.trans_le (zpow_le_zpow_right₀ (by norm_num) (by omega))
    rw [zpow_zero] at small
    exact absurd small (not_lt.mpr bound)
  have positive : (0 : ℚ) < m := by exact_mod_cast (Nat.pow_pos (by decide)).trans_le leading
  positivity

/-- The sign of an integer comes with a number that is not zero. -/
theorem ofInt_ne_zero_true (n : Int) : ofInt n ≠ zero true := by
  by_cases nothing : n = 0
  · subst nothing
    decide
  · obtain ⟨r, rounds⟩ := exists_rounds n.natAbs one_ne_zero
    have bound : (1 : ℚ) ≤ (n.natAbs : ℚ) / (1 : Nat) := by
      rw [Nat.cast_one, div_one]
      exact_mod_cast Int.natAbs_pos.mpr nothing
    rw [ofInt]
    rcases ofRatio_cases one_ne_zero rounds (n < 0) with ⟨m, e, canonical, value, same⟩ | ⟨value, -⟩
    · rw [value, Ne, eq_zero_true_iff]
      rintro ⟨-, zero⟩
      have positive := rounds.pos bound
      rw [same, zero, Nat.cast_zero, zero_mul] at positive
      exact lt_irrefl _ positive
    · rw [value]
      exact Binary64.noConfusion

theorem isFinite_ofInt (n : Int64) : (ofInt n.toInt).isFinite = true := by
  obtain ⟨r, rounds⟩ := exists_rounds n.toInt.natAbs one_ne_zero
  rw [Nat.cast_one, div_one] at rounds
  exact isFinite_of_holds (holds_ofInt rounds)

end Binary64

/-- **An amount in a style**: two places with what the style puts around an amount of its sign, but
for negative zero. -/
theorem AmountStyle.render_eq {x : Binary64} (finite : x.isFinite = true) :
    ∃ d : TwoPlaces, IsNearest (|x.value| * 100) d.hundredths ∧
      Numeral.IsShortest (d.hundredths / 100) d.whole.digits ∧ ∀ style : AmountStyle,
      style.render x =
        if x = .zero true then style.before ++ ("-" ++ d.text)
        else if x.value < 0 then style.beforeNegative ++ d.text ++ style.afterNegative
        else style.before ++ d.text := by
  cases x with
  | nan | infinity => cases finite
  | finite negative m e canonical =>
    have magnitude : |Binary64.value (.finite negative m e canonical)| = m * 2 ^ e := by
      have nonneg : (0 : ℚ) ≤ m * 2 ^ e := by positivity
      rw [Binary64.value]
      split
      · rw [abs_neg, abs_of_nonneg nonneg]
      · exact abs_of_nonneg nonneg
    simp only [magnitude, render, Binary64.eq_zero_true_iff, ← Binary64.isNegative_iff finite]
    by_cases below : (Binary64.finite negative m e canonical).isNegative = true
    · obtain ⟨sign, nonzero⟩ := Bool.and_eq_true_iff.mp below
      obtain ⟨d, text, nearest, shortest⟩ := exists_twoPlaces_of_amount (!negative) canonical
      refine ⟨d, nearest, shortest, fun style => ?_⟩
      rw [if_pos below, if_pos below, if_neg fun zero => bne_iff_ne.mp nonzero zero.2, Binary64.neg,
        text, sign]
      simp [signText]
    · obtain ⟨d, text, nearest, shortest⟩ := exists_twoPlaces_of_amount negative canonical
      refine ⟨d, nearest, shortest, fun style => ?_⟩
      rw [if_neg below, if_neg below, text]
      cases negative with
      | false => simp [signText]
      | true =>
        have zero : m = 0 := by simpa [Binary64.isNegative] using below
        simp [signText, zero]

/-! ### Values -/

/-- A converted number is a finite double, which is negative zero just if the value is. -/
theorem exists_number_of_convert {dataType : DataType} {input : Input} {v : Value}
    (numeric : dataType.isNumeric = true) (h : convert dataType input = .ok (some v)) :
    ∃ x, v.number? = some x ∧ x.isFinite = true ∧ (x = .zero true ↔ v = .float (.zero true)) := by
  obtain rfl := dataType_of_convert h
  cases v with
  | int n =>
    exact ⟨_, rfl, Binary64.isFinite_ofInt n,
      iff_of_false (Binary64.ofInt_ne_zero_true _) Value.noConfusion⟩
  | float x => exact ⟨x, rfl, isFinite_of_convert h, by rw [Value.float.injEq]⟩
  | bool | date | str => cases numeric

/-- The styles of the formats that show amounts. -/
def DisplayFormat.amountStyle? : DisplayFormat → Option AmountStyle
  | .accounting => some .accounting
  | .currency => some .currency
  | .float => some .plain
  | _ => none

/-- A format that shows amounts renders the number in its style. -/
theorem format_amount (as : DisplayFormat) {style : AmountStyle} {dataType : DataType}
    {input : Input} {v : Value} {x : Binary64} (styled : as.amountStyle? = some style)
    (h : convert dataType input = .ok (some v)) (number : v.number? = some x) :
    format dataType input (some as) = .ok (some (style.render x)) := by
  have shown : v.showAmount style = style.render x := by
    rw [Value.showAmount, number]
  rw [format, h, ← shown]
  cases as with
  | accounting | currency | float =>
    obtain rfl := Option.some.inj styled
    rfl
  | bool | date | dateTime | int | str => cases styled

/-- **Amounts are shown in one shape, except negative zero.** The text of every number has two
places, to which the number is rounded. Of a number below zero it has a minus sign in front, also
before the dollar sign, or stands in parentheses. Of negative zero it has a minus sign of its own,
behind the dollar sign and in place of parentheses, and so is no text of this shape. -/
theorem shown_amounts {dataType : DataType} {input : Input} {v : Value}
    (numeric : dataType.isNumeric = true) (h : convert dataType input = .ok (some v)) :
    ∃ (x : Binary64) (d : TwoPlaces), v.number? = some x ∧
      IsNearest (|x.value| * 100) d.hundredths ∧
      format dataType input (some .float) = .ok (some
        (if x.value < 0 ∨ v = .float (.zero true) then "-" ++ d.text else d.text)) ∧
      (v ≠ .float (.zero true) →
        format dataType input (some .currency) = .ok (some
          (if x.value < 0 then "-$" ++ d.text else "$" ++ d.text)) ∧
        format dataType input (some .accounting) = .ok (some
          (if x.value < 0 then "(" ++ d.text ++ ")" else d.text))) ∧
      (v = .float (.zero true) →
        format dataType input (some .currency) = .ok (some ("$" ++ ("-" ++ d.text))) ∧
        format dataType input (some .accounting) = .ok (some ("-" ++ d.text)) ∧
        ∀ d' : TwoPlaces,
          ("$" ++ ("-" ++ d.text) ≠ "$" ++ d'.text ∧ "$" ++ ("-" ++ d.text) ≠ "-$" ++ d'.text) ∧
            "-" ++ d.text ≠ d'.text ∧ "-" ++ d.text ≠ "(" ++ d'.text ++ ")") := by
  obtain ⟨x, number, finite, zero_iff⟩ := exists_number_of_convert numeric h
  have float := format_amount .float rfl h number
  have currency := format_amount .currency rfl h number
  have accounting := format_amount .accounting rfl h number
  obtain ⟨d, nearest, -, render⟩ := AmountStyle.render_eq finite
  rw [float, currency, accounting, render, render, render]
  simp only [ne_eq, ← zero_iff]
  refine ⟨x, d, number, nearest, ?_, fun nonzero => ?_, fun zero => ?_⟩
  · by_cases zero : x = .zero true
    · rw [if_pos zero, if_pos (.inr zero)]
      simp [AmountStyle.plain]
    · simp [AmountStyle.plain, zero]
  · rw [if_neg nonzero, if_neg nonzero]
    simp [AmountStyle.currency, AmountStyle.accounting]
  · rw [if_pos zero, if_pos zero]
    refine ⟨rfl, ?_, fun d' => d'.minus_append_ne d.text⟩
    simp [AmountStyle.accounting]

/-- A zero in parentheses is negative zero, and a number below it is not. -/
theorem shown_amounts_zero :
    convert .float (.str "(0)") = .ok (some (.float (.zero true))) ∧
    format .float (.str "(0)") (some .currency) = .ok (some "$-0.00") ∧
    format .float (.str "(0)") (some .accounting) = .ok (some "-0.00") ∧
    (∀ d : TwoPlaces, ("$-0.00" ≠ "$" ++ d.text ∧ "$-0.00" ≠ "-$" ++ d.text) ∧
      "-0.00" ≠ d.text ∧ "-0.00" ≠ "(" ++ d.text ++ ")") ∧
    ∃ d : TwoPlaces, d.text = "1,234.57" ∧
      format .float (.str "(1,234.567)") (some .currency) = .ok (some ("-$" ++ d.text)) ∧
      format .float (.str "(1,234.567)") (some .accounting) =
        .ok (some ("(" ++ d.text ++ ")")) := by
  have zero : convert .float (.str "(0)") = .ok (some (.float (.zero true))) := by decide +kernel
  have currency : format .float (.str "(0)") (some .currency) = .ok (some "$-0.00") := by
    decide +kernel
  have accounting : format .float (.str "(0)") (some .accounting) = .ok (some "-0.00") := by
    decide +kernel
  refine ⟨zero, currency, accounting, ?_, ?_⟩
  · obtain ⟨-, d, -, -, -, -, negativeZero⟩ := shown_amounts rfl zero
    obtain ⟨currency', accounting', other⟩ := negativeZero rfl
    rw [currency] at currency'
    rw [accounting] at accounting'
    rw [Option.some.inj (Except.ok.inj currency'), Option.some.inj (Except.ok.inj accounting')]
    exact other
  · obtain ⟨v, loss⟩ : ∃ v, convert .float (.str "(1,234.567)") = .ok (some v) := ⟨_, rfl⟩
    have nonzero : v ≠ .float (.zero true) := by
      rintro rfl
      revert loss
      decide +kernel
    have shown : format .float (.str "(1,234.567)") (some .currency) =
        .ok (some ("-$" ++ "1,234.57")) := by decide +kernel
    obtain ⟨x, d, -, -, -, nonzeroTexts, -⟩ := shown_amounts rfl loss
    obtain ⟨currency, accounting⟩ := nonzeroTexts nonzero
    have same := Option.some.inj (Except.ok.inj (shown.symm.trans currency))
    by_cases below : x.value < 0
    · rw [if_pos below] at currency accounting same
      exact ⟨d, (String.append_right_inj _).mp same.symm, currency, accounting⟩
    · rw [if_neg below, ← String.toList_inj] at same
      simp at same

end StarSchema
