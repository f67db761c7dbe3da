import StarSchema.Proofs.Value.Stable
import StarSchema.Proofs.Value.Styles

/-!
# Whole numbers as amounts

An integer is shown as an amount by way of its nearest double. That is a whole number too, so that
two zeros are shown for its places; but it is another number than the integer if this has more than
53 binary digits, apart from zeros at the end. Reading the text back does not lose anything any
more: the number that is shown is a double, and comes out as it is, but for `2 ^ 63`, which is out
of range and comes out as the greatest integer. So the text of that integer alone is read back
though it shows another number.

Main definitions: `TwoPlaces.IsWhole`, `AmountStyle.ShowsWhole`, `IsNearestWhole`.

Main results: `TwoPlaces.isWrittenAs_around`, `AmountStyle.showsWhole_render`,
`AmountStyle.ShowsWhole.convert_eq`, `IsNearestWhole.min_eq_iff`, `whole_amounts_shown`.
-/

namespace StarSchema

open Binary64 (signText)

/-- What a style puts around an amount of a sign. -/
def AmountStyle.around (style : AmountStyle) (negative : Bool) (s : String) : String :=
  if negative then style.beforeNegative ++ s ++ style.afterNegative else style.before ++ s

namespace TwoPlaces

variable {d : TwoPlaces} {n : Nat}

/-- The digits are those of a whole number, and its places are zeros. -/
structure IsWhole (d : TwoPlaces) (n : Nat) : Prop where
  shortest : Numeral.IsShortest n d.whole.digits
  zeros : d.places = ['0', '0']

theorem isWhole_of_hundredths (shortest : Numeral.IsShortest (d.hundredths / 100) d.whole.digits)
    (count : d.hundredths = n * 100) : d.IsWhole n := by
  rw [count, Nat.mul_div_cancel _ (by decide)] at shortest
  refine ⟨shortest, ?_⟩
  rw [hundredths, Numeral.natOfDigits_append, d.length_places, shortest.value] at count
  have nothing : Numeral.natOfDigits d.places = Numeral.natOfDigits ['0', '0'] := by
    show _ = 0
    omega
  exact Numeral.natOfDigits_inj d.length_places d.isDigit_places (by simp) nothing

/-! ### Amounts read again -/

/-- The digits with a sign, as an amount that can be read. -/
def toAmount (d : TwoPlaces) (negative : Bool) : Amount where
  negative
  number := ⟨d.whole.digits, some d.places, none,
    List.append_ne_nil_of_left_ne_nil d.whole.first_ne _,
    List.forall_mem_append.mpr ⟨d.whole.isDigit, d.isDigit_places⟩⟩
  power?_eq := rfl

theorem text_toAmount (negative : Bool) :
    (d.toAmount negative).number.text = d.whole.digits ++ '.' :: d.places :=
  Amount.text_eq _

theorem magnitude_toAmount (whole : d.IsWhole n) (negative : Bool) :
    (d.toAmount negative).magnitude = n := by
  have digits : Numeral.natOfDigits (d.whole.digits ++ d.places) = 100 * n := by
    rw [whole.zeros, Numeral.natOfDigits_append, whole.shortest.value]
    rfl
  show (Numeral.natOfDigits (d.whole.digits ++ d.places) : ℚ) *
    10 ^ ((0 : Int) - d.places.length) = n
  rw [digits, d.length_places]
  norm_num
  ring

theorem decorated_text (negative : Bool) :
    Decorated d.text.toList (d.toAmount negative).number.text := by
  rw [text, String.toList_ofList, text_toAmount]
  exact d.whole.decorated_text.append (.refl _)

theorem space_notMem_text : ' ' ∉ d.text.toList := by
  rw [text, String.toList_ofList, List.mem_append, List.mem_cons]
  rintro (whole | point | place)
  · exact d.whole.space_notMem_text whole
  · cases point
  · cases d.isDigit_places _ place

/-- Digits behind a minus sign, and perhaps a dollar sign. -/
theorem isWrittenAs_signed {before : List Char} (h : before = [] ∨ before = ['$'])
    {negative : Bool} {s : String}
    (text : s.toList = signText negative ++ (before ++ d.text.toList)) :
    (d.toAmount negative).IsWrittenAs s := by
  have digits : Decorated (before ++ d.text.toList) (d.toAmount negative).number.text := by
    rcases h with rfl | rfl
    · exact d.decorated_text negative
    · exact .insert (.inr (.inl rfl)) (d.decorated_text negative)
  refine .of_decorated ?_ ?_
  · rw [text]
    exact (Decorated.refl _).append digits
  · rw [text, signText]
    rcases h with rfl | rfl <;> cases negative <;> simp [d.space_notMem_text]

/-- Digits in parentheses. -/
theorem isWrittenAs_inParentheses {s : String} (text : s.toList = '(' :: (d.text.toList ++ [')'])) :
    (d.toAmount true).IsWrittenAs s := by
  have digits := d.decorated_text true
  refine .inParentheses rfl ?_ digits
  rw [text]
  refine Text.trim_eq_self fun c hc => ?_
  simp only [List.mem_cons, List.mem_append, List.not_mem_nil, or_false] at hc
  rcases hc with rfl | inside | rfl
  · rfl
  · exact digits.isBlank_eq_false
      (fun c hc => Amount.isBlank_eq_false_of_mem (List.mem_append_right _ hc))
      d.space_notMem_text c inside
  · rfl

/-- **An amount in a style is written as that amount**, also in parentheses. -/
theorem isWrittenAs_around {as : DisplayFormat} {style : AmountStyle}
    (h : as.amountStyle? = some style) (d : TwoPlaces) (negative : Bool) :
    (d.toAmount negative).IsWrittenAs (style.around negative d.text) := by
  cases as with
  | float =>
    obtain rfl := Option.some.inj h
    refine isWrittenAs_signed (.inl rfl) ?_
    cases negative <;> simp [AmountStyle.around, AmountStyle.plain, signText]
  | currency =>
    obtain rfl := Option.some.inj h
    refine isWrittenAs_signed (.inr rfl) ?_
    cases negative <;> simp [AmountStyle.around, AmountStyle.currency, signText]
  | accounting =>
    obtain rfl := Option.some.inj h
    cases negative with
    | false =>
      refine isWrittenAs_signed (.inl rfl) ?_
      simp [AmountStyle.around, AmountStyle.accounting, signText]
    | true =>
      refine isWrittenAs_inParentheses ?_
      simp [AmountStyle.around, AmountStyle.accounting]
  | bool | date | dateTime | int | str => cases h

end TwoPlaces

/-- An amount that is a double itself is not rounded. -/
theorem Amount.holds_round {a : Amount} {n : Nat} (magnitude : a.magnitude = n)
    (fits : FitsBinary64 n) (small : n ≤ 2 ^ 63) :
    (a.number.decimal.round a.negative).Holds a.negative n := by
  obtain ⟨r, rounds⟩ := a.exists_rounds
  have same : r = n := (magnitude ▸ rounds).eq_self fits
  refine same ▸ (Binary64.Decimal.round_cases rounds a.negative).resolve_right fun large => ?_
  exact absurd (magnitude ▸ large.2) (not_le.mpr (Binary64.natCast_lt_two_zpow small))

/-! ### Whole numbers in a style -/

/-- The text shows a whole number in the style, with two zeros for its places. -/
def AmountStyle.ShowsWhole (style : AmountStyle) (n : Int) (text : String) : Prop :=
  ∃ d : TwoPlaces, d.IsWhole n.natAbs ∧ text = style.around (n < 0) d.text

namespace AmountStyle

variable {as : DisplayFormat} {style : AmountStyle} {text : String} {n w : Int}

/-- A text shows one number only. -/
theorem ShowsWhole.unique (h : as.amountStyle? = some style) (hn : style.ShowsWhole n text)
    (hw : style.ShowsWhole w text) : n = w := by
  obtain ⟨d, whole, text_eq⟩ := hn
  obtain ⟨d', whole', rfl⟩ := hw
  have read := Amount.plainNumeral_eq (d.isWrittenAs_around h (n < 0))
  have read' := Amount.plainNumeral_eq (d'.isWrittenAs_around h (w < 0))
  rw [← text_eq, read'] at read
  have parts := congrArg Numeral.splitSign read
  rw [Binary64.splitSign_signText, Binary64.splitSign_signText, Prod.mk.injEq,
    TwoPlaces.text_toAmount, TwoPlaces.text_toAmount, whole.zeros, whole'.zeros] at parts
  have sign : decide (w < 0) = decide (n < 0) := parts.1
  have digits := congrArg Numeral.natOfDigits (List.append_cancel_right parts.2)
  rw [whole.shortest.value, whole'.shortest.value] at digits
  rw [decide_eq_decide] at sign
  omega

/-- **A whole number that a double holds is shown as such.** -/
theorem showsWhole_render {x : Binary64} (holds : x.Holds (n < 0) n.natAbs) :
    style.ShowsWhole n (style.render x) := by
  obtain ⟨m, e, canonical, rfl, magnitude⟩ := holds
  obtain ⟨d, nearest, shortest, render⟩ :=
    AmountStyle.render_eq (x := .finite (n < 0) m e canonical) rfl
  have value : Binary64.value (.finite (n < 0) m e canonical) = n := by
    rw [Binary64.value, ← magnitude, Nat.cast_natAbs, Int.cast_abs]
    by_cases negative : n < 0
    · rw [if_pos (decide_eq_true negative), abs_of_neg (by exact_mod_cast negative), neg_neg]
    · rw [if_neg (by simpa using negative), abs_of_nonneg (by exact_mod_cast not_lt.mp negative)]
  have nonzero : Binary64.finite (n < 0) m e canonical ≠ .zero true := by
    rw [Ne, Binary64.eq_zero_true_iff, decide_eq_true_eq]
    rintro ⟨negative, rfl⟩
    rw [Nat.cast_zero, zero_mul, Nat.cast_eq_zero, Int.natAbs_eq_zero] at magnitude
    omega
  have count : d.hundredths = n.natAbs * 100 := by
    refine nearest.unique ?_
    rw [value]
    have whole := isNearest_natCast (n.natAbs * 100)
    rw [Nat.cast_mul, Nat.cast_natAbs] at whole
    exact_mod_cast whole
  refine ⟨d, TwoPlaces.isWhole_of_hundredths shortest count, ?_⟩
  rw [render, if_neg nonzero, value]
  simp only [around, decide_eq_true_eq, Int.cast_lt_zero]

/-- **The number that a text shows is read back** if it is a double. But `2 ^ 63` becomes the
greatest integer. -/
theorem ShowsWhole.convert_eq (h : as.amountStyle? = some style) (shown : style.ShowsWhole w text)
    (fits : FitsBinary64 w.natAbs) (low : -2 ^ 63 ≤ w) (high : w ≤ 2 ^ 63) :
    convert .int (.str text) = .ok (some (.int (Int64.ofInt (min w maxInt64)))) := by
  obtain ⟨d, whole, rfl⟩ := shown
  have written := d.isWrittenAs_around h (w < 0)
  have byFloat := Amount.toInt_eq written
  rw [Amount.integer?_of_point rfl] at byFloat
  have float := Amount.toFloat_eq written .int
  have holds := Amount.holds_round (TwoPlaces.magnitude_toAmount whole (w < 0)) fits (by omega)
  rw [if_pos (Binary64.isFinite_of_holds holds)] at float
  have within : ¬(w < minInt64 ∨ maxInt64 + 1 < w) := by
    rw [minInt64_eq, maxInt64_eq]
    omega
  have truncated : ((d.toAmount (w < 0)).number.decimal.round
      (d.toAmount (w < 0)).negative).truncate = w := by
    have sign : (d.toAmount (w < 0)).negative = decide (w < 0) := rfl
    rw [Binary64.truncate_of_holds holds, Nat.floor_natCast, sign]
    simp only [decide_eq_true_eq]
    split <;> omega
  rw [Input.convert_int_of_toFloat rfl (Amount.isBlank_eq_false written) byFloat float, truncated,
    clamp?, if_neg within]

end AmountStyle

/-! ### Integers -/

/-- The number is the nearest double of an integer, and of the same sign. -/
structure IsNearestWhole (n : Int64) (w : Int) : Prop where
  rounds : Binary64.Rounds n.toInt.natAbs w.natAbs
  sign : w < 0 ↔ n.toInt < 0

namespace IsNearestWhole

variable {n : Int64} {w : Int}

theorem fits (h : IsNearestWhole n w) : FitsBinary64 w.natAbs := by
  obtain ⟨k, same, fits⟩ := h.rounds.exists_whole
  rwa [Nat.cast_inj.mp same]

theorem bounds (h : IsNearestWhole n w) : -2 ^ 63 ≤ w ∧ w ≤ 2 ^ 63 := by
  have small : (n.toInt.natAbs : ℚ) ≤ 2 ^ 63 := by
    exact_mod_cast Binary64.natAbs_toInt_le n
  have reach := h.rounds.le_two_pow (by linarith)
  have : w.natAbs ≤ 2 ^ 63 := by exact_mod_cast reach
  omega

theorem fits_iff (h : IsNearestWhole n w) : FitsBinary64 n.toInt.natAbs ↔ w = n.toInt := by
  constructor
  · intro fits
    have same : w.natAbs = n.toInt.natAbs := Nat.cast_inj.mp (h.rounds.eq_self fits)
    have sign := h.sign
    omega
  · intro same
    exact same ▸ h.fits

/-- Kept in range, the nearest double is the integer again if it is the integer already, and if it
is out of range. -/
theorem min_eq_iff (h : IsNearestWhole n w) :
    min w maxInt64 = n.toInt ↔ w = n.toInt ∨ n = Int64.maxValue := by
  have bounds := h.bounds
  have greatest : Int64.maxValue.toInt = maxInt64 := rfl
  have high : n.toInt ≤ maxInt64 := Int64.toInt_le n
  have top : n.toInt = maxInt64 → w = 2 ^ 63 := by
    intro last
    have rounds := h.rounds
    have sign := h.sign
    rw [last, maxInt64_eq] at rounds sign
    have reached := rounds.le_floor (by norm_num)
    rw [Nat.floor_natCast] at reached
    omega
  rw [← Int64.toInt_inj, greatest]
  rw [maxInt64_eq] at *
  omega

end IsNearestWhole

theorem exists_isNearestWhole (n : Int64) : ∃ w, IsNearestWhole n w := by
  obtain ⟨r, rounds⟩ := Binary64.exists_rounds n.toInt.natAbs one_ne_zero
  rw [Nat.cast_one, div_one] at rounds
  obtain ⟨k, rfl, -⟩ := rounds.exists_whole
  refine ⟨if n.toInt < 0 then -k else k, ?_, ?_⟩
  · split <;> simpa using rounds
  · by_cases negative : n.toInt < 0
    · have positive := rounds.pos (by exact_mod_cast Int.natAbs_pos.mpr negative.ne)
      have : 0 < k := by exact_mod_cast positive
      simp [negative, this]
    · simp [negative]

/-- **An integer is shown as its nearest double.** So the text shows the integer itself just if it
has 53 binary digits at most, apart from zeros at the end; and the text is converted to the integer
in that case, and for the greatest integer. -/
theorem whole_amounts_shown (n : Int64) :
    ∃ w, IsNearestWhole n w ∧
      ∀ (as : DisplayFormat) (style : AmountStyle), as.amountStyle? = some style →
        ∃ text, format .int (.int n) (some as) = .ok (some text) ∧ style.ShowsWhole w text ∧
          (style.ShowsWhole n.toInt text ↔ FitsBinary64 n.toInt.natAbs) ∧
          (convert .int (.str text) = .ok (some (.int n)) ↔
            FitsBinary64 n.toInt.natAbs ∨ n = Int64.maxValue) := by
  obtain ⟨w, nearest⟩ := exists_isNearestWhole n
  refine ⟨w, nearest, fun as style h => ?_⟩
  have shown : style.ShowsWhole w (style.render (Binary64.ofInt n.toInt)) := by
    refine AmountStyle.showsWhole_render ?_
    rw [decide_eq_decide.mpr nearest.sign]
    exact Binary64.holds_ofInt nearest.rounds
  have bounds := nearest.bounds
  refine ⟨_, format_amount as h (convert_int_int n) rfl, shown, ?_, ?_⟩
  · rw [nearest.fits_iff]
    constructor
    · intro exact_
      exact shown.unique h exact_
    · intro same
      exact same ▸ shown
  · have low : minInt64 ≤ min w maxInt64 := by
      rw [minInt64_eq, maxInt64_eq]
      omega
    rw [shown.convert_eq h nearest.fits bounds.1 bounds.2, nearest.fits_iff, ← nearest.min_eq_iff,
      Except.ok.injEq, Option.some.injEq, Value.int.injEq, ← Int64.toInt_inj,
      toInt_ofInt low (min_le_right _ _)]

/-- An odd integer beyond `2 ^ 53` is shown as its neighbour and not read back. The greatest integer
is shown as its neighbour too, but read back; and a small one is shown as it is. -/
theorem whole_amounts_shown_odd :
    (format .int (.int 9007199254740993) (some .float) =
        .ok (some "9,007,199,254,740,992.00") ∧
      ¬AmountStyle.plain.ShowsWhole 9007199254740993 "9,007,199,254,740,992.00" ∧
      convert .int (.str "9,007,199,254,740,992.00") ≠ .ok (some (.int 9007199254740993))) ∧
    (format .int (.int Int64.maxValue) (some .currency) =
        .ok (some "$9,223,372,036,854,775,808.00") ∧
      ¬AmountStyle.currency.ShowsWhole maxInt64 "$9,223,372,036,854,775,808.00" ∧
      convert .int (.str "$9,223,372,036,854,775,808.00") =
        .ok (some (.int Int64.maxValue))) ∧
    format .int (.int (-1234)) (some .accounting) = .ok (some "(1,234.00)") ∧
      AmountStyle.accounting.ShowsWhole (-1234) "(1,234.00)" ∧
      convert .int (.str "(1,234.00)") = .ok (some (.int (-1234))) := by
  obtain ⟨_, -, odd⟩ := whole_amounts_shown 9007199254740993
  obtain ⟨_, -, greatest⟩ := whole_amounts_shown Int64.maxValue
  obtain ⟨_, -, small⟩ := whole_amounts_shown (-1234)
  refine ⟨?_, ?_, ?_⟩
  · have format_eq : format .int (.int 9007199254740993) (some .float) =
        .ok (some "9,007,199,254,740,992.00") := by decide +kernel
    have moved : ¬FitsBinary64 9007199254740993 := not_fitsBinary64_of_odd rfl (by decide)
    obtain ⟨text, formatted, -, shows_iff, back_iff⟩ := odd .float .plain rfl
    cases format_eq.symm.trans formatted
    refine ⟨format_eq, mt shows_iff.mp moved, mt back_iff.mp ?_⟩
    exact not_or_intro moved (by decide)
  · have format_eq : format .int (.int Int64.maxValue) (some .currency) =
        .ok (some "$9,223,372,036,854,775,808.00") := by decide +kernel
    have moved : ¬FitsBinary64 9223372036854775807 := not_fitsBinary64_of_odd rfl (by decide)
    obtain ⟨text, formatted, -, shows_iff, back_iff⟩ := greatest .currency .currency rfl
    cases format_eq.symm.trans formatted
    exact ⟨format_eq, mt shows_iff.mp moved, back_iff.mpr (.inr rfl)⟩
  · have format_eq : format .int (.int (-1234)) (some .accounting) =
        .ok (some "(1,234.00)") := by decide +kernel
    have fits : FitsBinary64 1234 := fitsBinary64_of_le (by decide)
    obtain ⟨text, formatted, -, shows_iff, back_iff⟩ := small .accounting .accounting rfl
    cases format_eq.symm.trans formatted
    exact ⟨format_eq, shows_iff.mpr fits, back_iff.mpr (.inl fits)⟩

end StarSchema
