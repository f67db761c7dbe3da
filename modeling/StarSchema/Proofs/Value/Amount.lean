import StarSchema.Proofs.Binary64.Nearest
import StarSchema.Proofs.Value.Conversion

/-!
# Amounts

An amount is written as a person would write it: digits, perhaps a point and more digits, with
separators and a currency sign anywhere among them, and below zero with a sign in front or in
parentheses. What is read of it is the plain numeral, which is an integer if it has no point and
is of 64 bits, and a double otherwise.

Main definitions: `integerPart`, `Amount`, `Amount.value`, `Decorated`, `Amount.IsWrittenAs`.

Main results: `Amount.plainNumeral_eq`, `Amount.integer?_of_whole`,
`Amount.decimal?_eq`.
-/

namespace StarSchema

open Binary64 (NumberText signText)

/-- The integer part of a number, toward zero. -/
def integerPart (q : ℚ) : Int :=
  if q < 0 then ⌈q⌉ else ⌊q⌋

/-- The integer part is that of the magnitude, with the sign. -/
theorem integerPart_signed (negative : Bool) {v : ℚ} (hv : 0 ≤ v) :
    integerPart (if negative then -v else v) = if negative then -(⌊v⌋₊ : Int) else ⌊v⌋₊ := by
  have floor : (⌊v⌋₊ : Int) = ⌊v⌋ := Int.natCast_floor_eq_floor hv
  rw [integerPart]
  cases negative with
  | false =>
    rw [if_neg Bool.false_ne_true, if_neg Bool.false_ne_true, if_neg (not_lt.mpr hv), floor]
  | true =>
    rw [if_pos rfl, if_pos rfl, Int.ceil_neg, floor]
    rcases hv.eq_or_lt with rfl | positive
    · simp
    · rw [if_pos (neg_neg_iff_pos.mpr positive)]

/-- A sign and digits, perhaps with a point and more digits. -/
structure Amount where
  negative : Bool
  number : NumberText
  power?_eq : number.power? = none

/-- The text is another with decoration anywhere between its characters. -/
inductive Decorated : List Char → List Char → Prop where
  | nil : Decorated [] []
  | keep (c : Char) {s t : List Char} (h : Decorated s t) : Decorated (c :: s) (c :: t)
  | insert {c : Char} {s t : List Char} (decoration : c = ',' ∨ c = '$' ∨ c = ' ')
    (h : Decorated s t) : Decorated (c :: s) t

namespace Amount

/-- The amount without its sign. -/
def magnitude (a : Amount) : ℚ :=
  a.number.decimal.value

def value (a : Amount) : ℚ :=
  if a.negative then -a.magnitude else a.magnitude

/-- The text denotes the amount, apart from blanks around it: by a sign in front of a decorated
number, or below zero by parentheses around one. -/
inductive IsWrittenAs (a : Amount) (s : String) : Prop where
  | signed (text : Decorated (Text.trim s.toList) (signText a.negative ++ a.number.text))
  | inParentheses (negative : a.negative = true) {inner : List Char}
    (body : Text.trim s.toList = '(' :: (inner ++ [')'])) (text : Decorated inner a.number.text)

end Amount

namespace Decorated

variable {s t : List Char}

theorem refl : ∀ s : List Char, Decorated s s
  | [] => .nil
  | c :: s => .keep c (refl s)

theorem ne_nil (h : Decorated s t) (ht : t ≠ []) : s ≠ [] := by
  cases h with
  | nil => exact ht
  | keep => exact List.cons_ne_nil _ _
  | insert => exact List.cons_ne_nil _ _

theorem mem_or_of_mem (h : Decorated s t) {c : Char} (hc : c ∈ s) :
    c ∈ t ∨ c = ',' ∨ c = '$' ∨ c = ' ' := by
  induction h with
  | nil => cases hc
  | keep d _ ih =>
    rcases List.mem_cons.mp hc with rfl | hc
    · exact .inl List.mem_cons_self
    · exact (ih hc).imp_left (List.mem_cons_of_mem _)
  | insert decoration _ ih =>
    rcases List.mem_cons.mp hc with rfl | hc
    · exact .inr decoration
    · exact ih hc

/-- Without its decoration the text is the plain one. -/
theorem filter_eq (h : Decorated s t) (plain : ∀ c ∈ t, isDecoration c = false) :
    s.filter (!isDecoration ·) = t := by
  induction h with
  | nil => rfl
  | keep c _ ih =>
    rw [List.forall_mem_cons] at plain
    rw [List.filter_cons_of_pos (by rw [plain.1]; rfl), ih plain.2]
  | @insert c _ _ decoration _ ih =>
    have : isDecoration c = true := by rcases decoration with rfl | rfl | rfl <;> rfl
    rw [List.filter_cons_of_neg (by rw [this]; decide), ih plain]

end Decorated

namespace Amount

variable {a : Amount} {s : String}

theorem text_eq (a : Amount) : a.number.text = a.number.whole ++ a.number.placesText := by
  rw [NumberText.text, NumberText.powerText, a.power?_eq, List.append_nil]

/-- An amount is written with digits and a point. -/
theorem isDigit_or_of_mem_text {c : Char} (hc : c ∈ a.number.text) :
    c.isDigit = true ∨ c = '.' := by
  have isDigit := a.number.isDigit
  rw [text_eq, List.mem_append] at hc
  rcases hc with hc | hc
  · exact .inl (isDigit c (List.mem_append_left _ hc))
  · rw [NumberText.placesText] at hc
    cases found : a.number.places? with
    | none =>
      rw [found] at hc
      cases hc
    | some ds =>
      rw [found] at hc isDigit
      rcases List.mem_cons.mp hc with rfl | hc
      · exact .inr rfl
      · exact .inl (isDigit c (List.mem_append_right _ hc))

theorem isDecoration_eq_false {c : Char} (hc : c ∈ signText a.negative ++ a.number.text) :
    isDecoration c = false ∧ c ≠ '(' := by
  have digit (hc : c.isDigit = true) : isDecoration c = false ∧ c ≠ '(' := by
    have other {d : Char} (hd : d.isDigit = false) : c ≠ d := by
      rintro rfl
      rw [hc] at hd
      cases hd
    refine ⟨?_, other rfl⟩
    simp only [isDecoration, beq_false_of_ne (other (d := ',') rfl),
      beq_false_of_ne (other (d := '$') rfl), beq_false_of_ne (other (d := ' ') rfl), Bool.or_self]
  rcases List.mem_append.mp hc with hc | hc
  · rw [signText] at hc
    split at hc
    · obtain rfl := List.mem_singleton.mp hc
      decide
    · cases hc
  · rcases isDigit_or_of_mem_text hc with hc | rfl
    · exact digit hc
    · decide

theorem text_ne_nil (a : Amount) : a.number.text ≠ [] := by
  rw [text_eq]
  exact List.append_ne_nil_of_left_ne_nil a.number.whole_ne _

/-- The text of an amount is not blank. -/
theorem isBlank_eq_false (h : a.IsWrittenAs s) : (Input.str s).isBlank = false := by
  rw [Input.isBlank, List.isEmpty_eq_false_iff]
  cases h with
  | signed text => exact text.ne_nil (List.append_ne_nil_of_right_ne_nil _ a.text_ne_nil)
  | inParentheses negative body text =>
    rw [body]
    exact List.cons_ne_nil _ _

theorem unparenthesized?_of_decorated {body t : List Char} (h : Decorated body t)
    (plain : ∀ c ∈ t, c ≠ '(') : unparenthesized? body = none := by
  cases body with
  | nil => rfl
  | cons c body =>
    have other : c ≠ '(' := by
      rintro rfl
      rcases h.mem_or_of_mem List.mem_cons_self with hc | hc
      · exact plain _ hc rfl
      · revert hc
        decide
    rw [unparenthesized?]
    rintro s ⟨⟩
    exact other rfl

/-- **The text of an amount is read as its plain numeral.** -/
theorem plainNumeral_eq (h : a.IsWrittenAs s) :
    plainNumeral s.toList = signText a.negative ++ a.number.text := by
  have plain {c : Char} (hc : c ∈ signText a.negative ++ a.number.text) := isDecoration_eq_false hc
  rw [plainNumeral]
  cases h with
  | signed text =>
    rw [unparenthesized?_of_decorated text fun _ hc => (plain hc).2]
    exact text.filter_eq fun _ hc => (plain hc).1
  | @inParentheses negative inner body text =>
    have inside : unparenthesized? (Text.trim s.toList) = some inner := by
      rw [body, unparenthesized?, List.getLast?_concat]
      simp only [List.dropLast_concat]
    have number := text.filter_eq fun _ hc => (plain (List.mem_append_right _ hc)).1
    rw [inside, negative]
    exact congrArg ('-' :: ·) number

/-! ### What the numeral denotes -/

theorem magnitude_nonneg (a : Amount) : 0 ≤ a.magnitude :=
  a.number.decimal.value_nonneg

theorem integerPart_value (a : Amount) :
    integerPart a.value = if a.negative then -(⌊a.magnitude⌋₊ : Int) else ⌊a.magnitude⌋₊ :=
  integerPart_signed a.negative a.magnitude_nonneg

/-- Without a point, the digits are those of the magnitude. -/
theorem magnitude_of_places? (whole : a.number.places? = none) :
    a.magnitude = Numeral.natOfDigits a.number.whole := by
  rw [magnitude, Binary64.Decimal.value, NumberText.decimal, whole, a.power?_eq]
  simp

/-- A numeral with a point is no integer. -/
theorem integer?_of_point {ds : List Char} (point : a.number.places? = some ds) :
    Numeral.integer? (signText a.negative ++ a.number.text) = none := by
  have split := Binary64.splitSign_signText a.negative a.number
  have text := a.text_eq
  rw [NumberText.placesText, point] at text
  exact Numeral.integer?_eq_none split (by rw [text]; simp) (rfl : '.'.isDigit = false)

/-- A numeral without a point is an integer, if it is of 64 bits. -/
theorem integer?_of_whole (whole : a.number.places? = none) :
    Numeral.integer? (signText a.negative ++ a.number.text) =
      if minInt64 ≤ integerPart a.value ∧ integerPart a.value ≤ maxInt64 then
        some (Int64.ofInt (integerPart a.value))
      else none := by
  have text := a.text_eq
  rw [NumberText.placesText, whole, List.append_nil] at text
  have digits : a.number.whole.all Char.isDigit = true :=
    List.all_eq_true.mpr fun c hc => a.number.isDigit c (List.mem_append_left _ hc)
  have nonempty := List.isEmpty_eq_false_iff.mpr a.number.whole_ne
  rw [Numeral.integer?, Binary64.splitSign_signText, text, integerPart_value,
    magnitude_of_places? whole, Nat.floor_natCast]
  simp only [digits, nonempty, Bool.not_true, Bool.or_self, Bool.false_eq_true, if_false]

theorem decimal?_eq (a : Amount) :
    Numeral.decimal? (signText a.negative ++ a.number.text) =
      some (a.number.decimal.round a.negative) := by
  rw [Numeral.decimal?, Binary64.splitSign_signText]
  dsimp only
  rw [Binary64.unsigned?_text]
  rfl

end Amount

end StarSchema
