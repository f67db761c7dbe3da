import Mathlib.Tactic.SplitIfs
import StarSchema.Binary64.Layout
import StarSchema.Proofs.Text.Numeral

/-!
# The parts of a number literal

An SQL literal is laid out in one of three ways. All three are digits, perhaps a point with more
digits, and perhaps a power of ten; what the parts denote is the decimal that was laid out, up to
zeros that the layout adds at its end.

Main definitions: `NumberText`, `NumberText.text`, `NumberText.decimal`, `Decimal.scale`.

Main result: `Decimal.exists_numberText`.
-/

namespace StarSchema

namespace Binary64

/-- The parts of a number as it is written, without its sign. -/
structure NumberText where
  whole : List Char
  places? : Option (List Char)
  power? : Option Int
  whole_ne : whole ≠ []
  isDigit : ∀ c ∈ whole ++ places?.getD [], c.isDigit = true

namespace NumberText

def placesText (t : NumberText) : List Char :=
  match t.places? with
  | some ds => '.' :: ds
  | none => []

def powerText (t : NumberText) : List Char :=
  match t.power? with
  | some power => 'e' :: Numeral.ofInt power
  | none => []

def text (t : NumberText) : List Char :=
  t.whole ++ t.placesText ++ t.powerText

/-- The decimal that the parts denote. -/
def decimal (t : NumberText) : Decimal :=
  ⟨Numeral.natOfDigits (t.whole ++ t.places?.getD []),
    t.power?.getD 0 - (t.places?.getD []).length⟩

theorem exists_text_eq_cons (t : NumberText) : ∃ c s, t.text = c :: s ∧ c.isDigit = true := by
  obtain ⟨c, s, whole⟩ := List.exists_cons_of_ne_nil t.whole_ne
  refine ⟨c, s ++ t.placesText ++ t.powerText, ?_, ?_⟩
  · rw [NumberText.text, whole, List.cons_append, List.cons_append]
  · exact t.isDigit c (by simp [whole])

section Stops

variable {rest : List Char} (t : NumberText)

/-- No digit stands where the places are over. -/
theorem powerText_stops (stops : ∀ c, rest.head? = some c → c.isDigit = false) :
    ∀ c, (t.powerText ++ rest).head? = some c → c.isDigit = false := by
  unfold powerText
  cases t.power? with
  | none => exact stops
  | some power =>
    rintro c ⟨⟩
    rfl

/-- No digit stands where the whole part is over. -/
theorem placesText_stops (stops : ∀ c, rest.head? = some c → c.isDigit = false) :
    ∀ c, (t.placesText ++ (t.powerText ++ rest)).head? = some c → c.isDigit = false := by
  unfold placesText
  cases t.places? with
  | none => exact t.powerText_stops stops
  | some ds =>
    rintro c ⟨⟩
    rfl

end Stops

end NumberText

namespace Decimal

/-- The same number with more zeros at the end of its digits. -/
def scale (d : Decimal) (count : Nat) : Decimal :=
  ⟨d.digits * 10 ^ count, d.exponent - count⟩

@[simp]
theorem scale_zero (d : Decimal) : d.scale 0 = d := by
  simp [scale]

theorem scale_scale (d : Decimal) (j k : Nat) : (d.scale j).scale k = d.scale (j + k) := by
  simp only [scale, Nat.mul_assoc, Nat.pow_add, Decimal.mk.injEq, true_and]
  omega

theorem isDigit_of_mem_digitText {n : Nat} {c : Char} (h : c ∈ digitText n) :
    c.isDigit = true :=
  Numeral.isDigit_of_mem_digitsOfNat h

theorem isDigit_of_mem_zeros {n : Nat} {c : Char} (h : c ∈ zeros n) : c.isDigit = true := by
  obtain ⟨-, rfl⟩ := List.mem_replicate.mp h
  rfl

theorem natOfDigits_digitText (n : Nat) : Numeral.natOfDigits (digitText n) = n :=
  Numeral.natOfDigits_digitsOfNat n

theorem natOfDigits_append_zeros (n count : Nat) :
    Numeral.natOfDigits (digitText n ++ zeros count) = n * 10 ^ count := by
  rw [Numeral.natOfDigits_append, natOfDigits_digitText, zeros,
    Numeral.natOfDigits_replicate_zero, List.length_replicate, Nat.mul_comm, Nat.add_zero]

/-- A decimal below its point is written with digits on both sides of the point. -/
theorem exists_sides_plain {d : Decimal} (h : d.exponent < 0) :
    ∃ whole places, d.plain = whole ++ '.' :: places ∧ whole ≠ [] ∧ places ≠ [] ∧
      (∀ c ∈ whole ++ places, c.isDigit = true) ∧
      d = ⟨Numeral.natOfDigits (whole ++ places), -places.length⟩ := by
  obtain ⟨digits, exponent⟩ := d
  dsimp only at h
  by_cases split : (-exponent).toNat < (digitText digits).length
  · let cut := (digitText digits).length - (-exponent).toNat
    refine ⟨(digitText digits).take cut, (digitText digits).drop cut, ?_, ?_, ?_, ?_, ?_⟩
    · simp only [Decimal.plain]
      rw [if_neg (by omega), if_pos split]
    · refine List.ne_nil_of_length_pos ?_
      rw [List.length_take]
      omega
    · refine List.ne_nil_of_length_pos ?_
      rw [List.length_drop]
      omega
    · intro c hc
      rw [List.take_append_drop] at hc
      exact isDigit_of_mem_digitText hc
    · simp only [List.take_append_drop, natOfDigits_digitText, List.length_drop, Decimal.mk.injEq,
        true_and]
      omega
  · let padding := (-exponent).toNat - (digitText digits).length
    refine ⟨['0'], zeros padding ++ digitText digits, ?_, by simp, ?_, ?_, ?_⟩
    · simp only [Decimal.plain]
      rw [if_neg (by omega), if_neg split]
      rfl
    · exact List.append_ne_nil_of_right_ne_nil _ Nat.toDigits_ne_nil
    · intro c hc
      simp only [List.mem_append, List.mem_singleton] at hc
      rcases hc with rfl | hc | hc
      · rfl
      · exact isDigit_of_mem_zeros hc
      · exact isDigit_of_mem_digitText hc
    · have value : Numeral.natOfDigits (['0'] ++ (zeros padding ++ digitText digits)) = digits := by
        rw [← List.append_assoc, Numeral.natOfDigits_append, natOfDigits_digitText]
        have : Numeral.natOfDigits (['0'] ++ zeros padding) = 0 :=
          Numeral.natOfDigits_replicate_zero (padding + 1)
        rw [this]
        omega
      have length : (zeros padding ++ digitText digits).length = (-exponent).toNat := by
        rw [List.length_append, zeros, List.length_replicate]
        omega
      simp only [value, length, Decimal.mk.injEq, true_and]
      omega

theorem exists_numberText_plain {d : Decimal} (h : d.exponent < 0) :
    ∃ t : NumberText, t.text = d.plain ∧ t.decimal = d := by
  obtain ⟨whole, places, text, nonempty, -, isDigit, value⟩ := exists_sides_plain h
  refine ⟨⟨whole, some places, none, nonempty, isDigit⟩, ?_, ?_⟩
  · rw [text]
    exact List.append_nil _
  · rw [value, NumberText.decimal]
    simp

theorem exists_numberText_power {d : Decimal} {power : Int} {c : Char} {ds : List Char}
    (split : digitText d.digits = c :: ds)
    (h : power = (digitText d.digits).length + d.exponent - 1) :
    ∃ t : NumberText,
      t.text = c :: (if ds = [] then [] else '.' :: ds) ++ 'e' :: Numeral.ofInt power ∧
      t.decimal = d := by
  obtain ⟨digits, exponent⟩ := d
  have isDigit : ∀ x ∈ c :: ds, x.isDigit = true := fun x hx =>
    isDigit_of_mem_digitText (split ▸ hx)
  have value := natOfDigits_digitText digits
  dsimp only at h split
  rw [split] at value h
  cases ds with
  | nil =>
    refine ⟨⟨[c], none, some power, by simp, isDigit⟩, rfl, ?_⟩
    simp only [NumberText.decimal, Option.getD_none, List.append_nil, value, Option.getD_some,
      Decimal.mk.injEq, true_and, h, List.length_singleton, List.length_nil]
    omega
  | cons x xs =>
    refine ⟨⟨[c], some (x :: xs), some power, by simp, isDigit⟩, rfl, ?_⟩
    simp only [NumberText.decimal, Option.getD_some, List.singleton_append, value,
      Decimal.mk.injEq, true_and, h, List.length_cons]
    omega

theorem signText_append_digitText (n : Int) :
    signText (n < 0) ++ digitText n.natAbs = Numeral.ofInt n := by
  unfold Numeral.ofInt
  split_ifs with h
  · simp only [h, decide_true]
    rfl
  · simp only [h, decide_false]
    rfl

/-- The literal of a decimal has the parts of a number, and they denote the decimal. -/
theorem exists_numberText (d : Decimal) :
    ∃ (t : NumberText) (count : Nat), t.text = d.literal ∧ t.decimal = d.scale count := by
  obtain ⟨digits, exponent⟩ := d
  have positive : 0 < (digitText digits).length := Nat.length_toDigits_pos
  unfold Decimal.literal
  dsimp only
  split_ifs with ordinary whole small
  · -- a whole number, with a zero after its point
    refine ⟨⟨digitText digits ++ zeros exponent.toNat, some ['0'], none, ?_, ?_⟩,
      exponent.toNat + 1, ?_, ?_⟩
    · exact List.append_ne_nil_of_left_ne_nil Nat.toDigits_ne_nil _
    · intro c hc
      simp only [Option.getD_some, List.mem_append, List.mem_singleton] at hc
      rcases hc with (hc | hc) | rfl
      · exact isDigit_of_mem_digitText hc
      · exact isDigit_of_mem_zeros hc
      · rfl
    · simp [NumberText.text, NumberText.placesText, NumberText.powerText]
    · have value : Numeral.natOfDigits (digitText digits ++ zeros exponent.toNat ++ ['0']) =
          digits * 10 ^ (exponent.toNat + 1) := by
        have : zeros exponent.toNat ++ ['0'] = zeros (exponent.toNat + 1) :=
          List.replicate_succ'.symm
        rw [List.append_assoc, this, natOfDigits_append_zeros]
      simp only [NumberText.decimal, scale, Option.getD_some, value, Option.getD_none,
        List.length_singleton, Decimal.mk.injEq, true_and]
      omega
  · obtain ⟨t, text, value⟩ :=
      exists_numberText_plain (d := ⟨digits, exponent⟩) (by simpa using whole)
    exact ⟨t, 0, text, by rw [value, scale_zero]⟩
  · obtain ⟨t, text, value⟩ :=
      exists_numberText_plain (d := ⟨digits, exponent⟩) (by dsimp only; omega)
    exact ⟨t, 0, text, by rw [value, scale_zero]⟩
  · -- one digit before the point, and a power of ten
    obtain ⟨c, ds, split⟩ : ∃ c ds, digitText digits = c :: ds :=
      List.exists_cons_of_ne_nil Nat.toDigits_ne_nil
    obtain ⟨t, text, value⟩ := exists_numberText_power (d := ⟨digits, exponent⟩) split rfl
    refine ⟨t, 0, ?_, by rw [value, scale_zero]⟩
    rw [text, ← signText_append_digitText, split]
    cases ds <;> simp

end Decimal

end Binary64

end StarSchema
