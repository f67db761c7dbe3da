import Mathlib.Data.List.Basic
import Mathlib.Tactic.IntervalCases
import StarSchema.Calendar
import StarSchema.Proofs.Text.Numeral

/-!
# Written dates

A date is written in ten characters: four digits, two and two, with hyphens between them. The digits
denote three numbers, and whether these name a day is up to the calendar. The two are kept apart,
because a text may well be written as a date and name none.

For the years from 0 to 9999 writing and reading are inverse to each other. Later years have more
digits and, as the years before 0, a sign.

Main definitions: `IsCalendarDay`, `DateText`, `DateText.Names`.

Main results: `isCalendarDay_iff`, `Date.parts?_eq_some_iff`, `DateText.Names.text_eq`,
`Date.exists_dateText`.
-/

namespace StarSchema

/-! ### The calendar -/

/-- The numbers of a day. Four months have thirty days; February has twenty-nine in leap years, and
else twenty-eight; the others have thirty-one. -/
structure IsCalendarDay (year month day : Nat) : Prop where
  isMonth : 1 ≤ month ∧ month ≤ 12
  first : 1 ≤ day
  last : day ≤ 31
  thirty : month ∈ [4, 6, 9, 11] → day ≤ 30
  february : month = 2 → day ≤ 29
  leapDay : month = 2 → day = 29 → 4 ∣ year ∧ (100 ∣ year → 400 ∣ year)

theorem isLeapYear_natCast_iff {year : Nat} :
    isLeapYear year = true ↔ 4 ∣ year ∧ (100 ∣ year → 400 ∣ year) := by
  simp only [isLeapYear, Bool.and_eq_true, Bool.or_eq_true, beq_iff_eq, bne_iff_ne, ne_eq]
  omega

theorem daysInMonth_of_isMonth {year : Int} {month : Nat} (h : 1 ≤ month ∧ month ≤ 12) :
    daysInMonth year month =
      if month = 2 then if isLeapYear year then 29 else 28
      else if month ∈ [4, 6, 9, 11] then 30 else 31 := by
  obtain ⟨low, high⟩ := h
  interval_cases month <;> rfl

theorem isMonth_of_daysInMonth_pos {year : Int} {month : Nat} (h : 0 < daysInMonth year month) :
    1 ≤ month ∧ month ≤ 12 := by
  unfold daysInMonth at h
  split at h <;> simp at h ⊢

theorem isCalendarDay_iff {year month day : Nat} :
    IsCalendarDay year month day ↔ 1 ≤ day ∧ day ≤ daysInMonth year month := by
  constructor
  · rintro ⟨isMonth, first, last, thirty, february, leapDay⟩
    rw [← isLeapYear_natCast_iff] at leapDay
    rw [daysInMonth_of_isMonth isMonth]
    refine ⟨first, ?_⟩
    split_ifs with second leap short
    · exact february second
    · have := february second
      have := mt (leapDay second) leap
      omega
    · exact thirty short
    · exact last
  · rintro ⟨first, last⟩
    have isMonth := isMonth_of_daysInMonth_pos (first.trans last)
    rw [daysInMonth_of_isMonth isMonth] at last
    refine ⟨isMonth, first, ?_, ?_, ?_, ?_⟩
    · split_ifs at last <;> omega
    · intro short
      rw [if_pos short] at last
      split_ifs at last <;> omega
    · intro second
      rw [if_pos second] at last
      split_ifs at last <;> omega
    · intro second leap
      rw [if_pos second, leap] at last
      rw [← isLeapYear_natCast_iff]
      split_ifs at last with isLeap
      · exact isLeap
      · omega

/-! ### Ten characters -/

/-- Four digits, two and two. -/
structure DateText where
  year : List Char
  month : List Char
  day : List Char
  length_year : year.length = 4
  length_month : month.length = 2
  length_day : day.length = 2
  isDigit : ∀ c ∈ year ++ (month ++ day), c.isDigit = true

namespace DateText

/-- The digits with hyphens between them. -/
def text (t : DateText) : List Char :=
  t.year ++ '-' :: t.month ++ '-' :: t.day

/-- The numbers that the digits denote. -/
def numbers (t : DateText) : Nat × Nat × Nat :=
  (Numeral.natOfDigits t.year, Numeral.natOfDigits t.month, Numeral.natOfDigits t.day)

def IsDay (t : DateText) : Prop :=
  IsCalendarDay (Numeral.natOfDigits t.year) (Numeral.natOfDigits t.month)
    (Numeral.natOfDigits t.day)

/-- The numbers are those of the day. -/
structure Names (t : DateText) (d : Date) : Prop where
  year : (Numeral.natOfDigits t.year : Int) = d.year
  month : Numeral.natOfDigits t.month = d.month
  day : Numeral.natOfDigits t.day = d.day

theorem length_text (t : DateText) : t.text.length = 10 := by
  simp [text, t.length_year, t.length_month, t.length_day]

theorem isDay_iff_exists_names {t : DateText} : t.IsDay ↔ ∃ d, t.Names d := by
  rw [IsDay, isCalendarDay_iff]
  constructor
  · intro isDay
    exact ⟨⟨_, _, _, isDay⟩, rfl, rfl, rfl⟩
  · rintro ⟨d, year, month, day⟩
    rw [year, month, day]
    exact d.isDay

/-- A day has no other name. -/
theorem Names.unique {t : DateText} {d d' : Date} (h : t.Names d) (h' : t.Names d') : d = d' := by
  obtain ⟨year, month, day, isDay⟩ := d
  obtain ⟨year', month', day', isDay'⟩ := d'
  obtain ⟨rfl, rfl, rfl⟩ := h
  obtain ⟨rfl, rfl, rfl⟩ := h'
  rfl

end DateText

theorem Date.ofParts?_eq_some_iff {t : DateText} {d : Date} :
    ofParts? (Numeral.natOfDigits t.year) (Numeral.natOfDigits t.month)
      (Numeral.natOfDigits t.day) = some d ↔ t.Names d := by
  rw [ofParts?]
  constructor
  · intro h
    split_ifs at h with isDay
    obtain rfl := Option.some.inj h
    exact ⟨rfl, rfl, rfl⟩
  · intro h
    have isDay := DateText.isDay_iff_exists_names.mpr ⟨d, h⟩
    rw [DateText.IsDay, isCalendarDay_iff] at isDay
    rw [dif_pos isDay, Option.some.injEq]
    exact DateText.Names.unique ⟨rfl, rfl, rfl⟩ h

/-- **A date is read from its first ten characters.** -/
theorem Date.parts?_eq_some_iff {s : List Char} {numbers : Nat × Nat × Nat} :
    parts? s = some numbers ↔ ∃ (t : DateText) (rest : List Char), s = t.text ++ rest ∧
      t.numbers = numbers := by
  constructor
  · intro h
    unfold parts? at h
    split at h
    · next y₁ y₂ y₃ y₄ m₁ m₂ d₁ d₂ rest =>
      obtain ⟨digits, h⟩ := Option.ite_none_right_eq_some.mp h
      exact ⟨⟨[y₁, y₂, y₃, y₄], [m₁, m₂], [d₁, d₂], rfl, rfl, rfl,
        List.all_eq_true.mp digits⟩, rest, rfl, Option.some.inj h⟩
    · cases h
  · rintro ⟨⟨year, month, day, four, two, two', isDigit⟩, rest, rfl, rfl⟩
    match year, month, day, four, two, two' with
    | [y₁, y₂, y₃, y₄], [m₁, m₂], [d₁, d₂], _, _, _ =>
      exact if_pos (List.all_eq_true.mpr isDigit)

/-! ### Writing and reading -/

/-- **A date that is named is written as its name.** -/
theorem DateText.Names.text_eq {t : DateText} {d : Date} (h : t.Names d) : d.text = t.text := by
  have digits := t.isDigit
  rw [List.forall_mem_append, List.forall_mem_append] at digits
  have same {ds : List Char} {width : Nat} (positive : 0 < width) (length : ds.length = width)
      (isDigit : ∀ c ∈ ds, c.isDigit = true) :
      Numeral.padded width (Numeral.natOfDigits ds) = ds := by
    subst length
    exact Numeral.padded_natOfDigits (List.length_pos_iff.mp positive) isDigit
  have bound := Numeral.natOfDigits_lt digits.1
  rw [t.length_year] at bound
  have year : Date.yearText d.year = t.year := by
    rw [← h.year, Date.yearText, if_pos (by omega), Int.natAbs_natCast]
    exact same (by decide) t.length_year digits.1
  rw [Date.text, year, ← h.month, ← h.day, same (by decide) t.length_month digits.2.1,
    same (by decide) t.length_day digits.2.2, text]

/-- **A date of four digits has a name.** -/
theorem Date.exists_dateText {d : Date} (low : 0 ≤ d.year) (high : d.year ≤ 9999) :
    ∃ t : DateText, t.Names d := by
  obtain ⟨y, year⟩ := Int.eq_ofNat_of_zero_le low
  have isDay := isCalendarDay_iff.mpr (year ▸ d.isDay)
  have := isDay.isMonth
  have := isDay.last
  refine ⟨⟨Numeral.padded 4 y, Numeral.padded 2 d.month, Numeral.padded 2 d.day,
    Numeral.length_padded (by decide) (by omega), Numeral.length_padded (by decide) (by omega),
    Numeral.length_padded (by decide) (by omega), ?_⟩, ?_, ?_, ?_⟩
  · simp only [List.forall_mem_append]
    exact ⟨fun _ => Numeral.isDigit_of_mem_padded, fun _ => Numeral.isDigit_of_mem_padded,
      fun _ => Numeral.isDigit_of_mem_padded⟩
  · rw [Numeral.natOfDigits_padded, year]
  · exact Numeral.natOfDigits_padded 2 d.month
  · exact Numeral.natOfDigits_padded 2 d.day

end StarSchema
