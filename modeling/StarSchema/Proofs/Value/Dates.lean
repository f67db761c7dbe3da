import StarSchema.Proofs.Calendar
import StarSchema.Proofs.Text.Trimmed
import StarSchema.Proofs.Value.Conversion
import StarSchema.Value.Format

/-!
# Dates of texts

A text is a date if it begins with ten characters that are written as one and that name a day,
blanks in front of them aside. What follows them is not looked at, be it a time of day or anything
else; and the day is written as those ten characters again. So a date of four digits is read back
from every text that it is shown as, also from one with a time of day.

Main results: `toDate_str_eq_ok_iff`, `exists_text_of_format_date`, `dates_read_exactly`.
-/

namespace StarSchema

/-! ### Reading -/

theorem toDate_str_of_names {s : String} {t : DateText} {rest : List Char} {d : Date}
    (text : Text.trim s.toList = t.text ++ rest) (names : t.Names d) :
    (Input.str s).toDate = .ok d := by
  have read := Date.parts?_eq_some_iff.mpr ⟨t, rest, text, rfl⟩
  have day := Date.ofParts?_eq_some_iff.mpr names
  simp [Input.toDate, read, DateText.numbers, day]

theorem exists_names_of_toDate_str {s : String} {d : Date} (h : (Input.str s).toDate = .ok d) :
    ∃ (t : DateText) (rest : List Char), Text.trim s.toList = t.text ++ rest ∧ t.Names d := by
  cases written : Date.parts? (Text.trim s.toList) with
  | none => simp [Input.toDate, written] at h
  | some numbers =>
    obtain ⟨t, rest, text, rfl⟩ := Date.parts?_eq_some_iff.mp written
    refine ⟨t, rest, text, Date.ofParts?_eq_some_iff.mp ?_⟩
    simp only [Input.toDate, written, DateText.numbers] at h
    split at h
    · next found =>
      rw [found, Except.ok.inj h]
    · cases h

theorem convert_date_str {s : String} (filled : Text.trim s.toList ≠ []) :
    convert .date (.str s) = (Input.str s).toDate.map (some ∘ .date) := by
  simp [convert, Input.isNull, Input.isBlank, filled]

theorem DateText.text_ne_nil (t : DateText) : t.text ≠ [] :=
  List.ne_nil_of_length_pos (by rw [t.length_text]; decide)

/-- A text that begins with the name of a day is converted to it. -/
theorem convert_date_of_names {s : String} {t : DateText} {rest : List Char} {d : Date}
    (text : Text.trim s.toList = t.text ++ rest) (names : t.Names d) :
    convert .date (.str s) = .ok (some (.date d)) := by
  have filled : Text.trim s.toList ≠ [] := by simp [text, t.text_ne_nil]
  rw [convert_date_str filled, toDate_str_of_names text names]
  rfl

/-- **The texts that are dates**: those that begin with the name of a day. -/
theorem isOk_convert_date_iff {s : String} (filled : Text.trim s.toList ≠ []) :
    (∃ v?, convert .date (.str s) = .ok v?) ↔
      ∃ (t : DateText) (rest : List Char), Text.trim s.toList = t.text ++ rest ∧ t.IsDay := by
  constructor
  · rintro ⟨v?, h⟩
    rw [convert_date_str filled] at h
    obtain ⟨d, read, -⟩ := map_eq_ok_iff.mp h
    obtain ⟨t, rest, text, names⟩ := exists_names_of_toDate_str read
    exact ⟨t, rest, text, DateText.isDay_iff_exists_names.mpr ⟨d, names⟩⟩
  · rintro ⟨t, rest, text, isDay⟩
    obtain ⟨d, names⟩ := DateText.isDay_iff_exists_names.mp isDay
    exact ⟨_, convert_date_of_names text names⟩

/-! ### Showing -/

theorem DateText.isBlank_eq_false {t : DateText} : ∀ c ∈ t.text, Text.isBlank c = false := by
  have digit {c : Char} (hc : c ∈ t.year ++ (t.month ++ t.day)) : Text.isBlank c = false :=
    Text.isBlank_of_isDigit (t.isDigit c hc)
  intro c hc
  simp only [text, List.mem_append, List.mem_cons] at hc digit
  rcases hc with (year | rfl | month) | rfl | day
  · exact digit (.inl year)
  · rfl
  · exact digit (.inr (.inl month))
  · rfl
  · exact digit (.inr (.inr day))

/-- A date is shown as its text, perhaps with a time of day behind it. -/
theorem exists_format_date {input : Input} {d : Date}
    (h : convert .date input = .ok (some (.date d))) (as? : Option DisplayFormat) :
    ∃ rest, format .date input as? = .ok (some (String.ofList (d.text ++ rest))) := by
  have shown : format .date input as? =
      .ok (some ((Value.date d).show input (as?.getD .date))) := by
    rw [format, h]
    rfl
  have plain : (Value.date d).text = String.ofList (d.text ++ []) := by
    rw [List.append_nil]
    rfl
  rw [shown]
  cases as?.getD .date with
  | accounting | bool | currency | date | float | int | str => exact ⟨[], by rw [← plain]; rfl⟩
  | dateTime =>
    cases input with
    | dateTime t =>
      obtain rfl : t.date = d := by simpa [convert, Input.isNull, Input.isBlank, Input.toDate,
        Except.map] using h
      refine ⟨' ' :: Numeral.padded 2 t.hour ++ ':' :: Numeral.padded 2 t.minute ++
        ':' :: Numeral.padded 2 t.second, ?_⟩
      simp [Value.show, DateTime.text]
    | null | bool | int | float | str | date => exact ⟨[], by rw [← plain]; rfl⟩

/-- **A date of four digits is read back from every text that it is shown as.** -/
theorem exists_text_of_format_date {input : Input} {d : Date} (low : 0 ≤ d.year)
    (high : d.year ≤ 9999) (h : convert .date input = .ok (some (.date d)))
    (as? : Option DisplayFormat) :
    ∃ text, format .date input as? = .ok (some text) ∧
      convert .date (.str text) = .ok (some (.date d)) := by
  obtain ⟨t, names⟩ := Date.exists_dateText low high
  obtain ⟨rest, shown⟩ := exists_format_date h as?
  obtain ⟨rest', trimmed⟩ := Text.exists_trim_append t.text_ne_nil t.isBlank_eq_false rest
  have text : Text.trim (String.ofList (d.text ++ rest)).toList = t.text ++ rest' := by
    rw [String.toList_ofList, names.text_eq, trimmed]
  exact ⟨_, shown, convert_date_of_names text names⟩

/-- **Dates are read exactly.** A text that is not blank is converted just if it begins with ten
characters that name a day, apart from blanks; it is converted to that day whatever follows them,
and the day is written as them. A date of four digits is read back from every text that it is shown
as. -/
theorem dates_read_exactly :
    (∀ s : String, Text.trim s.toList ≠ [] →
      ((∃ v?, convert .date (.str s) = .ok v?) ↔
        ∃ (t : DateText) (rest : List Char), Text.trim s.toList = t.text ++ rest ∧ t.IsDay) ∧
      ∀ (t : DateText) (rest : List Char), Text.trim s.toList = t.text ++ rest → t.IsDay →
        ∃ d : Date, t.Names d ∧ convert .date (.str s) = .ok (some (.date d)) ∧
          (Value.date d).text = String.ofList t.text) ∧
    ∀ d : Date, 0 ≤ d.year → d.year ≤ 9999 →
      convert .date (.date d) = .ok (some (.date d)) ∧
      ∀ (input : Input) (as? : Option DisplayFormat),
        convert .date input = .ok (some (.date d)) →
        ∃ text, format .date input as? = .ok (some text) ∧
          convert .date (.str text) = .ok (some (.date d)) := by
  refine ⟨fun s filled => ⟨isOk_convert_date_iff filled, fun t rest text isDay => ?_⟩,
    fun d low high => ⟨rfl, fun input as? h => exists_text_of_format_date low high h as?⟩⟩
  obtain ⟨d, names⟩ := DateText.isDay_iff_exists_names.mp isDay
  refine ⟨d, names, convert_date_of_names text names, ?_⟩
  rw [Value.text, names.text_eq]

/-- The last day of February in a leap year. -/
def Date.leapDay : Date := ⟨2024, 2, 29, by decide⟩

/-- The day is read from a text with a time, and from the one that it is shown as. In a year that
ends a century and is no leap year there is no such day. -/
theorem dates_read_exactly_leapDay :
    (convert .date (.str " 2024-02-29T23:59 ") = .ok (some (.date .leapDay)) ∧
      (Value.date .leapDay).text = "2024-02-29" ∧
      format .date (.dateTime ⟨.leapDay, 23, 59, 0⟩) (some .dateTime) =
        .ok (some "2024-02-29 23:59:00") ∧
      convert .date (.str "2024-02-29 23:59:00") = .ok (some (.date .leapDay))) ∧
    ¬∃ v?, convert .date (.str "1900-02-29") = .ok v? := by
  constructor
  · have filled : Text.trim " 2024-02-29T23:59 ".toList ≠ [] := by decide +kernel
    let t : DateText := ⟨"2024".toList, "02".toList, "29".toList, rfl, rfl, rfl,
      List.all_eq_true.mp (by decide)⟩
    have begins : Text.trim " 2024-02-29T23:59 ".toList = t.text ++ "T23:59".toList := by
      decide +kernel
    have isDay : t.IsDay := isCalendarDay_iff.mpr (by decide)
    obtain ⟨d, names, read, text⟩ := (dates_read_exactly.1 _ filled).2 t _ begins isDay
    obtain rfl : d = .leapDay := names.unique ⟨rfl, rfl, rfl⟩
    obtain ⟨-, again⟩ := dates_read_exactly.2 .leapDay (by decide) (by decide)
    obtain ⟨shown, formatted, back⟩ := again (.dateTime ⟨.leapDay, 23, 59, 0⟩) (some .dateTime) rfl
    have spelled : format .date (.dateTime ⟨.leapDay, 23, 59, 0⟩) (some .dateTime) =
        .ok (some "2024-02-29 23:59:00") := by decide +kernel
    cases spelled.symm.trans formatted
    exact ⟨read, text, formatted, back⟩
  · have filled : Text.trim "1900-02-29".toList ≠ [] := by decide +kernel
    rw [(dates_read_exactly.1 _ filled).1]
    rintro ⟨t, rest, text, isDay⟩
    have written := Date.parts?_eq_some_iff.mpr ⟨t, rest, text, rfl⟩
    have numbers : Date.parts? (Text.trim "1900-02-29".toList) = some (1900, 2, 29) := by
      decide +kernel
    rw [numbers, Option.some.injEq, DateText.numbers, Prod.mk.injEq, Prod.mk.injEq] at written
    obtain ⟨year, month, day⟩ := written
    rw [DateText.IsDay, ← year, ← month, ← day, isCalendarDay_iff] at isDay
    revert isDay
    decide

end StarSchema
