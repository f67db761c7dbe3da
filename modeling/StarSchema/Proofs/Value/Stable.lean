import StarSchema.Proofs.Value.Grouped

/-!
# Converted values stay

A value is of the type that it was converted to, and if it is taken as input again it is converted
to itself; so is its plain text, if the type is that of integers, strings or truth values. This is
not for want of special cases: zero, false and blank text are empty input, so that the empty values
come back by another way than the others. It works out because they are what empty input stands for,
and because a string that is stored is either empty or not blank.

Main results: `exists_not_blank_toStr`, `converted_values_stay`.
-/

namespace StarSchema

/-! ### Texts that are not blank -/

theorem isBlank_str_iff {s : String} :
    (Input.str s).isBlank = true ↔ ∀ c ∈ s.toList, Text.isBlank c = true := by
  rw [Input.isBlank, List.isEmpty_iff, Text.trim_eq_nil_iff]

theorem isBlank_str_eq_false_iff {s : String} :
    (Input.str s).isBlank = false ↔ ∃ c ∈ s.toList, Text.isBlank c = false := by
  simp [← Bool.not_eq_true, isBlank_str_iff]

theorem Numeral.exists_not_blank_ofInt (n : Int) : ∃ c ∈ ofInt n, Text.isBlank c = false := by
  obtain ⟨c, hc⟩ := List.exists_mem_of_ne_nil _ (digitsOfNat_ne_nil n.natAbs)
  refine ⟨c, ?_, Text.isBlank_of_isDigit (isDigit_of_mem_digitsOfNat hc)⟩
  rw [ofInt]
  split <;> simp [hc]

theorem Binary64.Decimal.exists_not_blank_plain (d : Decimal) :
    ∃ c ∈ d.plain, Text.isBlank c = false := by
  by_cases whole : 0 ≤ d.exponent
  · obtain ⟨c, hc⟩ := List.exists_mem_of_ne_nil _ (Numeral.digitsOfNat_ne_nil d.digits)
    refine ⟨c, ?_, Text.isBlank_of_isDigit (Numeral.isDigit_of_mem_digitsOfNat hc)⟩
    rw [plain, if_pos whole]
    exact List.mem_append_left _ hc
  · exact ⟨'.', point_mem_plain (Int.not_le.mp whole), rfl⟩

theorem Binary64.exists_not_blank_display (x : Binary64) :
    ∃ c ∈ x.display, Text.isBlank c = false := by
  cases x with
  | nan => exact ⟨'N', by decide, rfl⟩
  | infinity negative => exact ⟨'i', by cases negative <;> decide, rfl⟩
  | finite negative m e canonical =>
    rw [display]
    split
    · exact ⟨'0', by simp, rfl⟩
    · obtain ⟨c, hc, present⟩ := (shortest .up m e).exists_not_blank_plain
      exact ⟨c, List.mem_append_right _ hc, present⟩

theorem Date.hyphen_mem_text (d : Date) : '-' ∈ d.text := by
  simp [text]

/-- **The text of input that is not empty is not blank.** -/
theorem exists_not_blank_toStr {input : Input} (present : input.isNull = false)
    (filled : input.isBlank = false) : ∃ c ∈ input.toStr.toList, Text.isBlank c = false := by
  cases input with
  | null => cases present
  | bool b =>
    cases b with
    | true => exact ⟨'T', by decide, rfl⟩
    | false => cases filled
  | int n => simpa [Input.toStr, Input.text] using Numeral.exists_not_blank_ofInt n.toInt
  | float x => simpa [Input.toStr, Input.text] using x.exists_not_blank_display
  | str s => exact isBlank_str_eq_false_iff.mp filled
  | date d => exact ⟨'-', by simp [Input.toStr, Input.text, d.hyphen_mem_text], rfl⟩
  | dateTime t =>
    exact ⟨'-', by simp [Input.toStr, Input.text, DateTime.text, t.date.hyphen_mem_text], rfl⟩

/-- A stored string is empty or not blank. -/
theorem eq_empty_or_not_blank_of_convert {input : Input} {s : String}
    (h : convert .str input = .ok (some (.str s))) :
    s = "" ∨ (Input.str s).isBlank = false := by
  unfold convert at h
  split at h
  · cases h
  · next present =>
    split at h
    · cases h
      exact .inl rfl
    · next filled =>
      cases h
      refine .inr (isBlank_str_eq_false_iff.mpr ?_)
      exact exists_not_blank_toStr (Bool.eq_false_iff.mpr present) (Bool.eq_false_iff.mpr filled)

/-! ### Values as input -/

theorem convert_int_int (n : Int64) : convert .int (.int n) = .ok (some (.int n)) := by
  by_cases zero : n = 0
  · rw [zero]
    rfl
  · have filled : (Input.int n).isBlank = false := by simpa [Input.isBlank] using zero
    rw [Input.convert_int_of_toInt rfl filled]
    rfl

theorem convert_str_str {s : String} (h : s = "" ∨ (Input.str s).isBlank = false) :
    convert .str (.str s) = .ok (some (.str s)) := by
  rcases h with rfl | filled
  · rfl
  · simp [convert, Input.isNull, filled, Input.toStr, Input.text]

theorem convert_int_text (n : Int64) :
    convert .int (.str (Value.int n).text) = .ok (some (.int n)) :=
  Amount.convert_ofInt (Amount.isWrittenAs_ofInt n.toInt)

/-- **A converted value stays what it is.** It is of the type that was asked for; taken as input it
is converted to itself, unless it is rounded; and so is its text, where the type has a text that it
reads. -/
theorem converted_values_stay {dataType : DataType} {input : Input} {v : Value}
    (h : convert dataType input = .ok (some v)) :
    v.dataType = dataType ∧
      (dataType ≠ .float → convert dataType v.toInput = .ok (some v)) ∧
      (dataType ∈ [.int, .str, .bool] →
        convert dataType (.str v.text) = .ok (some v)) := by
  obtain rfl := dataType_of_convert h
  refine ⟨rfl, ?_, ?_⟩
  · intro exact_
    cases v with
    | bool b => cases b <;> rfl
    | date d => rfl
    | float x => exact absurd rfl exact_
    | int n => exact convert_int_int n
    | str s => exact convert_str_str (eq_empty_or_not_blank_of_convert h)
  · intro textual
    cases v with
    | bool b => cases b <;> rfl
    | date d | float x => simp [Value.dataType] at textual
    | int n => exact convert_int_text n
    | str s => exact convert_str_str (eq_empty_or_not_blank_of_convert h)

/-- What empty input stands for stays, and so does a loss that was written in parentheses. -/
theorem converted_values_stay_empty :
    (convert .str (.str " \t ") = .ok (some (.str "")) ∧
      convert .str (.str "") = .ok (some (.str ""))) ∧
    (convert .bool (.int 0) = .ok (some (.bool false)) ∧
      convert .bool (.str "False") = .ok (some (.bool false))) ∧
    convert .int (.str "($1,234.56)") = .ok (some (.int (-1234))) ∧
      convert .int (.int (-1234)) = .ok (some (.int (-1234))) ∧
      convert .int (.str "-1234") = .ok (some (.int (-1234))) := by
  have blank : convert .str (.str " \t ") = .ok (some (.str "")) := by decide +kernel
  have zero : convert .bool (.int 0) = .ok (some (.bool false)) := rfl
  have loss : convert .int (.str "($1,234.56)") = .ok (some (.int (-1234))) := by decide +kernel
  obtain ⟨-, again, -⟩ := converted_values_stay blank
  obtain ⟨-, -, back⟩ := converted_values_stay zero
  obtain ⟨-, again', back'⟩ := converted_values_stay loss
  exact ⟨⟨blank, again (by decide)⟩, ⟨zero, back (by decide)⟩, loss, again' (by decide),
    back' (by decide)⟩

end StarSchema
