import Mathlib.Data.List.DropRight
import StarSchema.Text.Blank

/-!
# Trimmed texts

What trimming leaves of a text: nothing if and only if all of it is blank, and a start without
blanks as it is.

Main results: `trim_trim`, `trim_eq_nil_iff`, `exists_trim_append`.
-/

namespace StarSchema.Text

variable {s : List Char}

theorem trim_eq_rdropWhile (s : List Char) : trim s = (s.dropWhile isBlank).rdropWhile isBlank :=
  rfl

/-- No blanks are left to trim. -/
theorem trim_trim (s : List Char) : trim (trim s) = trim s := by
  have start : (trim s).dropWhile isBlank = trim s := by
    have before : trim s <+: s.dropWhile isBlank := List.rdropWhile_prefix _ _
    rw [List.dropWhile_eq_self_iff]
    intro present
    rw [before.getElem present]
    exact List.dropWhile_get_zero_not _ s (present.trans_le before.length_le)
  rw [trim_eq_rdropWhile (trim s), start, trim_eq_rdropWhile, List.rdropWhile_idempotent]

theorem mem_of_mem_trim {c : Char} (h : c ∈ trim s) : c ∈ s := by
  have before : trim s <+: s.dropWhile isBlank := List.rdropWhile_prefix _ _
  exact (List.dropWhile_sublist _).subset (before.subset h)

theorem trim_eq_nil_iff : trim s = [] ↔ ∀ c ∈ s, isBlank c = true := by
  rw [trim_eq_rdropWhile, List.rdropWhile_eq_nil_iff]
  refine ⟨fun blank c hc => ?_, fun blank c hc => blank c ((List.dropWhile_sublist _).subset hc)⟩
  rw [← List.takeWhile_append_dropWhile (p := isBlank) (l := s), List.mem_append] at hc
  rcases hc with hc | hc
  · exact List.mem_takeWhile_imp hc
  · exact blank c hc

theorem skipBlanks_append {t : List Char} (nonempty : t ≠ []) (ht : ∀ c ∈ t, isBlank c = false)
    (rest : List Char) : skipBlanks (t ++ rest) = t ++ rest := by
  obtain ⟨c, u, rfl⟩ := List.exists_cons_of_ne_nil nonempty
  exact skipBlanks_cons_of_not_blank (ht c List.mem_cons_self) (u ++ rest)

theorem skipBlanks_eq_self (h : ∀ c ∈ s, isBlank c = false) : skipBlanks s = s := by
  cases s with
  | nil => rfl
  | cons c s => exact skipBlanks_cons_of_not_blank (h c List.mem_cons_self) s

theorem trim_eq_self (h : ∀ c ∈ s, isBlank c = false) : trim s = s := by
  rw [trim, skipBlanks_eq_self h, skipBlanks_eq_self fun c hc => h c (List.mem_reverse.mp hc),
    List.reverse_reverse]

/-- What follows a start without blanks may lose some at its end. -/
theorem exists_trim_append {t : List Char} (nonempty : t ≠ []) (ht : ∀ c ∈ t, isBlank c = false)
    (rest : List Char) : ∃ rest', trim (t ++ rest) = t ++ rest' := by
  have back : t.reverse.dropWhile isBlank = t.reverse :=
    skipBlanks_eq_self fun c hc => ht c (List.mem_reverse.mp hc)
  rw [trim, skipBlanks_append nonempty ht, List.reverse_append, skipBlanks, List.dropWhile_append,
    back]
  split
  · exact ⟨[], by rw [List.reverse_reverse, List.append_nil]⟩
  · exact ⟨_, by rw [List.reverse_append, List.reverse_reverse]⟩

end StarSchema.Text
