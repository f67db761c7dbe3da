import StarSchema.Proofs.Traversal
import StarSchema.Value.Convert

/-!
# What conversion gives

Main result: `dataType_of_convert`.
-/

namespace StarSchema

theorem Value.dataType_of_empty? {dataType : DataType} {v : Value}
    (h : Value.empty? dataType = some v) : v.dataType = dataType := by
  cases dataType with
  | date => cases h
  | bool | float | int | str =>
    cases h
    rfl

/-- **A converted value is of the type that was asked for.** -/
theorem dataType_of_convert {dataType : DataType} {input : Input} {v : Value}
    (h : convert dataType input = .ok (some v)) : v.dataType = dataType := by
  unfold convert at h
  split at h
  · cases h
  · split at h
    · exact Value.dataType_of_empty? (Except.ok.inj h)
    · split at h
      case h_5 =>
        cases h
        rfl
      all_goals
        obtain ⟨a, -, ha⟩ := map_eq_ok_iff.mp h
        cases ha
        rfl

end StarSchema
