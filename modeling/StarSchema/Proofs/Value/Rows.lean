import StarSchema.Column
import StarSchema.Execution
import StarSchema.Proofs.Value.Conversion

/-!
# Rows as they are read

The rows of an answer have cells of any kind. Each row is read by the types of some columns, which
fails if the row is too short or too long or if one of its cells does not convert. A row that is
read has one value for each column, absent or of the type of the column.

Main definitions: `Row.ReadAs`, `Row.IsFaulty`.

Main results: `convertRow_eq_ok_iff`, `Row.exists_readAs_iff`, `Row.ReadAs.dataType_eq`.
-/

namespace StarSchema

namespace Row

/-- The row has one cell for each column, and each cell is converted to the type of its column. -/
structure ReadAs (columns : List Column) (row : Row) (values : List (Option Value)) : Prop where
  width : row.length = columns.length
  length : values.length = columns.length
  value : ∀ (k : Nat) (c : Column) (cell : Input), columns[k]? = some c → row[k]? = some cell →
    ∃ value?, values[k]? = some value? ∧ convert c.dataType cell = .ok value?

/-- The row is too short or too long, or a cell of it does not convert to the type of its column. -/
def IsFaulty (columns : List Column) (row : Row) : Prop :=
  row.length ≠ columns.length ∨
    ∃ (k : Nat) (c : Column) (cell : Input) (e : ConversionError), columns[k]? = some c ∧
      row[k]? = some cell ∧ convert c.dataType cell = .error e

variable {columns : List Column} {row : Row} {values : List (Option Value)}

/-- A value that is there is of the type of its column. -/
theorem ReadAs.dataType_eq (h : row.ReadAs columns values) {k : Nat} {c : Column} {v : Value}
    (column : columns[k]? = some c) (present : values[k]? = some (some v)) :
    v.dataType = c.dataType := by
  obtain ⟨bound, -⟩ := List.getElem?_eq_some_iff.mp column
  rw [← h.width] at bound
  obtain ⟨value?, same, converted⟩ := h.value k c _ column (List.getElem?_eq_getElem bound)
  rw [present] at same
  cases same
  exact dataType_of_convert converted

end Row

section

variable {columns : List Column} {row : Row} {values : List (Option Value)}

/-- A row of the right width is read cell by cell. -/
theorem forall₂_zip_iff (width : row.length = columns.length) :
    (columns.zip row).Forall₂ (fun x value? => convert x.1.dataType x.2 = .ok value?) values ↔
      row.ReadAs columns values := by
  have zipped : (columns.zip row).length = columns.length := by
    rw [List.length_zip, width, Nat.min_self]
  rw [List.forall₂_iff_get]
  constructor
  · rintro ⟨length, cells⟩
    rw [zipped] at length
    refine ⟨width, length.symm, fun k c cell hc hcell => ?_⟩
    obtain ⟨bound, rfl⟩ := List.getElem?_eq_some_iff.mp hc
    obtain ⟨bound', rfl⟩ := List.getElem?_eq_some_iff.mp hcell
    have converted := cells k (zipped.symm ▸ bound) (length ▸ bound)
    simp only [List.get_eq_getElem, List.getElem_zip] at converted
    exact ⟨_, List.getElem?_eq_getElem (length ▸ bound), converted⟩
  · intro h
    refine ⟨zipped.trans h.length.symm, fun k bound bound' => ?_⟩
    rw [zipped] at bound
    obtain ⟨value?, same, converted⟩ := h.value k _ _ (List.getElem?_eq_getElem bound)
      (List.getElem?_eq_getElem (width.symm ▸ bound))
    obtain ⟨_, rfl⟩ := List.getElem?_eq_some_iff.mp same
    simpa only [List.get_eq_getElem, List.getElem_zip] using converted

/-- Reading a row of the right width gives the values of its cells. -/
theorem convertRow_eq_ok_iff (width : row.length = columns.length) :
    convertRow (columns.map (·.dataType)) row = .ok values ↔ row.ReadAs columns values := by
  rw [convertRow, mapM_eq_ok_iff, ← forall₂_zip_iff width, List.zip_map_left,
    List.forall₂_map_left_iff]
  rfl

/-- A row is read unless it is faulty. -/
theorem Row.exists_readAs_iff : (∃ values, row.ReadAs columns values) ↔ ¬ row.IsFaulty columns := by
  rw [IsFaulty, not_or, not_not]
  constructor
  · rintro ⟨values, h⟩
    refine ⟨h.width, ?_⟩
    rintro ⟨k, c, cell, e, hc, hcell, refused⟩
    obtain ⟨value?, -, converted⟩ := h.value k c cell hc hcell
    rw [refused] at converted
    cases converted
  · rintro ⟨width, sound⟩
    simp only [← forall₂_zip_iff width, exists_forall₂_iff]
    rintro ⟨c, cell⟩ mem
    obtain ⟨k, hk⟩ := List.mem_iff_getElem?.mp mem
    obtain ⟨hc, hcell⟩ := List.getElem?_zip_eq_some.mp hk
    cases converted : convert c.dataType cell with
    | ok value? => exact ⟨value?, rfl⟩
    | error e => exact absurd ⟨k, c, cell, e, hc, hcell, converted⟩ sound

end

end StarSchema
