import StarSchema.Proofs.Traversal
import StarSchema.Table.Row

/-!
# Statements for rows that are accepted

A statement that adds, changes or removes a row is built after a chain of checks. What is said here
of each builder is what it has accepted once it succeeds and what it then gives, so that nothing
else has to look into the chain.

Main results: `Table.keyPredicate_eq_ok_iff`, `Table.row_eq_ok_iff`, `Table.insertRow_eq_ok_iff`,
`Table.updateRow_eq_ok_iff`, `Table.deleteRow_eq_ok_iff`.
-/

namespace StarSchema

namespace Table

variable {t : Table} {key : Input} {inputs : List Input}

theorem requireEditable_eq_ok_iff : t.requireEditable = .ok () ↔ t.editable = true := by
  rw [requireEditable]
  cases t.editable <;> simp

/-- A row is singled out by a present value of the type of the key. -/
theorem keyPredicate_eq_ok_iff {e : Sql.Expr} :
    t.keyPredicate key = .ok e ↔
      ∃ v, convert t.key.dataType key = .ok (some v) ∧
        e = .binary .eq (.column t.name t.key.name) (.ofValue v) := by
  rw [keyPredicate, bind_eq_ok_iff]
  constructor
  · rintro ⟨value?, converted, h⟩
    cases value? with
    | none => cases h
    | some v => exact ⟨v, mapError_eq_ok_iff.mp converted, (pure_eq_ok_iff.mp h).symm⟩
  · rintro ⟨v, converted, rfl⟩
    exact ⟨some v, mapError_eq_ok_iff.mpr converted, rfl⟩

/-- A row has one cell for each field other than the key, in order. -/
theorem row_eq_ok_iff {row : List Sql.Expr} :
    t.row inputs = .ok row ↔
      inputs.length = t.nonKeyFields.length ∧
        (t.nonKeyFields.zip inputs).Forall₂ (fun x e => x.1.cell x.2 = .ok e) row := by
  rw [Table.row]
  by_cases arity : inputs.length = t.nonKeyFields.length
  · simp only [arity, ne_eq, not_true_eq_false, if_false, true_and, mapM_eq_ok_iff,
      mapError_eq_ok_iff]
  · simp only [arity, ne_eq, not_false_eq_true, if_true, false_and, iff_false]
    intro h
    cases h

theorem length_row {row : List Sql.Expr} (h : t.row inputs = .ok row) :
    row.length = t.nonKeyFields.length := by
  obtain ⟨arity, cells⟩ := row_eq_ok_iff.mp h
  rw [← cells.length_eq, List.length_zip, arity, Nat.min_self]

theorem insertRow_eq_ok_iff {i : Sql.Insert} :
    t.insertRow inputs = .ok i ↔
      t.editable = true ∧ ∃ row, t.row inputs = .ok row ∧
        i = { table := t.name, columns := t.nonKeyFields.map (·.name), rows := [row] } := by
  simp only [insertRow, bind_eq_ok_iff, pure_eq_ok_iff, eq_comm (b := i)]
  rw [← requireEditable_eq_ok_iff]
  exact ⟨fun ⟨(), checked, h⟩ => ⟨checked, h⟩, fun ⟨checked, h⟩ => ⟨(), checked, h⟩⟩

/-- The columns that an update writes: those of the editable fields, each with its cell. -/
def assignments (t : Table) (row : List Sql.Expr) : List (String × Sql.Expr) :=
  ((t.nonKeyFields.zip row).filter (·.1.editable)).map fun (field, e) => (field.name, e)

theorem updateRow_eq_ok_iff {u : Sql.Update} :
    t.updateRow key inputs = .ok u ↔
      t.editable = true ∧ (∃ f ∈ t.nonKeyFields, f.editable = true) ∧
        ∃ e row, t.keyPredicate key = .ok e ∧ t.row inputs = .ok row ∧
          u = { table := t.name, set := t.assignments row, where? := some e } := by
  rw [updateRow, bind_eq_ok_iff, ← List.any_eq_true]
  constructor
  · rintro ⟨_, checked, h⟩
    cases writes : t.nonKeyFields.any (·.editable) with
    | false =>
      rw [writes] at h
      cases h
    | true =>
      rw [writes] at h
      obtain ⟨e, found, h⟩ := bind_eq_ok_iff.mp h
      obtain ⟨row, built, h⟩ := bind_eq_ok_iff.mp h
      exact ⟨requireEditable_eq_ok_iff.mp checked, rfl, e, row, found, built,
        (pure_eq_ok_iff.mp h).symm⟩
  · rintro ⟨editable, writes, e, row, found, built, rfl⟩
    refine ⟨(), requireEditable_eq_ok_iff.mpr editable, ?_⟩
    rw [writes, found, built]
    rfl

theorem deleteRow_eq_ok_iff {x : Sql.Delete} :
    t.deleteRow key = .ok x ↔
      t.editable = true ∧ ∃ e, t.keyPredicate key = .ok e ∧
        x = { table := t.name, where? := some e } := by
  simp only [deleteRow, bind_eq_ok_iff, pure_eq_ok_iff, eq_comm (b := x)]
  rw [← requireEditable_eq_ok_iff]
  exact ⟨fun ⟨(), checked, h⟩ => ⟨checked, h⟩, fun ⟨checked, h⟩ => ⟨(), checked, h⟩⟩

/-- Some editable field other than the key means some column to write. -/
theorem assignments_ne_nil {row : List Sql.Expr} (width : row.length = t.nonKeyFields.length)
    (writes : ∃ f ∈ t.nonKeyFields, f.editable = true) : t.assignments row ≠ [] := by
  obtain ⟨f, hf, editable⟩ := writes
  have standing : f ∈ (t.nonKeyFields.zip row).map Prod.fst := by
    rwa [List.map_fst_zip (Nat.le_of_eq width.symm)]
  obtain ⟨x, hx, rfl⟩ := List.mem_map.mp standing
  exact List.ne_nil_of_mem (List.mem_map_of_mem (List.mem_filter.mpr ⟨hx, editable⟩))

end Table

end StarSchema
