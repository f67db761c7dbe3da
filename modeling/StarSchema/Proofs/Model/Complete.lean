import StarSchema.Proofs.Model.Creation
import StarSchema.Proofs.Model.Views
import StarSchema.Proofs.Table.Row

/-!
# No statement lacks a part that it needs

A query needs a table and something to select, a statement that adds a row needs columns, and one
that changes or removes a row needs the condition that singles the row out. Every table has a key,
and so every star has something to select and every row can be singled out. Two statements hang on
what is declared: a view that neither groups nor aggregates selects nothing, and a row of a table
that has nothing but a key has no columns.

Main definitions: `IsComplete`, for each kind of statement, and `TableDecl.IsWrittenBy`.

Main result: `Model.complete_statements`.
-/

namespace StarSchema

variable {engine : PatternEngine}

/-! ### Statements -/

namespace Sql

/-- Something is selected from a table. -/
structure Query.IsComplete (q : Query) : Prop where
  table : q.from?.isSome = true
  items : q.select ≠ []

/-- Each of the rows, of which there are some, has an item for each column. -/
structure Insert.IsAligned (i : Insert) : Prop where
  rows : i.rows ≠ []
  width : ∀ row ∈ i.rows, row.length = i.columns.length

/-- The condition singles out the row of a key. -/
def Expr.IsKeyCondition (table key : String) (e : Expr) : Prop :=
  ∃ v : Value, e = .binary .eq (.column table key) (.ofValue v)

/-- Some column is set, in the row of a key. -/
structure Update.IsComplete (key : String) (u : Update) : Prop where
  set : u.set ≠ []
  row : ∃ e, u.where? = some e ∧ e.IsKeyCondition u.table key

/-- The row of a key is removed. -/
structure Delete.IsComplete (key : String) (x : Delete) : Prop where
  row : ∃ e, x.where? = some e ∧ e.IsKeyCondition x.table key

/-- There are columns, and one of them, once, is the key. -/
structure CreateTable.IsComplete (s : CreateTable) : Prop where
  columns : s.columns ≠ []
  key : (s.columns.flatMap (·.constraints)).count .primaryKey = 1

end Sql

/-! ### Tables -/

theorem count_primaryKey (fields : List Field) :
    (fields.flatMap Field.constraints).count .primaryKey = (fields.filter (·.isKey)).length := by
  induction fields with
  | nil => rfl
  | cons f fields ih =>
    have own : f.constraints.count .primaryKey = if f.isKey then 1 else 0 := by
      rw [Field.constraints]
      cases f.isKey <;> cases f.reference? <;> simp
    rw [List.flatMap_cons, List.count_append, ih, own, List.filter_cons]
    cases f.isKey <;> simp [Nat.add_comm]

namespace Table

variable {t : Table}

theorem isComplete_createTable (t : Table) : t.createTable.IsComplete where
  columns := List.ne_nil_of_mem (List.mem_map_of_mem t.key_mem_fields)
  key := by
    have constraints : t.createTable.columns.flatMap (·.constraints) =
        t.fields.flatMap Field.constraints := List.flatMap_map ..
    rw [constraints, count_primaryKey, t.filter_isKey, List.length_singleton]

theorem isKeyCondition_keyPredicate {key : Input} {e : Sql.Expr}
    (h : t.keyPredicate key = .ok e) : e.IsKeyCondition t.name t.key.name := by
  obtain ⟨v, -, rfl⟩ := keyPredicate_eq_ok_iff.mp h
  exact ⟨v, rfl⟩

theorem isAligned_insertRow {inputs : List Input} {i : Sql.Insert}
    (h : t.insertRow inputs = .ok i) : i.IsAligned := by
  obtain ⟨-, row, built, rfl⟩ := insertRow_eq_ok_iff.mp h
  refine ⟨List.cons_ne_nil _ _, List.forall_mem_singleton.mpr ?_⟩
  rw [List.length_map, length_row built]

theorem isComplete_updateRow {key : Input} {inputs : List Input} {u : Sql.Update}
    (h : t.updateRow key inputs = .ok u) : u.IsComplete t.key.name := by
  obtain ⟨-, writes, e, row, found, built, rfl⟩ := updateRow_eq_ok_iff.mp h
  exact
    { set := assignments_ne_nil (length_row built) writes
      row := ⟨e, rfl, isKeyCondition_keyPredicate found⟩ }

theorem isComplete_deleteRow {key : Input} {x : Sql.Delete} (h : t.deleteRow key = .ok x) :
    x.IsComplete t.key.name := by
  obtain ⟨-, e, found, rfl⟩ := deleteRow_eq_ok_iff.mp h
  exact ⟨e, rfl, isKeyCondition_keyPredicate found⟩

end Table

/-- The statements for the table are complete, save that a row has columns only if there are fields
other than the key. -/
structure TableDecl.IsWrittenBy (d : TableDecl) (t : Table) : Prop where
  name : t.name = d.name
  key : (d.fields.filter (·.isKey)).map (·.name) = [t.key.name]
  create : t.createTable.IsComplete
  insert : ∀ inputs i, t.insertRow inputs = .ok i →
    i.IsAligned ∧ (i.columns ≠ [] ↔ ∃ f ∈ d.fields, f.isKey = false)
  update : ∀ key inputs u, t.updateRow key inputs = .ok u → u.IsComplete t.key.name
  delete : ∀ key x, t.deleteRow key = .ok x → x.IsComplete t.key.name

theorem Table.Records.isWrittenBy {settings : Settings} {d : TableDecl} {t : Table}
    (h : t.Records engine settings d) : d.IsWrittenBy t where
  name := h.name
  key := by
    rw [← names_keys_of_records h.fields, t.filter_isKey, List.map_singleton]
  create := t.isComplete_createTable
  insert inputs i written := by
    refine ⟨isAligned_insertRow written, ?_⟩
    obtain ⟨-, row, -, rfl⟩ := insertRow_eq_ok_iff.mp written
    have columns : t.nonKeyFields.map (·.name) ≠ [] ↔ ∃ f ∈ t.fields, f.isKey = false := by
      simp [nonKeyFields]
    rw [columns]
    constructor
    · rintro ⟨f, hf, other⟩
      obtain ⟨x, hx, record⟩ := h.exists_decl hf
      exact ⟨x, hx, record.isKey ▸ other⟩
    · rintro ⟨x, hx, other⟩
      obtain ⟨f, hf, record⟩ := exists_right_of_forall₂ h.fields hx
      exact ⟨f, hf, record.isKey.trans other⟩
  update _ _ _ := isComplete_updateRow
  delete _ _ := isComplete_deleteRow

/-! ### Queries -/

/-- A star shows the key of its fact, whatever else it shows. -/
theorem Star.isComplete_compose {s : Star} {q : Sql.Query} (h : s.compose = .ok q) :
    q.IsComplete := by
  obtain ⟨orderBy, -, rfl⟩ := compose_eq_ok_iff.mp h
  have key : StarField.stored s.fact.table.key ∈ s.fields.filter (·.isShown) :=
    List.mem_filter.mpr ⟨stored_mem_fields s.fact.table.key_mem_fields, rfl⟩
  exact ⟨rfl, List.ne_nil_of_mem (List.mem_map_of_mem (List.mem_map_of_mem key))⟩

/-- A view shows what it groups by and what it aggregates, and nothing else. -/
theorem ViewPlan.Records.isComplete_compose_iff {vd : ViewDecl} {p : ViewPlan}
    (records : p.Records vd) {s s' : Star} {v : View} (bound : View.ofPlan s p = .ok v)
    {q : Sql.Query} (h : v.compose s' = .ok q) :
    q.IsComplete ↔ vd.groupBy ≠ [] ∨ vd.aggregates ≠ [] := by
  obtain ⟨orderBy, -, rfl⟩ := View.compose_eq_ok_iff.mp h
  have names := (View.names_of_ofPlan bound).2.2.2
  have aggregates : p.aggregates = [] ↔ vd.aggregates = [] := by
    rw [← List.length_eq_zero_iff, ← records.aggregates.length_eq, List.length_eq_zero_iff]
  have shown : v.columns = [] ↔ vd.groupBy = [] ∧ vd.aggregates = [] := by
    rw [← List.map_eq_nil_iff (f := (·.displayName)), names, List.append_eq_nil_iff,
      List.map_eq_nil_iff, records.groupBy, aggregates]
  rw [← not_and_or, ← shown]
  constructor
  · intro complete none
    exact complete.items (List.map_eq_nil_iff.mpr none)
  · intro some
    exact ⟨rfl, fun none => some (List.map_eq_nil_iff.mp none)⟩

/-! ### Models -/

namespace Model

variable {d : ModelDecl} {m : Model}

theorem exists_isWrittenBy (h : Model.ofDecl engine d = .ok m) {t : Table}
    (ht : t ∈ m.catalog.tables) : ∃ td ∈ d.tables, td.IsWrittenBy t := by
  obtain ⟨td, htd, records⟩ := exists_left_of_forall₂ (Catalog.records_tables (catalog_of_ofDecl h))
    (m.catalog.perm_tables.mem_iff.mp ht)
  exact ⟨td, htd, records.isWrittenBy⟩

/-- **What is complete and what hangs on the declaration.** In a model that loads, after any
requests to filters, the query of a star and those for labels and pairs select something from a
table; the query of a view does so just if the view is declared to group or to aggregate. Each
table that is created has columns and one key. A row that is added has as many items as columns, of
which there are some just if a field other than the key is declared. A row is changed in some
column, and it is changed or removed by its key. -/
theorem complete_statements (h : Model.ofDecl engine d = .ok m) (requests : List FilterRequest) :
    let m' := m.runFilters requests
    (∀ name q, m'.composeStar name = .ok q → q.IsComplete) ∧
    (∀ name q, m'.composeView name = .ok q → q.from?.isSome = true ∧
      ∃ vd, d.view? name = some vd ∧
        (q.IsComplete ↔ vd.groupBy ≠ [] ∨ vd.aggregates ≠ [])) ∧
    (∀ x ∈ m.catalog.dimensions, x.labelQuery.IsComplete) ∧
    (∀ x ∈ m.catalog.lookups, x.pairsQuery.IsComplete) ∧
    (∀ s ∈ m.createStatements, s.IsComplete) ∧
    ∀ t ∈ m.catalog.tables, ∃ td ∈ d.tables, td.IsWrittenBy t := by
  intro m'
  refine ⟨fun name q composed => ?_, fun name q composed => ?_, fun x _ => ?_, fun x _ => ?_,
    List.forall_mem_map.mpr fun t _ => t.isComplete_createTable, fun _ => exists_isWrittenBy h⟩
  · obtain ⟨s, -, composed⟩ := composeStar_eq_ok_iff.mp composed
    exact Star.isComplete_compose composed
  · obtain ⟨vd, p, s, v, last, records, -, bound, composed⟩ := exists_decl_of_composeView h composed
    refine ⟨?_, vd, last, records.isComplete_compose_iff bound composed⟩
    rw [(View.tableNames_compose composed).1]
    rfl
  · exact ⟨rfl, List.cons_ne_nil _ _⟩
  · exact ⟨rfl, List.cons_ne_nil _ _⟩

end Model

/-! ### A table with nothing but a key -/

/-- Marks that have nothing but a key, and a view of them that shows nothing. -/
def ModelDecl.bare : ModelDecl where
  facts :=
    [{ table :=
        { name := "marks"
          fields := [{ name := "id", dataType? := some .int, isKey := true }] } }]
  views := [{ name := "nothing", fact := "marks" }]

namespace Model

theorem bare_outcome :
    (Model.ofDecl .plain .bare).toOption.any (fun m =>
      ((m.runFilters [.clear "marks"]).composeView "nothing").isOk &&
        m.catalog.tables.any fun t => (t.insertRow []).isOk) = true := by
  decide +kernel

/-- The view selects nothing, and the row that is added has no columns. -/
theorem complete_statements_bare : ∃ m, Model.ofDecl .plain .bare = .ok m ∧
    (∃ q, (m.runFilters [.clear "marks"]).composeView "nothing" = .ok q ∧
      q.from?.isSome = true ∧ ¬ q.IsComplete) ∧
    ∃ t ∈ m.catalog.tables, ∃ i, t.insertRow [] = .ok i ∧ i.IsAligned ∧ i.columns = [] := by
  obtain ⟨m, built, outcome⟩ := exists_of_any_toOption bare_outcome
  obtain ⟨composes, writes⟩ := Bool.and_eq_true_iff.mp outcome
  obtain ⟨-, views, -, -, -, tables⟩ := complete_statements built [.clear "marks"]
  refine ⟨m, built, ?_, ?_⟩
  · obtain ⟨q, composed⟩ := exists_eq_ok_of_isOk composes
    obtain ⟨table, vd, last, complete⟩ := views _ q composed
    cases last
    exact ⟨q, composed, table, fun items => absurd (complete.mp items) (by decide)⟩
  · obtain ⟨t, ht, written⟩ := List.any_eq_true.mp writes
    obtain ⟨i, written⟩ := exists_eq_ok_of_isOk written
    obtain ⟨td, htd, statements⟩ := tables t ht
    obtain ⟨aligned, columns⟩ := statements.insert _ i written
    have fields : ∀ x ∈ ModelDecl.bare.tables, ¬ ∃ f ∈ x.fields, f.isKey = false := by decide
    exact ⟨t, ht, i, written, aligned, not_not.mp fun some => fields td htd (columns.mp some)⟩

end Model

end StarSchema
