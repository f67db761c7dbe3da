import Mathlib.Data.List.Nodup
import StarSchema.Sql.Query

/-!
# The rows of joined tables

What the tables of a query and its joins mean, as far as rows are concerned. A table is a list of
rows, in which the same row may stand more than once, and a row gives a cell to every column, or
null. A left outer join pairs each row so far with every row of the joined table for which the
condition is true, or with nulls if there is none. Conditions compare columns; a comparison with a
null is true of nothing.

Main definitions: `Database`, `JoinedRow`, `Expr.isTrueOf`, `Join.extend`, `Query.joinedRows`,
`Database.IsKey`, `Database.rowOf?`.

Main result: `Join.extend_of_isKey`, by which a join on a key gives one row for each row.
-/

namespace StarSchema.Sql

variable {V : Type}

/-- A row of a table: a cell for each column, none for null. -/
abbrev TableRow (V : Type) := String → Option V

/-- The rows of every table. -/
abbrev Database (V : Type) := String → List (TableRow V)

/-- A row of joined tables: each table with one of its rows, or with none where nulls stand. -/
abbrev JoinedRow (V : Type) := List (String × Option (TableRow V))

/-- The cell of a column of a table; null if the table has no row. -/
def JoinedRow.cell (r : JoinedRow V) (table column : String) : Option V :=
  (r.lookup table).join.bind (· column)

/-- The cell that an expression names. -/
def Expr.cell? (r : JoinedRow V) : Expr → Option V
  | .column t c => r.cell t c
  | .paren e => e.cell? r
  | _ => none

/-- Two cells are equal if both are there and have the same value. -/
def cellsAgree [DecidableEq V] : Option V → Option V → Bool
  | some v, some w => v = w
  | _, _ => false

/-- Whether a condition on columns is true of a row. -/
def Expr.isTrueOf [DecidableEq V] (r : JoinedRow V) : Expr → Bool
  | .binary .eq x y => cellsAgree (x.cell? r) (y.cell? r)
  | .binary .and x y => x.isTrueOf r && y.isTrueOf r
  | .paren e => e.isTrueOf r
  | _ => false

/-- The rows that a left outer join makes of a row. -/
def Join.extend [DecidableEq V] (db : Database V) (j : Join) (r : JoinedRow V) :
    List (JoinedRow V) :=
  let pairs := (db j.table).map fun row => r ++ [(j.table, some row)]
  match pairs.filter (j.on.isTrueOf ·) with
  | [] => [r ++ [(j.table, none)]]
  | found => found

/-- The rows of the tables of a query, before any condition. -/
def Query.joinedRows [DecidableEq V] (db : Database V) (q : Query) : List (JoinedRow V) :=
  q.joins.foldl (fun rows j => rows.flatMap (j.extend db))
    (q.from?.elim [[]] fun table => (db table).map fun row => [(table, some row)])

/-- No value stands twice in the column. Nulls may. -/
def Database.IsKey (db : Database V) (table column : String) : Prop :=
  ((db table).filterMap (· column)).Nodup

/-- The first row of a table with a value in a column; none for null. -/
def Database.rowOf? [DecidableEq V] (db : Database V) (table column : String) (cell : Option V) :
    Option (TableRow V) :=
  (db table).find? fun row => cellsAgree cell (row column)

/-! ### Rows by a key -/

theorem cellsAgree_iff [DecidableEq V] {x y : Option V} :
    cellsAgree x y = true ↔ ∃ v, x = some v ∧ y = some v := by
  cases x with
  | none => simp [cellsAgree]
  | some v =>
    cases y with
    | none => simp [cellsAgree]
    | some w => simp [cellsAgree, eq_comm]

/-- A key singles out at most one row. -/
theorem filter_cellsAgree {Row : Type} [DecidableEq V] {key : Row → Option V} {rows : List Row}
    (nodup : (rows.filterMap key).Nodup) (cell : Option V) :
    rows.filter (fun row => cellsAgree cell (key row)) =
      (rows.find? fun row => cellsAgree cell (key row)).toList := by
  induction rows with
  | nil => rfl
  | cons row rows ih =>
    have rest : (rows.filterMap key).Nodup :=
      nodup.sublist ((List.sublist_cons_self row rows).filterMap key)
    by_cases here : cellsAgree cell (key row) = true
    · obtain ⟨v, rfl, found⟩ := cellsAgree_iff.mp here
      rw [List.filterMap_cons_some found, List.nodup_cons] at nodup
      have others : rows.filter (fun row => cellsAgree (some v) (key row)) = [] := by
        refine List.filter_eq_nil_iff.mpr fun other mem agrees => nodup.1 ?_
        obtain ⟨w, same, found'⟩ := cellsAgree_iff.mp agrees
        exact List.mem_filterMap.mpr ⟨other, mem, found'.trans same.symm⟩
      simp only [List.filter_cons, List.find?_cons, here, others, if_true, Option.toList_some]
    · simp only [List.filter_cons, List.find?_cons, here, ih rest, Bool.false_eq_true, if_false]

/-- By a key, the row with a value is found just if it is there. -/
theorem Database.IsKey.rowOf?_eq_some_iff [DecidableEq V] {db : Database V}
    {table column : String} (key : db.IsKey table column) {cell : Option V} {row : TableRow V} :
    db.rowOf? table column cell = some row ↔
      row ∈ db table ∧ ∃ v, cell = some v ∧ row column = some v := by
  have singled : row ∈ (db table).filter (fun row => cellsAgree cell (row column)) ↔
      db.rowOf? table column cell = some row := by
    rw [filter_cellsAgree key, Option.mem_toList]
    rfl
  rw [← singled, List.mem_filter, cellsAgree_iff]

/-! ### One join -/

theorem lookup_concat_of_ne {r : JoinedRow V} {table other : String}
    (ne : table ≠ other) (row? : Option (TableRow V)) :
    (r ++ [(other, row?)]).lookup table = r.lookup table := by
  have skip : (table == other) = false := beq_eq_false_iff_ne.mpr ne
  rw [List.lookup_append, List.lookup_cons, skip]
  exact Option.or_none

theorem lookup_concat_self {r : JoinedRow V} {table : String} (fresh : table ∉ r.map Prod.fst)
    (row? : Option (TableRow V)) : (r ++ [(table, row?)]).lookup table = some row? := by
  have absent : r.lookup table = none := by
    refine List.lookup_eq_none_iff.mpr fun entry mem => ?_
    have differs : table ≠ entry.1 := fun same => fresh (same ▸ List.mem_map_of_mem mem)
    simpa using differs
  rw [List.lookup_append, absent, List.lookup_cons_self]
  rfl

/-- **A join on a key gives one row for each row:** the one that the key refers to, or nulls. -/
theorem Join.extend_of_isKey [DecidableEq V] {db : Database V} {table column joined key : String}
    (isKey : db.IsKey joined key) (ne : table ≠ joined) {r : JoinedRow V} {row : TableRow V}
    (source : r.lookup table = some (some row)) (fresh : joined ∉ r.map Prod.fst) :
    Join.extend db ⟨joined, .binary .eq (.column table column) (.column joined key)⟩ r =
      [r ++ [(joined, db.rowOf? joined key (row column))]] := by
  have condition (candidate : TableRow V) :
      (Expr.binary .eq (.column table column) (.column joined key)).isTrueOf
        (r ++ [(joined, some candidate)]) = cellsAgree (row column) (candidate key) := by
    rw [Expr.isTrueOf, Expr.cell?, Expr.cell?, JoinedRow.cell, JoinedRow.cell,
      lookup_concat_of_ne ne, source, lookup_concat_self fresh]
    rfl
  have found : ((db joined).map fun candidate => r ++ [(joined, some candidate)]).filter
      ((Expr.binary .eq (.column table column) (.column joined key)).isTrueOf ·) =
      (db.rowOf? joined key (row column)).toList.map fun candidate =>
        r ++ [(joined, some candidate)] := by
    rw [List.filter_map]
    simp only [Function.comp_def, condition]
    rw [filter_cellsAgree isKey]
    rfl
  rw [Join.extend]
  simp only [found]
  cases db.rowOf? joined key (row column) <;> rfl

end StarSchema.Sql
