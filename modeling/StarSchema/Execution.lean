import StarSchema.Sql.Query
import StarSchema.Value.Convert

/-!
# Execution of queries

A query is answered elsewhere, with rows of unchecked cells or with a failure; answering it may
change a state, of which nothing is assumed.

Main definitions: `Executor`, `fetch`, `fetchTyped`, `ExecutionError`.
-/

namespace StarSchema

/-- The cells of a row, in the order of the projection. -/
abbrev Row := List Input

inductive ExecutionError where
  | failed (message : String)
  | columnCount (expected given : Nat)
deriving DecidableEq

def ExecutionError.message : ExecutionError → String
  | .failed message => "Query failed: " ++ message
  | .columnCount expected given =>
    "Expected " ++ toString expected ++ " columns per row, got " ++ toString given

/-- What answers queries, as a change of a state. -/
abbrev Executor (σ : Type) := Sql.Query → σ → Except ExecutionError (List Row) × σ

/-- Rows that all have the expected width. -/
def checkWidth (width : Nat) (rows : List Row) : Except ExecutionError (List Row) :=
  match rows.find? (·.length ≠ width) with
  | some row => .error (.columnCount width row.length)
  | none => .ok rows

/-- The rows of a query, each as wide as its projection. -/
def Executor.fetch {σ : Type} (exec : Executor σ) (q : Sql.Query) (state : σ) :
    Except ExecutionError (List Row) × σ :=
  let (answer, state) := exec q state
  (answer.bind (checkWidth q.select.length), state)

/-- The cells of a row, each converted to the type of its column. -/
def convertRow (types : List DataType) (row : Row) :
    Except ConversionError (List (Option Value)) :=
  (types.zip row).mapM fun (dataType, cell) => convert dataType cell

theorem checkWidth_eq_ok_iff {width : Nat} {rows rows' : List Row} :
    checkWidth width rows = .ok rows' ↔ rows' = rows ∧ ∀ row ∈ rows, row.length = width := by
  unfold checkWidth
  cases h : rows.find? (·.length ≠ width) with
  | some row =>
    have hp := List.find?_some h
    have hm := List.mem_of_find?_eq_some h
    simp only [reduceCtorEq, false_iff, not_and]
    intro _ hw
    simp [hw row hm] at hp
  | none =>
    rw [List.find?_eq_none] at h
    simp only [Except.ok.injEq]
    constructor
    · rintro rfl
      exact ⟨rfl, fun row hr => by simpa using h row hr⟩
    · rintro ⟨rfl, _⟩
      rfl

end StarSchema
