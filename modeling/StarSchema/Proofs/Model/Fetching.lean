import StarSchema.Proofs.Model.Scope
import StarSchema.Proofs.Value.Rows

/-!
# Fetched rows have the types of their columns

The projection of a query, the columns that are shown and the types by which rows are read come from
one list of columns, so they agree position by position. A query that is answered with a row that
does not fit is not answered at all: nothing is cut off, and no cell is left out.

Main definitions: `Sql.Query.Projects`, `RowsRead`.

Main result: `Model.fetched_rows_typed`.
-/

namespace StarSchema

/-- The items of the query are the columns, each under its display name. -/
def Sql.Query.Projects (q : Query) (columns : List Column) : Prop :=
  columns.Forall₂ (fun c item => item.expr = c.expr ∧ item.alias? = some c.displayName) q.select

/-- What is made of an answer: each row is read by the columns, in order, and each value that is
there is of the type of its column; and there is no result if the query has failed or if some row
is faulty. -/
structure RowsRead (columns : List Column) (answer : Except ExecutionError (List Row))
    (result : Except RequestError (List (List (Option Value)))) : Prop where
  ok_iff : ∀ read, result = .ok read ↔
    ∃ rows, answer = .ok rows ∧ rows.Forall₂ (Row.ReadAs columns) read
  typed : ∀ read, result = .ok read → ∀ values ∈ read, ∀ (k : Nat) (c : Column) (v : Value),
    columns[k]? = some c → values[k]? = some (some v) → v.dataType = c.dataType
  error_iff : (∃ e, result = .error e) ↔
    (∃ e, answer = .error e) ∨ ∃ rows, answer = .ok rows ∧ ∃ row ∈ rows, row.IsFaulty columns

/-! ### One query -/

section

variable {σ : Type} {columns : List Column} {q : Sql.Query}

theorem projects_map_selectItem (columns : List Column) :
    columns.Forall₂ (fun c item => item.expr = c.expr ∧ item.alias? = some c.displayName)
      (columns.map (·.selectItem)) :=
  List.forall₂_map_right_iff.mpr (List.forall₂_same.mpr fun _ _ => ⟨rfl, rfl⟩)

/-- Rows are read just if each of them has the width of the columns and is read. -/
theorem fetchTyped_eq_ok_iff (exec : Executor σ) (projects : q.Projects columns) (state : σ)
    (read : List (List (Option Value))) :
    (Model.fetchTyped exec q columns state).1 = .ok read ↔
      ∃ rows, (exec q state).1 = .ok rows ∧ rows.Forall₂ (Row.ReadAs columns) read := by
  have width : q.select.length = columns.length := projects.length_eq.symm
  have steps : (Model.fetchTyped exec q columns state).1 =
      (((exec q state).1 >>= checkWidth q.select.length).mapError .execution >>= fun rows =>
        (rows.mapM (convertRow (columns.map (·.dataType)))).mapError .conversion) := rfl
  simp only [steps, bind_eq_ok_iff, mapError_eq_ok_iff, checkWidth_eq_ok_iff, mapM_eq_ok_iff, width]
  constructor
  · rintro ⟨rows, ⟨_, answered, rfl, widths⟩, converted⟩
    refine ⟨rows, answered, ?_⟩
    refine ((List.forall₂_and_left _ _).mpr ⟨widths, converted⟩).imp ?_
    rintro row values ⟨fits, converted⟩
    exact (convertRow_eq_ok_iff fits).mp converted
  · rintro ⟨rows, answered, readAs⟩
    refine ⟨rows, ⟨rows, answered, rfl, fun row hr => ?_⟩, readAs.imp fun row values h =>
      (convertRow_eq_ok_iff h.width).mpr h⟩
    obtain ⟨values, -, h⟩ := exists_right_of_forall₂ readAs hr
    exact h.width

/-- **A query for some columns gives rows of their types, or none.** -/
theorem rowsRead_fetchTyped (exec : Executor σ) (projects : q.Projects columns) (state : σ) :
    RowsRead columns (exec q state).1 (Model.fetchTyped exec q columns state).1 := by
  have ok_iff := fetchTyped_eq_ok_iff exec projects state
  refine ⟨ok_iff, fun read done values mem k c v column present => ?_, ?_⟩
  · obtain ⟨rows, -, readAs⟩ := (ok_iff read).mp done
    obtain ⟨row, -, h⟩ := exists_left_of_forall₂ readAs mem
    exact h.dataType_eq column present
  · have failed : (∃ e, (Model.fetchTyped exec q columns state).1 = .error e) ↔
        ¬ ∃ read, (Model.fetchTyped exec q columns state).1 = .ok read := by
      cases (Model.fetchTyped exec q columns state).1 <;> simp
    rw [failed]
    simp only [ok_iff]
    cases (exec q state).1 with
    | error e => simp
    | ok rows =>
      have readable : (∃ read, rows.Forall₂ (Row.ReadAs columns) read) ↔
          ∀ row ∈ rows, ¬ row.IsFaulty columns := by
        simp only [exists_forall₂_iff, Row.exists_readAs_iff]
      simp [readable]

end

/-! ### Columns -/

/-- A star shows all fields of its fact, then the label of each dimension that it joins, then the
calculated fields that are to be shown. -/
theorem Star.columns_eq (s : Star) :
    s.columns = s.fact.table.fields.map (·.column) ++ s.joins.map (·.dimension.label.column) ++
      (s.calculated.filter (·.shown)).map (·.column) := by
  simp only [columns, fields, labels, List.filter_append, List.map_append, List.filter_map,
    List.map_map]
  congr 1
  · congr 1
    · exact congrArg (List.map _) (List.filter_eq_self.mpr fun _ _ => rfl)
    · exact congrArg (List.map _) (List.filter_eq_self.mpr fun _ _ => rfl)

theorem Star.projects_compose {s : Star} {q : Sql.Query} (h : s.compose = .ok q) :
    q.Projects s.columns := by
  obtain ⟨orderBy, -, rfl⟩ := compose_eq_ok_iff.mp h
  exact projects_map_selectItem _

theorem View.projects_compose {v : View} {s : Star} {q : Sql.Query} (h : v.compose s = .ok q) :
    q.Projects v.columns := by
  obtain ⟨orderBy, -, rfl⟩ := compose_eq_ok_iff.mp h
  exact projects_map_selectItem _

/-! ### Models -/

namespace Model

variable {d : ModelDecl} {m : Model} {σ : Type} {name : String} {q : Sql.Query}

theorem fetchStar_of_composeStar (h : m.composeStar name = .ok q) (exec : Executor σ) (state : σ) :
    ∃ s, m.star name = .ok s ∧ q.Projects s.columns ∧
      m.fetchStar exec name state = fetchTyped exec q s.columns state := by
  obtain ⟨s, found, composed⟩ := composeStar_eq_ok_iff.mp h
  refine ⟨s, found, Star.projects_compose composed, ?_⟩
  rw [fetchStar, found, h]

theorem fetchView_of_composeView (h : m.composeView name = .ok q) (exec : Executor σ) (state : σ) :
    ∃ v, m.view name = .ok v ∧ q.Projects v.columns ∧
      m.fetchView exec name state = fetchTyped exec q v.columns state := by
  obtain ⟨v, s, found, -, composed⟩ := composeView_eq_ok_iff.mp h
  refine ⟨v, found, View.projects_compose composed, ?_⟩
  rw [fetchView, found, h]

/-- **Fetched rows have the types of their columns.** Take a model in any state of its filters and a
star or view of it that composes. What its query selects are its columns, each under its display
name; for a star these are the fields of the fact, the labels of the joined dimensions and the
calculated fields to be shown. Its rows are fetched by one query. They are those of the answer, in
order and each read by the types of the columns, and there are none if the query fails or if a
single row is too short, too long or has a cell that does not convert. -/
theorem fetched_rows_typed (m : Model) (exec : Executor σ) (state : σ) :
    (∀ name q, m.composeStar name = .ok q → ∃ s, m.star name = .ok s ∧
      q.Projects s.columns ∧
      s.columns = s.fact.table.fields.map (·.column) ++ s.joins.map (·.dimension.label.column) ++
        (s.calculated.filter (·.shown)).map (·.column) ∧
      RowsRead s.columns (exec q state).1 (m.fetchStar exec name state).1 ∧
      (m.fetchStar exec name state).2 = (exec q state).2) ∧
    ∀ name q, m.composeView name = .ok q → ∃ v, m.view name = .ok v ∧
      q.Projects v.columns ∧
      RowsRead v.columns (exec q state).1 (m.fetchView exec name state).1 ∧
      (m.fetchView exec name state).2 = (exec q state).2 := by
  constructor
  · intro name q composed
    obtain ⟨s, found, projects, fetched⟩ := fetchStar_of_composeStar composed exec state
    rw [fetched]
    exact ⟨s, found, projects, s.columns_eq, rowsRead_fetchTyped exec projects state, rfl⟩
  · intro name q composed
    obtain ⟨v, found, projects, fetched⟩ := fetchView_of_composeView composed exec state
    rw [fetched]
    exact ⟨v, found, projects, rowsRead_fetchTyped exec projects state, rfl⟩

end Model

/-! ### One sale -/

/-- Answers every query with one sale, and counts the queries. -/
def Executor.oneSale : Executor Nat := fun _ count =>
  (.ok [[.int 1, .int 2, .int 7, .str "4", .str "Chair", .null]], count + 1)

namespace Model

theorem oneSale_outcome :
    (Model.ofDecl .plain .sales).toOption.any (fun m =>
      ((m.composeStar "sales").isOk && (m.fetchStar .oneSale "sales" 0).1.isOk) &&
        (m.composeView "margins").toOption.any (·.select.length == 2)) = true := by
  decide +kernel

/-- The star has a column for each cell. The view has not, and fetches nothing. -/
theorem fetched_rows_typed_oneSale : ∃ m, Model.ofDecl .plain .sales = .ok m ∧
    (∃ s read, m.star "sales" = .ok s ∧ s.columns.length = 6 ∧
      m.fetchStar .oneSale "sales" 0 = (.ok read, 1) ∧ read.length = 1) ∧
    ∃ e, m.fetchView .oneSale "margins" 0 = (.error e, 1) := by
  obtain ⟨m, built, outcome⟩ := exists_of_any_toOption oneSale_outcome
  rw [Bool.and_eq_true, Bool.and_eq_true] at outcome
  obtain ⟨⟨star, fetches⟩, view⟩ := outcome
  obtain ⟨q, composed⟩ := exists_eq_ok_of_isOk star
  obtain ⟨read, fetched⟩ := exists_eq_ok_of_isOk fetches
  obtain ⟨q', composed', two⟩ := exists_of_any_toOption view
  obtain ⟨stars, views⟩ := fetched_rows_typed m .oneSale 0
  obtain ⟨s, found, -, -, rowsRead, asked⟩ := stars _ q composed
  obtain ⟨v, -, projects, rowsRead', asked'⟩ := views _ q' composed'
  refine ⟨m, built, ?_, ?_⟩
  · obtain ⟨rows, answered, readAs⟩ := (rowsRead.ok_iff read).mp fetched
    cases answered
    obtain ⟨values, -, one⟩ := exists_right_of_forall₂ readAs List.mem_cons_self
    exact ⟨s, read, found, one.width.symm, Prod.ext fetched asked, readAs.length_eq.symm⟩
  · have width : v.columns.length = 2 := projects.length_eq.trans (beq_iff_eq.mp two)
    have faulty : Row.IsFaulty v.columns
        [.int 1, .int 2, .int 7, .str "4", .str "Chair", .null] := .inl (by rw [width]; decide)
    obtain ⟨e, failed⟩ := rowsRead'.error_iff.mpr
      (.inr ⟨_, rfl, _, List.mem_singleton_self _, faulty⟩)
    exact ⟨e, Prod.ext failed asked'⟩

end Model

end StarSchema
