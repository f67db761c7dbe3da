import StarSchema.Proofs.Labels.Rows

/-!
# Requests for labels and the record of what they ask

A run is a list of requests to a model whose executor carries a state of its own, of which nothing
is assumed. To speak of what was fetched at some time, the executor is given a record of its
exchanges as part of its state; `run_recorded` says that keeping the record changes nothing else.

Main definitions: `LabelRequest`, `LabelRequest.run`, `Exchange`, `Executor.recorded`,
`LastGiven`.

Main result: `LabelRequest.run_recorded`.
-/

namespace StarSchema

variable {σ : Type}

/-! ### The record -/

/-- A query and its answer. -/
structure Exchange where
  query : Sql.Query
  answer : Except ExecutionError (List Row)

/-- The executor with a record of all exchanges, in order. -/
def Executor.recorded (exec : Executor σ) : Executor (σ × List Exchange) :=
  fun q (state, record) =>
    ((exec q state).1, ((exec q state).2, record ++ [⟨q, (exec q state).1⟩]))

/-- An exchange gives rows of a lookup table: it is a query from the table that was answered with
these rows, each of two cells which are keys or null. -/
structure Exchange.Gives (x : Exchange) (l : Lookup) (rows : List Row) : Prop where
  table : x.query.from? = some l.name
  answer : x.answer = .ok rows
  pairs : ∀ row ∈ rows, row.IsPair

/-- The rows of a lookup table that were fetched last: no exchange gives any after them. -/
def LastGiven (l : Lookup) (record : List Exchange) (rows : List Row) : Prop :=
  ∃ before x after, record = before ++ x :: after ∧ x.Gives l rows ∧
    ∀ y ∈ after, ∀ rows', ¬ y.Gives l rows'

theorem Exchange.Gives.lastGiven {x : Exchange} {l : Lookup} {rows : List Row} (h : x.Gives l rows)
    (record : List Exchange) : LastGiven l (record ++ [x]) rows :=
  ⟨record, x, [], rfl, h, fun _ hy => nomatch hy⟩

/-- An exchange that gives no rows of the table is of no account. -/
theorem LastGiven.append_singleton {l : Lookup} {record : List Exchange} {rows : List Row}
    (h : LastGiven l record rows) {x : Exchange} (hx : ∀ rows', ¬ x.Gives l rows') :
    LastGiven l (record ++ [x]) rows := by
  obtain ⟨before, y, after, rfl, given, last⟩ := h
  refine ⟨before, y, after ++ [x], by rw [List.append_assoc, List.cons_append], given, ?_⟩
  rw [List.forall_mem_append]
  exact ⟨last, List.forall_mem_singleton.mpr hx⟩

/-- What is asked of an executor does not hang on the record. -/
theorem fetch_recorded (exec : Executor σ) (q : Sql.Query) (state : σ) (record : List Exchange) :
    exec.recorded.fetch q (state, record) =
      ((exec q state).1.bind (checkWidth q.select.length),
        ((exec q state).2, record ++ [⟨q, (exec q state).1⟩])) := rfl

/-! ### Runs -/

/-- What a user of a model asks of its labels. -/
inductive LabelRequest where
  | foreignKeys (name : String)
  | refresh (name : String)

/-- The model and the state of the executor after a request. -/
def LabelRequest.apply (exec : Executor σ) : LabelRequest → Model × σ → Model × σ
  | .foreignKeys name, (m, state) => (m.foreignKeys exec name state).2
  | .refresh name, (m, state) => ((Model.invalidate name).after m, state)

/-- The model and the state of the executor after a run. -/
def LabelRequest.run (exec : Executor σ) (requests : List LabelRequest) (state : Model × σ) :
    Model × σ :=
  requests.foldl (fun state request => request.apply exec state) state

/-! ### The record has no influence -/

namespace LabelCache

variable (exec : Executor σ)

theorem fetchLabels_recorded (name : String) (q : Sql.Query)
    (read : List Row → Except ConversionError Labels) (cache : LabelCache) (state : σ)
    (record : List Exchange) :
    ∃ record', fetchLabels exec.recorded name q read cache (state, record) =
      ((fetchLabels exec name q read cache state).1, (fetchLabels exec name q read cache state).2.1,
        (fetchLabels exec name q read cache state).2.2, record') := by
  rw [fetchLabels_eq, fetchLabels_eq]
  exact ⟨_, rfl⟩

theorem dimensionKeys_recorded (d : Dimension) (cache : LabelCache) (state : σ)
    (record : List Exchange) :
    ∃ record', dimensionKeys exec.recorded d cache (state, record) =
      ((dimensionKeys exec d cache state).1, (dimensionKeys exec d cache state).2.1,
        (dimensionKeys exec d cache state).2.2, record') := by
  unfold dimensionKeys
  cases cache.clean? d.name with
  | some labels => exact ⟨record, rfl⟩
  | none => exact fetchLabels_recorded ..

theorem lookupKeys_recorded (c : Catalog) (l : Lookup) (cache : LabelCache) (state : σ)
    (record : List Exchange) :
    ∃ record', lookupKeys c exec.recorded l cache (state, record) =
      ((lookupKeys c exec l cache state).1, (lookupKeys c exec l cache state).2.1,
        (lookupKeys c exec l cache state).2.2, record') := by
  unfold lookupKeys
  cases cache.clean? l.name with
  | some labels => exact ⟨record, rfl⟩
  | none =>
    cases c.dimension? l.distal.dimension with
    | none => exact ⟨record, rfl⟩
    | some d =>
      obtain ⟨record', hkeys⟩ := dimensionKeys_recorded exec d cache state record
      rcases hplain : dimensionKeys exec d cache state with ⟨answer, cache', state'⟩
      rw [hplain] at hkeys
      simp only [hkeys, hplain]
      cases answer with
      | error e => exact ⟨record', rfl⟩
      | ok distal => exact fetchLabels_recorded ..

theorem foreignKeys_recorded (c : Catalog) (name : String) (cache : LabelCache) (state : σ)
    (record : List Exchange) :
    ∃ record', foreignKeys c exec.recorded name cache (state, record) =
      ((foreignKeys c exec name cache state).1, (foreignKeys c exec name cache state).2.1,
        (foreignKeys c exec name cache state).2.2, record') := by
  unfold foreignKeys
  cases c.dimension? name with
  | some d => exact dimensionKeys_recorded ..
  | none =>
    cases c.lookup? name with
    | some l => exact lookupKeys_recorded ..
    | none => exact ⟨record, rfl⟩

end LabelCache

namespace LabelRequest

variable (exec : Executor σ)

theorem apply_recorded (request : LabelRequest) (m : Model) (state : σ) (record : List Exchange) :
    ∃ record', request.apply exec.recorded (m, state, record) =
      ((request.apply exec (m, state)).1, (request.apply exec (m, state)).2, record') := by
  cases request with
  | foreignKeys name =>
    obtain ⟨record', hkeys⟩ :=
      LabelCache.foreignKeys_recorded exec m.catalog name m.labels state record
    exact ⟨record', by simp only [apply, Model.foreignKeys, hkeys]⟩
  | refresh name => exact ⟨record, rfl⟩

/-- **Keeping a record changes nothing else:** not the model, and not what becomes of the
executor. -/
theorem run_recorded (requests : List LabelRequest) (m : Model) (state : σ)
    (record : List Exchange) :
    ∃ record', run exec.recorded requests (m, state, record) =
      ((run exec requests (m, state)).1, (run exec requests (m, state)).2, record') := by
  induction requests generalizing m state record with
  | nil => exact ⟨record, rfl⟩
  | cons request requests ih =>
    obtain ⟨record', happly⟩ := apply_recorded exec request m state record
    obtain ⟨record'', hrun⟩ := ih (request.apply exec (m, state)).1
      (request.apply exec (m, state)).2 record'
    refine ⟨record'', ?_⟩
    rw [run, List.foldl_cons, happly]
    exact hrun

end LabelRequest

end StarSchema
