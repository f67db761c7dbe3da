import StarSchema.Proofs.Catalog.Names

/-!
# What a request for labels does

One equation for each operation of the label cache: what it answers, what it leaves in the cache,
and what it asks of the executor. Everything about runs is derived from these, so that no other
module opens the operations again.

Main definitions:

* `LabelCache.readAnswer`, `LabelCache.keep`: the labels in an answer, and the cache that keeps
  them;
* `readPairs`, `joinedLabels`: the two halves of `lookupLabels`, reading pairs and joining them;
* `tryRefresh`: the cache as a refresh leaves it.

Main results: `LabelCache.fetchLabels_eq`, `LabelCache.clean?_keep_of_ne`,
`LabelCache.clean?_mark`.
-/

namespace StarSchema

/-! ### Rows as labels -/

@[simp]
theorem length_select_pairsQuery (l : Lookup) : l.pairsQuery.select.length = 2 := rfl

/-- The pairs of keys in the rows of a lookup table. -/
def readPairs (rows : List Row) : Except ConversionError (List (Int64 × Int64)) :=
  (rows.mapM pairOfRow).map (·.filterMap id)

/-- The labels of associated pairs: for each proximal key those of its distal keys. -/
def joinedLabels (distal : Labels) (pairs : List (Int64 × Int64)) : Labels :=
  withoutSelection (pairs.foldl (addPair distal) ∅)

theorem lookupLabels_eq (distal : Labels) (rows : List Row) :
    lookupLabels distal rows = (readPairs rows).map (joinedLabels distal) := by
  unfold lookupLabels readPairs
  cases rows.mapM pairOfRow with
  | error e => rfl
  | ok pairs => rfl

theorem zero_of_dimensionLabels {rows : List Row} {labels : Labels}
    (h : dimensionLabels rows = .ok labels) : labels[(0 : Int64)]? = some "" := by
  obtain ⟨entries, -, h⟩ := bind_eq_ok_iff.mp h
  rw [← pure_eq_ok_iff.mp h]
  exact withoutSelection_zero _

@[simp]
theorem joinedLabels_zero (distal : Labels) (pairs : List (Int64 × Int64)) :
    (joinedLabels distal pairs)[(0 : Int64)]? = some "" :=
  withoutSelection_zero _

namespace LabelCache

/-! ### One fetch -/

/-- The labels in the answer to a query for those of a table. -/
def readAnswer (name : String) (read : List Row → Except ConversionError Labels)
    (answer : Except ExecutionError (List Row)) : Except LabelError Labels :=
  (answer.mapError .execution).bind fun rows => (read rows).mapError (.conversion name)

/-- The cache with labels that have just been fetched, if they could be. -/
def keep (cache : LabelCache) (name : String) : Except LabelError Labels → LabelCache
  | .ok labels => cache.store name labels
  | .error _ => cache

theorem readAnswer_eq_ok_iff {name : String} {read : List Row → Except ConversionError Labels}
    {answer : Except ExecutionError (List Row)} {labels : Labels} :
    readAnswer name read answer = .ok labels ↔
      ∃ rows, answer = .ok rows ∧ read rows = .ok labels := by
  unfold readAnswer
  cases answer with
  | error e => simp [Except.mapError, Except.bind]
  | ok rows =>
    show (read rows).mapError _ = .ok labels ↔ _
    rw [mapError_eq_ok_iff]
    simp

variable {σ : Type} (exec : Executor σ)

theorem fetchLabels_eq (name : String) (q : Sql.Query)
    (read : List Row → Except ConversionError Labels) (cache : LabelCache) (state : σ) :
    fetchLabels exec name q read cache state =
      (readAnswer name read (exec.fetch q state).1,
        cache.keep name (readAnswer name read (exec.fetch q state).1),
        (exec.fetch q state).2) := by
  rcases hf : exec.fetch q state with ⟨answer, state'⟩
  simp only [fetchLabels, hf]
  show (match readAnswer name read answer with | .ok labels => _ | .error e => _) = _
  cases readAnswer name read answer with
  | ok labels => rfl
  | error e => rfl

/-! ### The cache after a fetch or a refresh -/

theorem clean?_eq_some_iff {cache : LabelCache} {name : String} {labels : Labels} :
    cache.clean? name = some labels ↔ name ∉ cache.dirty ∧ cache.labels[name]? = some labels := by
  unfold clean?
  by_cases h : name ∈ cache.dirty
  · simp [Std.TreeSet.contains_iff_mem, h]
  · simp [Std.TreeSet.contains_iff_mem, h]

theorem mem_dirty_store {cache : LabelCache} {name other : String} {labels : Labels} :
    other ∈ (cache.store name labels).dirty ↔ other ≠ name ∧ other ∈ cache.dirty := by
  rw [store, Std.TreeSet.mem_erase, ne_eq, Std.compare_eq_iff_eq, eq_comm]

theorem mem_labels_store {cache : LabelCache} {name other : String} {labels : Labels} :
    other ∈ (cache.store name labels).labels ↔ other = name ∨ other ∈ cache.labels := by
  rw [store, Std.TreeMap.mem_insert, Std.compare_eq_iff_eq, eq_comm]

theorem getElem?_labels_store_self (cache : LabelCache) (name : String) (labels : Labels) :
    (cache.store name labels).labels[name]? = some labels := by
  simp [store]

theorem getElem?_labels_store_of_ne {cache : LabelCache} {name other : String} (labels : Labels)
    (h : other ≠ name) : (cache.store name labels).labels[other]? = cache.labels[other]? := by
  simp [store, Std.TreeMap.getElem?_insert, h.symm]

theorem clean?_keep_of_ne {cache : LabelCache} {name other : String}
    (answer : Except LabelError Labels) (h : name ≠ other) :
    (cache.keep name answer).clean? other = cache.clean? other := by
  cases answer with
  | ok labels => exact clean?_store_of_ne labels h
  | error e => rfl

/-- What is clean after tables have been marked was clean before and is none of them. -/
theorem clean?_mark {cache : LabelCache} {names : List String} {name : String} {labels : Labels} :
    (cache.mark names).clean? name = some labels ↔
      name ∉ names ∧ cache.clean? name = some labels := by
  rw [clean?_eq_some_iff, clean?_eq_some_iff, mem_dirty_mark, not_or, and_assoc]
  rfl

/-- Nothing is cached at first. -/
theorem clean?_initial (c : Catalog) (name : String) : (initial c).clean? name = none := by
  rw [Option.eq_none_iff_forall_not_mem]
  intro labels h
  have hcached := (clean?_eq_some_iff.mp h).2
  simp [initial] at hcached

/-- A name without labels is refused before anything is marked. -/
theorem run_invalidate (c : Catalog) (name : String) (cache : LabelCache) :
    (invalidate c name).run.run cache =
      if name ∈ c.labelled then (.ok (), cache.mark (name :: c.dependents name))
      else (.error (.notLabelled name), cache) := by
  by_cases present : name ∈ c.labelled
  · rw [invalidate, if_neg (not_not.mpr present), if_pos present]
    rfl
  · rw [invalidate, if_pos present, if_neg present]
    rfl

/-- The cache as a refresh leaves it, whether it is refused or not. -/
def tryRefresh (c : Catalog) (name : String) (cache : LabelCache) : LabelCache :=
  (invalidate c name).after cache

theorem tryRefresh_of_mem {c : Catalog} {name : String} (h : name ∈ c.labelled)
    (cache : LabelCache) : cache.tryRefresh c name = cache.mark (name :: c.dependents name) := by
  rw [tryRefresh, InPlace.after, run_invalidate, if_pos h]

theorem tryRefresh_of_not_mem {c : Catalog} {name : String} (h : name ∉ c.labelled)
    (cache : LabelCache) : cache.tryRefresh c name = cache := by
  rw [tryRefresh, InPlace.after, run_invalidate, if_neg h]

end LabelCache

theorem Model.after_invalidate (m : Model) (name : String) :
    (Model.invalidate name).after m = { m with labels := m.labels.tryRefresh m.catalog name } := by
  let putBack (labels : LabelCache) : Model := { m with labels }
  exact (LabelCache.invalidate m.catalog name).after_onPart m.labels putBack id m

end StarSchema
