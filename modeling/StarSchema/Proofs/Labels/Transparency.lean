import Mathlib.Logic.Function.Basic
import StarSchema.Proofs.Labels.Fetch

/-!
# The label cache cannot be seen

Over a database whose answers hang on the contents of the queried table alone, a request for labels
answers as if nothing had ever been cached, as long as every change of a table is followed by a
refresh of it.

## The invariant

`UpToDate` says of a cache that each clean entry is what would be fetched now. For a dimension that
is a statement about one table. The labels of a lookup table are built from two, its own and that
of its distal dimension, and `refresh` has to mark it when either changes; that is the one place
where the dependents of a dimension matter, and `UpToDate.write` is where it is used.

Main definitions: `tableExecutor`, `LabelStep`, `LabelStep.run`, `LabelCache.currentLabels`,
`LabelCache.UpToDate`.

Main result: `foreignKeys_run_eq_initial`.
-/

namespace StarSchema

variable {engine : PatternEngine}

variable {γ : Type}

/-- A database in which an answer hangs on the query and the contents of the table that it is
from. -/
def tableExecutor (answer : Sql.Query → Option γ → Except ExecutionError (List Row)) :
    Executor (String → γ) :=
  fun q contents => (answer q (q.from?.map contents), contents)

/-- What happens to a model and its database between two looks at the labels. -/
inductive LabelStep (γ : Type) where
  | foreignKeys (name : String)
  | refresh (name : String)
  /-- A table gets other contents, and is refreshed. -/
  | write (table : String) (contents : γ)

/-- The model and the contents of the tables after a step. -/
def LabelStep.apply (answer : Sql.Query → Option γ → Except ExecutionError (List Row)) :
    LabelStep γ → Model × (String → γ) → Model × (String → γ)
  | .foreignKeys name, (m, db) => (m.foreignKeys (tableExecutor answer) name db).2
  | .refresh name, (m, db) => ((Model.invalidate name).after m, db)
  | .write table contents, (m, db) =>
    ((Model.invalidate table).after m, Function.update db table contents)

/-- The model and the contents of the tables after a run. -/
def LabelStep.run (answer : Sql.Query → Option γ → Except ExecutionError (List Row))
    (steps : List (LabelStep γ)) (state : Model × (String → γ)) : Model × (String → γ) :=
  steps.foldl (fun state step => step.apply answer state) state

namespace LabelCache

variable {answer : Sql.Query → Option γ → Except ExecutionError (List Row)} {db : String → γ}

section

variable (answer db)

/-- The labels that a dimension has now. -/
def currentDimension (d : Dimension) : Except LabelError Labels :=
  readAnswer d.name dimensionLabels ((tableExecutor answer).fetch d.labelQuery db).1

/-- The labels that a lookup table has now. -/
def currentLookup (c : Catalog) (l : Lookup) : Except LabelError Labels :=
  match c.dimension? l.distal.dimension with
  | none => .error (.resolution (.unknownTable l.distal.dimension))
  | some d =>
    match currentDimension answer db d with
    | .ok distal =>
      readAnswer l.name (lookupLabels distal) ((tableExecutor answer).fetch l.pairsQuery db).1
    | .error e => .error e

/-- The labels that a table has now. -/
def currentLabels (c : Catalog) (name : String) : Except LabelError Labels :=
  match c.dimension? name, c.lookup? name with
  | some d, _ => currentDimension answer db d
  | none, some l => currentLookup answer db c l
  | none, none => .error (.resolution (.notLabelled name))

/-- Every clean entry is what would be fetched now. -/
def UpToDate (c : Catalog) (cache : LabelCache) : Prop :=
  ∀ name labels, cache.clean? name = some labels → currentLabels answer db c name = .ok labels

end

variable {c : Catalog} {cache : LabelCache}

theorem upToDate_initial : UpToDate answer db c (initial c) := by
  intro name labels h
  rw [clean?_initial] at h
  cases h

/-- Keeping what was fetched just now leaves a cache up to date. -/
theorem UpToDate.keep (h : UpToDate answer db c cache) (name : String) :
    UpToDate answer db c (cache.keep name (currentLabels answer db c name)) := by
  intro other labels hclean
  by_cases hne : name = other
  · subst hne
    cases hcur : currentLabels answer db c name with
    | error e =>
      rw [hcur] at hclean
      rw [← hcur]
      exact h name labels hclean
    | ok current =>
      rw [hcur, LabelCache.keep, clean?_store_self] at hclean
      rw [Option.some.inj hclean]
  · rw [clean?_keep_of_ne _ hne] at hclean
    exact h other labels hclean

/-! ### One step -/

theorem currentLabels_of_dimension? {name : String} {d : Dimension}
    (hd : c.dimension? name = some d) :
    currentLabels answer db c name = currentDimension answer db d := by
  simp only [currentLabels, hd]

theorem currentLabels_of_lookup? {name : String} {l : Lookup} (hd : c.dimension? name = none)
    (hl : c.lookup? name = some l) :
    currentLabels answer db c name = currentLookup answer db c l := by
  simp only [currentLabels, hd, hl]

/-- From a cache that is up to date a dimension gets its current labels. -/
theorem dimensionKeys_of_upToDate (h : UpToDate answer db c cache) {name : String} {d : Dimension}
    (hd : c.dimension? name = some d) :
    ∃ cache', UpToDate answer db c cache' ∧
      dimensionKeys (tableExecutor answer) d cache db =
        (currentDimension answer db d, cache', db) := by
  have hname := Catalog.name_of_dimension? hd
  have hcur : currentLabels answer db c name = currentDimension answer db d :=
    currentLabels_of_dimension? hd
  unfold dimensionKeys
  cases hclean : cache.clean? d.name with
  | some labels =>
    refine ⟨cache, h, ?_⟩
    rw [hname] at hclean
    rw [← hcur, h name labels hclean]
  | none =>
    refine ⟨cache.keep name (currentLabels answer db c name), h.keep name, ?_⟩
    rw [hcur, ← hname]
    exact fetchLabels_eq ..

/-- From a cache that is up to date a lookup table gets its current labels. -/
theorem lookupKeys_of_upToDate (h : UpToDate answer db c cache) {name : String} {l : Lookup}
    (hd : c.dimension? name = none) (hl : c.lookup? name = some l) :
    ∃ cache', UpToDate answer db c cache' ∧
      lookupKeys c (tableExecutor answer) l cache db =
        (currentLookup answer db c l, cache', db) := by
  have hname := Catalog.name_of_lookup? hl
  have hcur : currentLabels answer db c name = currentLookup answer db c l :=
    currentLabels_of_lookup? hd hl
  unfold lookupKeys
  cases hclean : cache.clean? l.name with
  | some labels =>
    refine ⟨cache, h, ?_⟩
    rw [hname] at hclean
    rw [← hcur, h name labels hclean]
  | none =>
    cases hdistal : c.dimension? l.distal.dimension with
    | none => exact ⟨cache, h, by simp only [currentLookup, hdistal]⟩
    | some d =>
      obtain ⟨cache', h', hkeys⟩ := dimensionKeys_of_upToDate h hdistal
      simp only [hkeys]
      cases hlabels : currentDimension answer db d with
      | error e => exact ⟨cache', h', by simp only [currentLookup, hdistal, hlabels]⟩
      | ok distal =>
        refine ⟨cache'.keep name (currentLabels answer db c name), h'.keep name, ?_⟩
        rw [hcur, currentLookup, hdistal, ← hname]
        simp only [hlabels]
        exact fetchLabels_eq ..

/-- **A request answers with the current labels,** whatever is cached already. -/
theorem foreignKeys_of_upToDate (h : UpToDate answer db c cache) (name : String) :
    ∃ cache', UpToDate answer db c cache' ∧
      foreignKeys c (tableExecutor answer) name cache db =
        (currentLabels answer db c name, cache', db) := by
  unfold foreignKeys
  cases hd : c.dimension? name with
  | some d =>
    rw [currentLabels_of_dimension? hd]
    exact dimensionKeys_of_upToDate h hd
  | none =>
    cases hl : c.lookup? name with
    | some l =>
      rw [currentLabels_of_lookup? hd hl]
      exact lookupKeys_of_upToDate h hd hl
    | none => exact ⟨cache, h, by simp only [currentLabels, hd, hl]⟩

theorem UpToDate.mark (h : UpToDate answer db c cache) (names : List String) :
    UpToDate answer db c (cache.mark names) := by
  intro name labels hclean
  exact h name labels (clean?_mark.mp hclean).2

theorem UpToDate.tryRefresh (h : UpToDate answer db c cache) (name : String) :
    UpToDate answer db c (cache.tryRefresh c name) := by
  by_cases hname : name ∈ c.labelled
  · rw [tryRefresh_of_mem hname]
    exact h.mark _
  · rw [tryRefresh_of_not_mem hname]
    exact h

/-! ### Changes of a table -/

/-- The labels of a dimension hang on its own table only. -/
theorem currentDimension_update {d : Dimension} {table : String} (hd : d.name ≠ table)
    (contents : γ) :
    currentDimension answer (Function.update db table contents) d =
      currentDimension answer db d := by
  have hfrom : d.labelQuery.from?.map (Function.update db table contents) =
      d.labelQuery.from?.map db := by
    show some _ = some _
    rw [Function.update_of_ne hd]
  simp only [currentDimension, Executor.fetch, tableExecutor, hfrom]

/-- The labels of a lookup table hang on its own table and on that of its distal dimension. -/
theorem currentLookup_update {l : Lookup} {table : String} (hl : l.name ≠ table)
    (hdistal : l.distal.dimension ≠ table) (contents : γ) :
    currentLookup answer (Function.update db table contents) c l =
      currentLookup answer db c l := by
  have hfrom : l.pairsQuery.from?.map (Function.update db table contents) =
      l.pairsQuery.from?.map db := by
    show some _ = some _
    rw [Function.update_of_ne hl]
  unfold currentLookup
  cases hd : c.dimension? l.distal.dimension with
  | none => rfl
  | some d =>
    have hname : d.name ≠ table := by rwa [Catalog.name_of_dimension? hd]
    simp only [currentDimension_update hname, Executor.fetch, tableExecutor, hfrom]

/-- What is neither the changed table nor one of its dependents keeps its labels. -/
theorem currentLabels_update {name table : String} (hname : name ≠ table)
    (hdep : name ∉ c.dependents table) (contents : γ) :
    currentLabels answer (Function.update db table contents) c name =
      currentLabels answer db c name := by
  cases hd : c.dimension? name with
  | some d =>
    rw [currentLabels_of_dimension? hd, currentLabels_of_dimension? hd]
    exact currentDimension_update (by rwa [Catalog.name_of_dimension? hd]) contents
  | none =>
    cases hl : c.lookup? name with
    | none => simp only [currentLabels, hd, hl]
    | some l =>
      have hlname := Catalog.name_of_lookup? hl
      rw [currentLabels_of_lookup? hd hl, currentLabels_of_lookup? hd hl]
      refine currentLookup_update (by rwa [hlname]) (fun hdistal => hdep ?_) contents
      exact Catalog.mem_dependents_iff.mpr
        ⟨l, List.mem_of_find?_eq_some hl, .inr hdistal, hlname⟩

/-- A name with labels now is one of a dimension or lookup table. -/
theorem mem_labelled_of_currentLabels {name : String} {labels : Labels}
    (h : currentLabels answer db c name = .ok labels) : name ∈ c.labelled := by
  rw [Catalog.mem_labelled_iff]
  cases hd : c.dimension? name with
  | some d => exact .inl rfl
  | none =>
    cases hl : c.lookup? name with
    | some l => exact .inr rfl
    | none => simp [currentLabels, hd, hl] at h

/-- The distal dimension of a lookup table with labels now has labels too. -/
theorem distal_mem_labelled {l : Lookup} {labels : Labels}
    (h : currentLookup answer db c l = .ok labels) : l.distal.dimension ∈ c.labelled := by
  rw [Catalog.mem_labelled_iff]
  cases hd : c.dimension? l.distal.dimension with
  | some d => exact .inl rfl
  | none => simp [currentLookup, hd] at h

/-- A table without labels has no dependent that has labels now. -/
theorem currentLabels_update_of_not_mem {name table : String} {labels : Labels}
    (h : currentLabels answer db c name = .ok labels) (htable : table ∉ c.labelled)
    (contents : γ) :
    currentLabels answer (Function.update db table contents) c name = .ok labels := by
  have hname : name ≠ table := by
    rintro rfl
    exact htable (mem_labelled_of_currentLabels h)
  cases hd : c.dimension? name with
  | some d =>
    rw [currentLabels_of_dimension? hd] at h ⊢
    rwa [currentDimension_update (by rwa [Catalog.name_of_dimension? hd])]
  | none =>
    cases hl : c.lookup? name with
    | none => simp [currentLabels, hd, hl] at h
    | some l =>
      rw [currentLabels_of_lookup? hd hl] at h ⊢
      have hdistal : l.distal.dimension ≠ table := by
        rintro rfl
        exact htable (distal_mem_labelled h)
      rwa [currentLookup_update (by rwa [Catalog.name_of_lookup? hl]) hdistal]

/-- **A change of a table and a refresh of it leave a cache up to date.** A table without labels
is no dimension, so nothing that is clean has been built from it. -/
theorem UpToDate.write (h : UpToDate answer db c cache) (table : String) (contents : γ) :
    UpToDate answer (Function.update db table contents) c (cache.tryRefresh c table) := by
  intro name labels hclean
  by_cases htable : table ∈ c.labelled
  · rw [tryRefresh_of_mem htable, clean?_mark, List.mem_cons, not_or] at hclean
    obtain ⟨⟨hname, hdep⟩, hclean⟩ := hclean
    rw [currentLabels_update hname hdep]
    exact h name labels hclean
  · rw [tryRefresh_of_not_mem htable] at hclean
    exact currentLabels_update_of_not_mem (h name labels hclean) htable contents

end LabelCache

/-! ### Runs -/

open LabelCache

variable {answer : Sql.Query → Option γ → Except ExecutionError (List Row)}

/-- A step keeps the tables of a model and leaves its labels up to date. -/
theorem LabelStep.upToDate_apply {m : Model} {db : String → γ}
    (h : UpToDate answer db m.catalog m.labels) (step : LabelStep γ) :
    (step.apply answer (m, db)).1.catalog = m.catalog ∧
      UpToDate answer (step.apply answer (m, db)).2 m.catalog
        (step.apply answer (m, db)).1.labels := by
  cases step with
  | foreignKeys name =>
    obtain ⟨cache', h', hkeys⟩ := foreignKeys_of_upToDate h name
    simp only [apply, Model.foreignKeys, hkeys]
    exact ⟨trivial, h'⟩
  | refresh name =>
    simp only [apply, Model.after_invalidate]
    exact ⟨trivial, h.tryRefresh name⟩
  | write table contents =>
    simp only [apply, Model.after_invalidate]
    exact ⟨trivial, h.write table contents⟩

theorem LabelStep.upToDate_run {m : Model} {db : String → γ}
    (h : UpToDate answer db m.catalog m.labels) (steps : List (LabelStep γ)) :
    (run answer steps (m, db)).1.catalog = m.catalog ∧
      UpToDate answer (run answer steps (m, db)).2 m.catalog
        (run answer steps (m, db)).1.labels := by
  induction steps generalizing m db with
  | nil => exact ⟨rfl, h⟩
  | cons step steps ih =>
    obtain ⟨hcatalog, hstep⟩ := upToDate_apply h step
    obtain ⟨hcatalog', hrun⟩ := ih (hcatalog ▸ hstep)
    rw [hcatalog] at hcatalog' hrun
    exact ⟨hcatalog', hrun⟩

/-- **The cache cannot be seen.** After any run of requests, refreshes and refreshed changes of
tables, a request for labels has the answer, labels or error, that an empty cache in which every
table is dirty gives on the present contents. -/
theorem foreignKeys_run_eq_initial {d : ModelDecl} {m : Model} (h : Model.ofDecl engine d = .ok m)
    (answer : Sql.Query → Option γ → Except ExecutionError (List Row)) (db : String → γ)
    (steps : List (LabelStep γ)) (name : String) :
    ((LabelStep.run answer steps (m, db)).1.foreignKeys (tableExecutor answer) name
        (LabelStep.run answer steps (m, db)).2).1 =
      ((LabelCache.initial m.catalog).foreignKeys m.catalog (tableExecutor answer) name
        (LabelStep.run answer steps (m, db)).2).1 := by
  have hstart : UpToDate answer db m.catalog m.labels := by
    rw [Model.labels_of_ofDecl h]
    exact upToDate_initial
  obtain ⟨hcatalog, hrun⟩ := LabelStep.upToDate_run hstart steps
  obtain ⟨cache, -, hcached⟩ := foreignKeys_of_upToDate hrun name
  have hinitial : UpToDate answer (LabelStep.run answer steps (m, db)).2 m.catalog
      (LabelCache.initial m.catalog) := upToDate_initial
  obtain ⟨cache', -, hfresh⟩ := foreignKeys_of_upToDate hinitial name
  rw [Model.foreignKeys, hcatalog, hcached, hfresh]

/-- A lookup table is read, an author gets another name, and the lookup table is read again. -/
theorem foreignKeys_run_eq_initial_authorship :
    let answer (_ : Sql.Query) (rows? : Option (List Row)) : Except ExecutionError (List Row) :=
      .ok (rows?.getD [])
    let db (table : String) : List Row :=
      if table = "authors" then [[.int 7, .str "before"]] else [[.int 1, .int 7]]
    let steps : List (LabelStep (List Row)) :=
      [.foreignKeys "authorship", .write "authors" [[.int 7, .str "after"]]]
    let state := LabelStep.run answer steps (.authorship, db)
    let labels := (state.1.foreignKeys (tableExecutor answer) "authorship" state.2).1
    Model.ofDecl .plain .authorship = .ok .authorship ∧
      labels = ((LabelCache.initial Model.authorship.catalog).foreignKeys
        Model.authorship.catalog (tableExecutor answer) "authorship" state.2).1 ∧
      labels.toOption.map (·.toList) = some [(0, ""), (1, "after")] := by
  intro answer db steps state labels
  exact ⟨Model.ofDecl_authorship,
    foreignKeys_run_eq_initial Model.ofDecl_authorship answer db steps "authorship",
    by decide +kernel⟩

end StarSchema
