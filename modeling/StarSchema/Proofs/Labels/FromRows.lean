import StarSchema.Proofs.Labels.Outcome

/-!
# Labels that are fetched are what rows say

The labels that a request for a dirty table answers with are those of the rows that its query is
answered with, over the labels of the distal dimension where the table is a lookup table. So they
are read off from the rows alone, whatever was asked before.

Main result: `Model.foreignKeys_of_rows`.
-/

namespace StarSchema

variable {engine : PatternEngine}

variable {σ τ : Type}

/-! ### Requests -/

/-- Rows of the right width come through. -/
theorem fetch_eq_ok {exec : Executor σ} {q : Sql.Query} {state : σ} {rows : List Row}
    (answered : (exec q state).1 = .ok rows)
    (width : ∀ row ∈ rows, row.length = q.select.length) : (exec.fetch q state).1 = .ok rows := by
  show (exec q state).1.bind (checkWidth q.select.length) = .ok rows
  rw [answered]
  exact checkWidth_eq_ok_iff.mpr ⟨rfl, width⟩

namespace LabelCache

variable {c : Catalog} {cache : LabelCache} {exec : Executor σ} {state : σ} {rows : List Row}

/-- A dimension that is dirty has the labels of the rows that answer its query. -/
theorem foreignKeys_of_entries (hc : c.DistinctNames) {x : Dimension} (hx : x ∈ c.dimensions)
    (dirty : x.name ∈ cache.dirty) (answered : (exec x.labelQuery state).1 = .ok rows)
    (h : ∀ row ∈ rows, row.IsEntry) :
    ∃ labels, (foreignKeys c exec x.name cache state).1 = .ok labels ∧
      labels.AreOfEntries rows := by
  obtain ⟨labels, read, tell⟩ := areOfEntries_of_rows h
  have fetched := fetch_eq_ok answered fun row hrow => (h row hrow).length_eq
  refine ⟨labels, ?_, tell⟩
  rw [foreignKeys, (Catalog.dimension?_eq_some_iff hc).mpr ⟨hx, rfl⟩]
  simp only [dimensionKeys_of_dirty dirty]
  exact readAnswer_eq_ok_iff.mpr ⟨rows, fetched, read⟩

/-- A lookup table that is dirty has the labels of the rows that answer its query, over those that
its distal dimension has at the time. -/
theorem foreignKeys_of_pairs (hc : c.DistinctNames) {l : Lookup} (hl : l ∈ c.lookups)
    (dirty : l.name ∈ cache.dirty) {x : Dimension} (hx : x ∈ c.dimensions)
    (refers : x.name = l.distal.dimension) {distal : Labels} {cache' : LabelCache} {state' : σ}
    (before : foreignKeys c exec x.name cache state = (.ok distal, cache', state'))
    (answered : (exec l.pairsQuery state').1 = .ok rows) (h : ∀ row ∈ rows, row.IsPair) :
    ∃ labels, (foreignKeys c exec l.name cache state).1 = .ok labels ∧
      labels.AreOfPairs distal rows := by
  obtain ⟨labels, read, tell⟩ := areOfPairs_of_rows h distal
  have fetched := fetch_eq_ok answered fun row hrow => (h row hrow).length_eq
  have found := (Catalog.dimension?_eq_some_iff hc).mpr ⟨hx, refers⟩
  have noDimension : c.dimension? l.name = none := by
    rw [Option.eq_none_iff_forall_not_mem]
    intro y hy
    obtain ⟨mem, same⟩ := (Catalog.dimension?_eq_some_iff hc).mp hy
    exact Catalog.name_dimension_ne_lookup hc mem hl same
  have distalKeys : dimensionKeys exec x cache state = (.ok distal, cache', state') := by
    rwa [foreignKeys, refers, found] at before
  refine ⟨labels, ?_, tell⟩
  rw [foreignKeys, noDimension, (Catalog.lookup?_eq_some_iff hc).mpr ⟨hl, rfl⟩]
  simp only [lookupKeys, clean?_eq_none_of_mem_dirty dirty, found, distalKeys, fetchLabels_eq]
  exact readAnswer_eq_ok_iff.mpr ⟨rows, fetched, read⟩

end LabelCache

/-- **Labels hold exactly what rows say.** Take a model that loads, after requests of any kind, and
a table that is dirty in it. If the query of a dimension is answered with rows of two cells that can
be converted, a request for its labels gives just their labels, the last one for each key. If the
request for the distal dimension of a lookup table gives labels, and the query of the lookup table
is then answered with rows of two cells that can be converted, a request for its labels gives just
the labels that its rows associate with each key, all of them and in order. -/
theorem Model.foreignKeys_of_rows {d : ModelDecl} {m : Model} (h : Model.ofDecl engine d = .ok m)
    (exec₀ : Executor τ) (requests : List ModelRequest) (state₀ : τ) (exec : Executor σ)
    (state : σ) :
    let before := (ModelRequest.run exec₀ requests (m, state₀)).1
    (∀ x ∈ m.catalog.dimensions, x.name ∈ before.labels.dirty →
      ∀ rows, (exec x.labelQuery state).1 = .ok rows → (∀ row ∈ rows, row.IsEntry) →
        ∃ labels, (before.foreignKeys exec x.name state).1 = .ok labels ∧
          labels.AreOfEntries rows) ∧
    ∀ l ∈ m.catalog.lookups, l.name ∈ before.labels.dirty →
      ∀ x ∈ m.catalog.dimensions, x.name = l.distal.dimension →
        ∀ distal after, before.foreignKeys exec x.name state = (.ok distal, after) →
          ∀ rows, (exec l.pairsQuery after.2).1 = .ok rows → (∀ row ∈ rows, row.IsPair) →
            ∃ labels, (before.foreignKeys exec l.name state).1 = .ok labels ∧
              labels.AreOfPairs distal rows := by
  intro before
  have hc := Model.distinctNames_of_ofDecl h
  have catalog : before.catalog = m.catalog := Model.catalog_run h exec₀ requests state₀
  rw [← catalog] at hc ⊢
  refine ⟨fun x hx dirty rows answered entries => ?_,
    fun l hl dirty x hx refers distal after given rows answered pairs => ?_⟩
  · exact LabelCache.foreignKeys_of_entries hc hx dirty answered entries
  · obtain ⟨labels, state'⟩ := after
    rw [Model.foreignKeys, Prod.mk.injEq, Prod.mk.injEq] at given
    obtain ⟨answer, -, rfl⟩ := given
    exact LabelCache.foreignKeys_of_pairs hc hl dirty hx refers (Prod.ext answer rfl) answered pairs

/-! ### Authors and their books -/

namespace Model

/-- A key twice, as a number and as a text, a missing one, zero, and an author without a name. -/
def authorRows : List Row :=
  [[.int 7, .str "Before"], [.str "7", .str "Ada"], [.null, .str "Nobody"], [.int 0, .str "Zero"],
    [.int 8, .null], [.int 9, .str "Ben"]]

/-- Authors of three books, one of them twice, one without a name and one who is not there. -/
def authorshipRows : List Row :=
  [[.int 1, .int 7], [.int 2, .int 9], [.int 1, .int 9], [.int 1, .int 8], [.int 3, .int 99],
    [.null, .int 7], [.bool false, .int 7], [.int 1, .str "7"]]

def answerAuthorship : Executor Unit := fun q _ =>
  (.ok (if q.from? = some "authors" then authorRows else authorshipRows), ())

/-- A label that is written over, labels in turn with those of another key, and rows that add
nothing. -/
theorem foreignKeys_of_rows_authorship :
    let before := (ModelRequest.run answerAuthorship [.fetchStar "nowhere"] (.authorship, ())).1
    Model.ofDecl .plain .authorship = .ok .authorship ∧
    ∃ x ∈ authorship.catalog.dimensions, ∃ l ∈ authorship.catalog.lookups, ∃ distal after labels,
      x.name ∈ before.labels.dirty ∧ (∀ row ∈ authorRows, row.IsEntry) ∧
      before.foreignKeys answerAuthorship x.name () = (.ok distal, after) ∧
      distal.AreOfEntries authorRows ∧
      distal.toList = [(0, ""), (7, "Ada"), (8, ""), (9, "Ben")] ∧
      l.name ∈ before.labels.dirty ∧ x.name = l.distal.dimension ∧
      (∀ row ∈ authorshipRows, row.IsPair) ∧
      (before.foreignKeys answerAuthorship l.name ()).1 = .ok labels ∧
      labels.AreOfPairs distal authorshipRows ∧
      labels.toList = [(0, ""), (1, "Ada; Ben; Ada"), (2, "Ben")] := by
  intro before
  obtain ⟨dimensions, lookups⟩ := foreignKeys_of_rows ofDecl_authorship answerAuthorship
    [.fetchStar "nowhere"] () answerAuthorship ()
  let x := authorship.catalog.dimensions.get ⟨1, by decide⟩
  let l := authorship.catalog.lookups.get ⟨0, by decide⟩
  have hx : x ∈ authorship.catalog.dimensions := List.get_mem _ _
  have hl : l ∈ authorship.catalog.lookups := List.get_mem _ _
  have dirty : x.name ∈ before.labels.dirty := by decide +kernel
  have dirty' : l.name ∈ before.labels.dirty := by decide +kernel
  have entries : ∀ row ∈ authorRows, row.IsEntry := by
    simp only [authorRows, List.forall_mem_cons]
    exact ⟨⟨_, _, rfl, rfl⟩, ⟨_, _, rfl, by decide +kernel⟩, ⟨_, _, rfl, rfl⟩, ⟨_, _, rfl, rfl⟩,
      ⟨_, _, rfl, rfl⟩, ⟨_, _, rfl, rfl⟩, List.forall_mem_nil _⟩
  have pairs : ∀ row ∈ authorshipRows, row.IsPair := by
    simp only [authorshipRows, List.forall_mem_cons]
    exact ⟨⟨_, _, rfl, rfl, rfl⟩, ⟨_, _, rfl, rfl, rfl⟩, ⟨_, _, rfl, rfl, rfl⟩,
      ⟨_, _, rfl, rfl, rfl⟩, ⟨_, _, rfl, rfl, rfl⟩, ⟨_, _, rfl, rfl, rfl⟩, ⟨_, _, rfl, rfl, rfl⟩,
      ⟨_, _, rfl, rfl, by decide +kernel⟩, List.forall_mem_nil _⟩
  obtain ⟨distal, given, tell⟩ := dimensions x hx dirty authorRows rfl entries
  have distalRequest : before.foreignKeys answerAuthorship x.name () =
      (.ok distal, (before.foreignKeys answerAuthorship x.name ()).2) := Prod.ext given rfl
  obtain ⟨labels, given', tell'⟩ := lookups l hl dirty' x hx rfl distal _ distalRequest
    authorshipRows rfl pairs
  have shown : (before.foreignKeys answerAuthorship x.name ()).1.toOption.map (·.toList) =
      some [(0, ""), (7, "Ada"), (8, ""), (9, "Ben")] := by decide +kernel
  have shown' : (before.foreignKeys answerAuthorship l.name ()).1.toOption.map (·.toList) =
      some [(0, ""), (1, "Ada; Ben; Ada"), (2, "Ben")] := by decide +kernel
  rw [given] at shown
  rw [given'] at shown'
  exact ⟨ofDecl_authorship, x, hx, l, hl, distal, _, labels, dirty, entries, distalRequest, tell,
    Option.some.inj shown, dirty', rfl, pairs, given', tell', Option.some.inj shown'⟩

end Model

end StarSchema
