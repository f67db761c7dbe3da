import StarSchema.Proofs.Labels.Record

/-!
# Coherence of the label cache

Whatever the executor does, what the cache holds fits together: only tables with labels are dirty
or cached, each of them is dirty or cached, the key zero has the empty label, and a lookup table
that is clean has been built from the labels that its distal dimension has in the cache now.

## The invariant

The last part relates two entries and a fetch that may be long past, so the invariant speaks of the
cache together with a record of everything that the executor was asked and answered. It survives a
new fetch of a dimension because a dimension is fetched only while it is dirty, and `refresh` never
leaves a lookup table clean over a dirty distal dimension.

Main definitions: `LabelCache.BuiltFromDistal`, `LabelCache.Coherent`.

Main result: `coherent_run`.
-/

namespace StarSchema

variable {engine : PatternEngine}

variable {σ : Type}

namespace LabelCache

/-- A lookup table is built from its distal dimension as cached now: the dimension exists and is
not dirty, and the labels of the table are those that its rows which were fetched last give over the
labels of the dimension, for each proximal key those of its distal keys. -/
def BuiltFromDistal (c : Catalog) (cache : LabelCache) (record : List Exchange) (l : Lookup) :
    Prop :=
  ∃ d distal rows labels, c.dimension? l.distal.dimension = some d ∧
    d.name ∉ cache.dirty ∧ cache.labels[d.name]? = some distal ∧
    LastGiven l record rows ∧ cache.labels[l.name]? = some labels ∧
    lookupLabels distal rows = .ok labels ∧ labels.AreOfPairs distal rows

/-- What holds of a cache and the record of its executor at any time. -/
structure Coherent (c : Catalog) (cache : LabelCache) (record : List Exchange) : Prop where
  /-- Only tables with labels are dirty. -/
  dirty_labelled : ∀ name ∈ cache.dirty, name ∈ c.labelled
  /-- Only tables with labels are cached. -/
  cached_labelled : ∀ name ∈ cache.labels, name ∈ c.labelled
  /-- A table that is not dirty is cached. -/
  dirty_or_cached : ∀ name ∈ c.labelled, name ∈ cache.dirty ∨ name ∈ cache.labels
  /-- The key zero, which refers to no row, has the empty label. -/
  zero_label : ∀ (name : String) (labels : Labels), cache.labels[name]? = some labels →
    labels[(0 : Int64)]? = some ""
  /-- A lookup table that is not dirty is built from what its distal dimension has now. -/
  built_from_distal : ∀ l ∈ c.lookups, l.name ∉ cache.dirty → BuiltFromDistal c cache record l

variable {c : Catalog} {cache : LabelCache} {record : List Exchange}

/-! ### Each change of the cache -/

theorem coherent_initial (c : Catalog) : Coherent c (initial c) [] where
  dirty_labelled name hname := by simpa [initial] using hname
  cached_labelled name hname := by simp [initial] at hname
  dirty_or_cached name hname := .inl (by simpa [initial] using hname)
  zero_label name labels h := by simp [initial] at h
  built_from_distal l hl hclean := by
    refine absurd ?_ hclean
    simp only [initial, Std.TreeSet.mem_ofList, List.contains_iff_mem, Catalog.labelled]
    exact List.mem_append_right _ (List.mem_map_of_mem hl)

/-- A table that is clean is cached. -/
theorem Coherent.exists_clean? (h : Coherent c cache record) {name : String}
    (hname : name ∈ c.labelled) (clean : name ∉ cache.dirty) :
    ∃ labels, cache.labels[name]? = some labels ∧ cache.clean? name = some labels := by
  have cached := (h.dirty_or_cached name hname).resolve_left clean
  have found : cache.labels[name]? = some cache.labels[name] :=
    Std.TreeMap.getElem?_eq_some_getElem cached
  exact ⟨_, found, clean?_eq_some_iff.mpr ⟨clean, found⟩⟩

/-- A table that is not clean is dirty. -/
theorem Coherent.mem_dirty (h : Coherent c cache record) {name : String} (hname : name ∈ c.labelled)
    (hclean : cache.clean? name = none) : name ∈ cache.dirty := by
  by_contra hdirty
  obtain ⟨labels, -, found⟩ := h.exists_clean? hname hdirty
  rw [hclean] at found
  cases found

/-- An exchange that gives no rows of any lookup table is of no account. -/
theorem Coherent.append_record (h : Coherent c cache record) {x : Exchange}
    (hx : ∀ l ∈ c.lookups, ∀ rows, ¬ x.Gives l rows) : Coherent c cache (record ++ [x]) where
  dirty_labelled := h.dirty_labelled
  cached_labelled := h.cached_labelled
  dirty_or_cached := h.dirty_or_cached
  zero_label := h.zero_label
  built_from_distal l hl hclean := by
    obtain ⟨d, distal, rows, labels, hd, hdirty, hdistal, hrows, hlabels⟩ :=
      h.built_from_distal l hl hclean
    exact ⟨d, distal, rows, labels, hd, hdirty, hdistal, hrows.append_singleton (hx l hl), hlabels⟩

/-- Marking a table and everything that is built from it. -/
theorem Coherent.mark (hc : c.DistinctNames) (h : Coherent c cache record) {name : String}
    (hname : name ∈ c.labelled) :
    Coherent c (cache.mark (name :: c.dependents name)) record where
  dirty_labelled other hother := by
    rw [mem_dirty_mark, List.mem_cons] at hother
    rcases hother with (rfl | hdep) | hother
    · exact hname
    · obtain ⟨l, hl, -, rfl⟩ := Catalog.mem_dependents_iff.mp hdep
      exact List.mem_append_right _ (List.mem_map_of_mem hl)
    · exact h.dirty_labelled other hother
  cached_labelled := h.cached_labelled
  dirty_or_cached other hother := by
    rw [mem_dirty_mark]
    exact (h.dirty_or_cached other hother).imp_left .inr
  zero_label := h.zero_label
  built_from_distal l hl hclean := by
    rw [mem_dirty_mark, not_or] at hclean
    obtain ⟨hmarked, hclean⟩ := hclean
    obtain ⟨d, distal, rows, labels, hd, hdirty, hdistal, built⟩ :=
      h.built_from_distal l hl hclean
    refine ⟨d, distal, rows, labels, hd, ?_, hdistal, built⟩
    have hdname := Catalog.name_of_dimension? hd
    rw [mem_dirty_mark, List.mem_cons, not_or, not_or]
    refine ⟨⟨?_, ?_⟩, hdirty⟩
    · -- `l` depends on its distal dimension and would have been marked with it
      rintro rfl
      exact hmarked (List.mem_cons_of_mem _
        (Catalog.mem_dependents_iff.mpr ⟨l, hl, .inr hdname.symm, rfl⟩))
    · -- dependents are lookup tables, and none of them has the name of a dimension
      intro hdep
      obtain ⟨l', hl', -, hl'name⟩ := Catalog.mem_dependents_iff.mp hdep
      have hmem := ((Catalog.dimension?_eq_some_iff hc).mp hd).1
      exact Catalog.name_dimension_ne_lookup hc hmem hl' hl'name.symm

/-- Keeping labels of a table changes nothing for other tables, so only what is said of lookup
tables has to be looked at again. -/
theorem Coherent.store (h : Coherent c cache record) {name : String} (hname : name ∈ c.labelled)
    {labels : Labels} (hzero : labels[(0 : Int64)]? = some "") {record' : List Exchange}
    (hlookups : ∀ l ∈ c.lookups, l.name ∉ (cache.store name labels).dirty →
      BuiltFromDistal c (cache.store name labels) record' l) :
    Coherent c (cache.store name labels) record' where
  dirty_labelled other hother := h.dirty_labelled other (mem_dirty_store.mp hother).2
  cached_labelled other hother := by
    rcases mem_labels_store.mp hother with rfl | hother
    · exact hname
    · exact h.cached_labelled other hother
  dirty_or_cached other hother := by
    rw [mem_dirty_store, mem_labels_store]
    by_cases heq : other = name
    · exact .inr (.inl heq)
    · exact (h.dirty_or_cached other hother).imp (⟨heq, ·⟩) .inr
  zero_label other labels' hlabels := by
    by_cases heq : other = name
    · subst heq
      rw [getElem?_labels_store_self] at hlabels
      rw [← Option.some.inj hlabels]
      exact hzero
    · rw [getElem?_labels_store_of_ne _ heq] at hlabels
      exact h.zero_label other labels' hlabels
  built_from_distal := hlookups

/-- Keeping labels of a dimension that was dirty. No lookup table over it is clean, so none is
left with labels from before. -/
theorem Coherent.store_dimension (hc : c.DistinctNames) (h : Coherent c cache record)
    {d : Dimension} (hd : d ∈ c.dimensions) (hdirty : d.name ∈ cache.dirty) {labels : Labels}
    (hzero : labels[(0 : Int64)]? = some "") :
    Coherent c (cache.store d.name labels) record := by
  refine h.store (List.mem_append_left _ (List.mem_map_of_mem hd)) hzero fun l hl hclean => ?_
  have hlname : l.name ≠ d.name := (Catalog.name_dimension_ne_lookup hc hd hl).symm
  have hclean' : l.name ∉ cache.dirty := fun hmem => hclean (mem_dirty_store.mpr ⟨hlname, hmem⟩)
  obtain ⟨d', distal, rows, built, hd', hdirty', hdistal, hrows, hbuilt, tell⟩ :=
    h.built_from_distal l hl hclean'
  have hne : d'.name ≠ d.name := fun heq => hdirty' (heq ▸ hdirty)
  refine ⟨d', distal, rows, built, hd', fun hmem => hdirty' (mem_dirty_store.mp hmem).2, ?_, hrows,
    ?_, tell⟩
  · rwa [getElem?_labels_store_of_ne _ hne]
  · rwa [getElem?_labels_store_of_ne _ hlname]

/-- Keeping labels of a lookup table that rows which were just fetched give over the labels that its
distal dimension has in the cache. -/
theorem Coherent.store_lookup (hc : c.DistinctNames) (h : Coherent c cache record) {l : Lookup}
    (hl : l ∈ c.lookups) {d : Dimension} (hd : c.dimension? l.distal.dimension = some d)
    {distal : Labels} (hdistal : cache.clean? d.name = some distal) {x : Exchange}
    {rows : List Row} (hx : x.Gives l rows) {labels : Labels}
    (tell : lookupLabels distal rows = .ok labels ∧ labels.AreOfPairs distal rows) :
    Coherent c (cache.store l.name labels) (record ++ [x]) := by
  have hmem : l.name ∈ c.labelled := List.mem_append_right _ (List.mem_map_of_mem hl)
  refine h.store hmem tell.2.zero fun l' hl' hclean => ?_
  have hne : ∀ {n : String} {d : Dimension}, c.dimension? n = some d → d.name ≠ l.name :=
    fun hd => Catalog.name_dimension_ne_lookup hc ((Catalog.dimension?_eq_some_iff hc).mp hd).1 hl
  by_cases heq : l'.name = l.name
  · obtain rfl := Catalog.lookup_eq_of_name_eq hc hl' hl heq
    obtain ⟨hdirty, hcached⟩ := clean?_eq_some_iff.mp hdistal
    refine ⟨d, distal, rows, labels, hd, fun hmem => hdirty (mem_dirty_store.mp hmem).2, ?_,
      hx.lastGiven record, getElem?_labels_store_self .., tell⟩
    rwa [getElem?_labels_store_of_ne _ (hne hd)]
  · have hclean' : l'.name ∉ cache.dirty := fun hmem => hclean (mem_dirty_store.mpr ⟨heq, hmem⟩)
    obtain ⟨d', distal', rows', labels', hd', hdirty', hdistal', hrows', hlabels', tell'⟩ :=
      h.built_from_distal l' hl' hclean'
    have other (rows : List Row) (given : x.Gives l' rows) : False :=
      heq (Option.some.inj (given.table.symm.trans hx.table))
    refine ⟨d', distal', rows', labels', hd', fun hmem => hdirty' (mem_dirty_store.mp hmem).2, ?_,
      hrows'.append_singleton other, ?_, tell'⟩
    · rwa [getElem?_labels_store_of_ne _ (hne hd')]
    · rwa [getElem?_labels_store_of_ne _ heq]

/-! ### Requests -/

/-- A query from a dimension gives no rows of a lookup table. -/
theorem not_gives_labelQuery (hc : c.DistinctNames) {d : Dimension} (hd : d ∈ c.dimensions)
    {l : Lookup} (hl : l ∈ c.lookups) (answer : Except ExecutionError (List Row))
    (rows : List Row) : ¬ Exchange.Gives ⟨d.labelQuery, answer⟩ l rows := fun given =>
  Catalog.name_dimension_ne_lookup hc hd hl (Option.some.inj given.table)

/-- The labels that a lookup table is given are those of the rows in the answer, and without labels
the answer gave no rows. -/
theorem readAnswer_lookup {l : Lookup} {distal : Labels} {x : Exchange}
    (hx : x.query.from? = some l.name) :
    (∃ rows labels, x.Gives l rows ∧
      readAnswer l.name (lookupLabels distal) (x.answer.bind (checkWidth 2)) = .ok labels ∧
      lookupLabels distal rows = .ok labels ∧ labels.AreOfPairs distal rows) ∨
    ((∀ rows, ¬ x.Gives l rows) ∧
      ∃ e, readAnswer l.name (lookupLabels distal) (x.answer.bind (checkWidth 2)) = .error e) := by
  cases hread : readAnswer l.name (lookupLabels distal) (x.answer.bind (checkWidth 2)) with
  | ok labels =>
    obtain ⟨rows, answered, read⟩ := readAnswer_eq_ok_iff.mp hread
    obtain ⟨_, answer, wide⟩ := bind_eq_ok_iff.mp answered
    obtain ⟨rfl, width⟩ := checkWidth_eq_ok_iff.mp wide
    have pairs : ∀ row ∈ rows, row.IsPair := by
      obtain ⟨pairs?, found, -⟩ := bind_eq_ok_iff.mp read
      intro row hrow
      obtain ⟨pair?, -, hpair⟩ := exists_mem_of_mapM found hrow
      exact Row.isPair_of_pairOfRow (width row hrow) hpair
    obtain ⟨labels', read', tell⟩ := areOfPairs_of_rows pairs distal
    cases read.symm.trans read'
    exact .inl ⟨rows, labels, ⟨hx, answer, pairs⟩, rfl, read, tell⟩
  | error e =>
    refine .inr ⟨fun rows given => ?_, e, rfl⟩
    obtain ⟨labels, read, -⟩ := areOfPairs_of_rows given.pairs distal
    have answered : x.answer.bind (checkWidth 2) = .ok rows := by
      rw [given.answer]
      exact checkWidth_eq_ok_iff.mpr ⟨rfl, fun row hrow => (given.pairs row hrow).length_eq⟩
    cases hread.symm.trans (readAnswer_eq_ok_iff.mpr ⟨rows, answered, read⟩)

variable (exec : Executor σ)

/-- A request for the labels of a dimension; where it answers with labels, these are clean. -/
theorem Coherent.dimensionKeys (hc : c.DistinctNames) (h : Coherent c cache record)
    {d : Dimension} (hd : d ∈ c.dimensions) (state : σ) :
    ∃ answer cache' state' record',
      LabelCache.dimensionKeys exec.recorded d cache (state, record) =
        (answer, cache', state', record') ∧
      Coherent c cache' record' ∧
      ∀ labels, answer = .ok labels → cache'.clean? d.name = some labels := by
  unfold LabelCache.dimensionKeys
  cases hclean : cache.clean? d.name with
  | some labels =>
    refine ⟨_, _, _, _, rfl, h, fun labels' heq => ?_⟩
    rw [hclean, Except.ok.inj heq]
  | none =>
    rw [fetchLabels_eq, fetch_recorded]
    refine ⟨_, _, _, _, rfl, ?_, ?_⟩
    · have hrecord := h.append_record (x := ⟨d.labelQuery, (exec d.labelQuery state).1⟩)
        fun l hl => not_gives_labelQuery hc hd hl _
      cases hread : readAnswer d.name dimensionLabels
          ((exec d.labelQuery state).1.bind (checkWidth d.labelQuery.select.length)) with
      | error e => exact hrecord
      | ok labels =>
        obtain ⟨rows, -, hrows⟩ := readAnswer_eq_ok_iff.mp hread
        refine hrecord.store_dimension hc hd ?_ (zero_of_dimensionLabels hrows)
        exact h.mem_dirty (List.mem_append_left _ (List.mem_map_of_mem hd)) hclean
    · intro labels hread
      rw [hread]
      exact clean?_store_self ..

/-- A request for the labels of a lookup table, which may fetch those of its distal dimension and
still fail after that. -/
theorem Coherent.lookupKeys (hc : c.DistinctNames) (h : Coherent c cache record)
    {l : Lookup} (hl : l ∈ c.lookups) (state : σ) :
    ∃ answer cache' state' record',
      LabelCache.lookupKeys c exec.recorded l cache (state, record) =
        (answer, cache', state', record') ∧
      Coherent c cache' record' := by
  unfold LabelCache.lookupKeys
  cases cache.clean? l.name with
  | some labels => exact ⟨_, _, _, _, rfl, h⟩
  | none =>
    cases hd : c.dimension? l.distal.dimension with
    | none => exact ⟨_, _, _, _, rfl, h⟩
    | some d =>
      have hmem := ((Catalog.dimension?_eq_some_iff hc).mp hd).1
      obtain ⟨answer, cache', state', record', hkeys, h', hclean⟩ :=
        h.dimensionKeys exec hc hmem state
      simp only [hkeys]
      cases answer with
      | error e => exact ⟨_, _, _, _, rfl, h'⟩
      | ok distal =>
        simp only [fetchLabels_eq, fetch_recorded]
        refine ⟨_, _, _, _, rfl, ?_⟩
        rcases @readAnswer_lookup l distal ⟨l.pairsQuery, (exec l.pairsQuery state').1⟩ rfl
          with ⟨rows, labels, given, hread, tell⟩ | ⟨given, e, hread⟩
        · simp only [length_select_pairsQuery, hread]
          exact h'.store_lookup hc hl hd (hclean distal rfl) given tell
        · simp only [length_select_pairsQuery, hread]
          refine h'.append_record fun l' hl' rows given' => ?_
          have heq : l.name = l'.name := Option.some.inj given'.table
          rw [← Catalog.lookup_eq_of_name_eq hc hl hl' heq] at given'
          exact given rows given'

/-- **A request keeps the cache coherent,** however far it gets. -/
theorem Coherent.foreignKeys (hc : c.DistinctNames) (h : Coherent c cache record) (name : String)
    (state : σ) :
    ∃ answer cache' state' record',
      LabelCache.foreignKeys c exec.recorded name cache (state, record) =
        (answer, cache', state', record') ∧
      Coherent c cache' record' := by
  unfold LabelCache.foreignKeys
  cases hd : c.dimension? name with
  | some d =>
    have hmem := ((Catalog.dimension?_eq_some_iff hc).mp hd).1
    obtain ⟨answer, cache', state', record', hkeys, h', -⟩ := h.dimensionKeys exec hc hmem state
    exact ⟨answer, cache', state', record', hkeys, h'⟩
  | none =>
    cases hl : c.lookup? name with
    | some l => exact h.lookupKeys exec hc (List.mem_of_find?_eq_some hl) state
    | none => exact ⟨_, _, _, _, rfl, h⟩

theorem Coherent.tryRefresh (hc : c.DistinctNames) (h : Coherent c cache record) (name : String) :
    Coherent c (cache.tryRefresh c name) record := by
  by_cases hname : name ∈ c.labelled
  · rw [tryRefresh_of_mem hname]
    exact h.mark hc hname
  · rw [tryRefresh_of_not_mem hname]
    exact h

end LabelCache

/-! ### Runs -/

open LabelCache

variable (exec : Executor σ)

/-- A request keeps the tables of a model and leaves its labels coherent. -/
theorem LabelRequest.coherent_apply {m : Model} {state : σ} {record : List Exchange}
    (hc : m.catalog.DistinctNames) (h : Coherent m.catalog m.labels record)
    (request : LabelRequest) :
    ∃ m' state' record', request.apply exec.recorded (m, state, record) = (m', state', record') ∧
      m'.catalog = m.catalog ∧ Coherent m.catalog m'.labels record' := by
  cases request with
  | foreignKeys name =>
    obtain ⟨answer, cache', state', record', hkeys, h'⟩ := h.foreignKeys exec hc name state
    refine ⟨{ m with labels := cache' }, state', record', ?_, rfl, h'⟩
    simp only [apply, Model.foreignKeys, hkeys]
  | refresh name =>
    refine ⟨{ m with labels := m.labels.tryRefresh m.catalog name }, state, record, ?_, rfl,
      h.tryRefresh hc name⟩
    simp only [apply, Model.after_invalidate]

theorem LabelRequest.coherent_run_of_coherent {m : Model} {state : σ} {record : List Exchange}
    (hc : m.catalog.DistinctNames) (h : Coherent m.catalog m.labels record)
    (requests : List LabelRequest) :
    Coherent m.catalog (run exec.recorded requests (m, state, record)).1.labels
      (run exec.recorded requests (m, state, record)).2.2 := by
  induction requests generalizing m state record with
  | nil => exact h
  | cons request requests ih =>
    obtain ⟨m', state', record', happly, hcatalog, h'⟩ :=
      @LabelRequest.coherent_apply _ exec _ state _ hc h request
    rw [run, List.foldl_cons, happly, ← hcatalog]
    exact ih (hcatalog ▸ hc) (hcatalog ▸ h')

/-- **The labels of a model are coherent at any time,** after any requests and whatever the
executor answered. -/
theorem coherent_run {d : ModelDecl} {m : Model} (h : Model.ofDecl engine d = .ok m) (state : σ)
    (requests : List LabelRequest) :
    Coherent m.catalog (LabelRequest.run exec requests (m, state)).1.labels
      (LabelRequest.run exec.recorded requests (m, state, [])).2.2 := by
  have hstart : Coherent m.catalog m.labels [] := by
    rw [Model.labels_of_ofDecl h]
    exact coherent_initial _
  have hrun := @LabelRequest.coherent_run_of_coherent _ exec _ state _
    (Model.distinctNames_of_ofDecl h) hstart requests
  obtain ⟨record', hrecorded⟩ := LabelRequest.run_recorded exec requests m state []
  rw [hrecorded] at hrun ⊢
  exact hrun

/-- An executor that fails when it is asked first: the lookup table is clean after the second
request for it, with the label of its only pair, and so is its distal dimension. -/
theorem coherent_run_authorship :
    let exec : Executor Nat := fun q count =>
      (if count = 0 then .error (.failed "busy")
        else if q.from? = some "authors" then .ok [[.int 7, .str "name"]]
        else .ok [[.int 1, .int 7]], count + 1)
    let requests : List LabelRequest :=
      [.foreignKeys "authorship", .foreignKeys "authorship", .refresh "nowhere"]
    Model.ofDecl .plain .authorship = .ok .authorship ∧
      Coherent Model.authorship.catalog
        (LabelRequest.run exec requests (.authorship, 0)).1.labels
        (LabelRequest.run exec.recorded requests (.authorship, 0, [])).2.2 ∧
      (LabelRequest.run exec requests (.authorship, 0)).1.dirty = ["books"] ∧
      (LabelRequest.run exec requests (.authorship, 0)).1.labels.labels["authorship"]?.map
        (·.toList) = some [(0, ""), (1, "name")] := by
  intro exec requests
  exact ⟨Model.ofDecl_authorship, coherent_run exec Model.ofDecl_authorship 0 requests,
    by decide +kernel, by decide +kernel⟩

end StarSchema
