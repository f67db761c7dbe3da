import StarSchema.Proofs.Labels.Coherence
import StarSchema.Proofs.Model.Requests

/-!
# What a request for labels asks and leaves behind

A request for labels sends at most two queries, each of which may fail or be answered with rows
that say nothing. Every way in which a request can end is listed here once, with the queries that it
has sent by then and the cache that it leaves; what holds of answers and failures is read off the
list. A request always ends, since a lookup table only ever asks for a dimension, and a dimension
for nothing.

Main definitions: `Dimension.Gives`, `Lookup.Gives`, `LabelCache.Refreshes`, `LabelCache.Outcome`,
`Model.asked`.

Main results: `LabelCache.Coherent.outcome`, `Model.foreignKeys_outcome`.
-/

namespace StarSchema

variable {engine : PatternEngine}

variable {σ τ : Type}

/-- The executor answers the query of a dimension with rows that describe these labels. -/
def Dimension.Gives (x : Dimension) (exec : Executor σ) (state : σ) (labels : Labels) : Prop :=
  ∃ rows, (exec.fetch x.labelQuery state).1 = .ok rows ∧ dimensionLabels rows = .ok labels

/-- The executor answers the query of a lookup table with pairs that give these labels over those of
its distal dimension. -/
def Lookup.Gives (l : Lookup) (distal : Labels) (exec : Executor σ) (state : σ) (labels : Labels) :
    Prop :=
  ∃ rows, (exec.fetch l.pairsQuery state).1 = .ok rows ∧ lookupLabels distal rows = .ok labels

namespace LabelCache

/-- The table is a dirty lookup table with this dimension as its distal one. -/
structure Follows (c : Catalog) (cache : LabelCache) (name : String) (l : Lookup)
    (x : Dimension) : Prop where
  mem : l ∈ c.lookups
  named : l.name = name
  dirty : name ∈ cache.dirty
  distal : x ∈ c.dimensions ∧ x.name = l.distal.dimension

/-- The dimension is refreshed on the way to the labels of the table. -/
def Refreshes (c : Catalog) (cache : LabelCache) (name : String) (x : Dimension) : Prop :=
  (∃ l, cache.Follows c name l x) ∧ x.name ∈ cache.dirty

/-- How a request for the labels of a table ends: the queries that it has sent, its answer, and the
cache that it leaves. -/
inductive Outcome (c : Catalog) (exec : Executor σ) (state : σ) (name : String)
    (cache : LabelCache) : List Sql.Query → Except LabelError Labels → LabelCache → Prop where
  /-- The table has no labels. -/
  | unlabelled (other : name ∉ c.labelled) :
    Outcome c exec state name cache [] (.error (.resolution (.notLabelled name))) cache
  /-- The labels are cached and need not be fetched. -/
  | clean {labels : Labels} (labelled : name ∈ c.labelled) (clean : name ∉ cache.dirty)
    (cached : cache.labels[name]? = some labels) :
    Outcome c exec state name cache [] (.ok labels) cache
  /-- The labels of a dimension are fetched. -/
  | dimension {x : Dimension} {answer : Except LabelError Labels} (mem : x ∈ c.dimensions)
    (named : x.name = name) (dirty : name ∈ cache.dirty)
    (given : ∀ labels, answer = .ok labels ↔ x.Gives exec state labels) :
    Outcome c exec state name cache [x.labelQuery] answer (cache.keep name answer)
  /-- The distal dimension of a lookup table is missing. -/
  | missing {l : Lookup} (mem : l ∈ c.lookups) (named : l.name = name)
    (dirty : name ∈ cache.dirty) (missing : ∀ x ∈ c.dimensions, x.name ≠ l.distal.dimension) :
    Outcome c exec state name cache [] (.error (.resolution (.unknownTable l.distal.dimension)))
      cache
  /-- The pairs of a lookup table are fetched; its distal dimension need not be. -/
  | pairs {l : Lookup} {x : Dimension} {distal : Labels} {answer : Except LabelError Labels}
    (follows : cache.Follows c name l x) (clean : x.name ∉ cache.dirty)
    (cached : cache.labels[x.name]? = some distal)
    (given : ∀ labels, answer = .ok labels ↔ l.Gives distal exec state labels) :
    Outcome c exec state name cache [l.pairsQuery] answer (cache.keep name answer)
  /-- The labels of the distal dimension cannot be had. -/
  | refused {l : Lookup} {x : Dimension} {e : LabelError} (follows : cache.Follows c name l x)
    (dirty : x.name ∈ cache.dirty) (refused : ∀ labels, ¬x.Gives exec state labels) :
    Outcome c exec state name cache [x.labelQuery] (.error e) cache
  /-- The labels of the distal dimension are fetched, and then the pairs of the lookup table. -/
  | both {l : Lookup} {x : Dimension} {distal : Labels} {answer : Except LabelError Labels}
    (follows : cache.Follows c name l x) (dirty : x.name ∈ cache.dirty)
    (refreshed : x.Gives exec state distal)
    (given : ∀ labels, answer = .ok labels ↔
      l.Gives distal exec (exec.fetch x.labelQuery state).2 labels) :
    Outcome c exec state name cache [x.labelQuery, l.pairsQuery] answer
      ((cache.store x.name distal).keep name answer)

variable {c : Catalog} {cache : LabelCache} {record : List Exchange} {exec : Executor σ}

/-! ### One request -/

theorem readAnswer_dimension_iff {x : Dimension} {state : σ} {labels : Labels} :
    readAnswer x.name dimensionLabels (exec.fetch x.labelQuery state).1 = .ok labels ↔
      x.Gives exec state labels :=
  readAnswer_eq_ok_iff

theorem readAnswer_lookup_iff {l : Lookup} {distal : Labels} {state : σ} {labels : Labels} :
    readAnswer l.name (lookupLabels distal) (exec.fetch l.pairsQuery state).1 = .ok labels ↔
      l.Gives distal exec state labels :=
  readAnswer_eq_ok_iff

theorem zero_of_lookup_gives {l : Lookup} {distal : Labels} {state : σ} {labels : Labels}
    (h : l.Gives distal exec state labels) : labels[(0 : Int64)]? = some "" := by
  obtain ⟨rows, -, read⟩ := h
  rw [lookupLabels_eq] at read
  obtain ⟨pairs, -, rfl⟩ := map_eq_ok_iff.mp read
  exact joinedLabels_zero _ _

theorem zero_of_dimension_gives {x : Dimension} {state : σ} {labels : Labels}
    (h : x.Gives exec state labels) : labels[(0 : Int64)]? = some "" := by
  obtain ⟨rows, -, read⟩ := h
  exact zero_of_dimensionLabels read

theorem clean?_eq_none_of_mem_dirty {name : String} (dirty : name ∈ cache.dirty) :
    cache.clean? name = none := by
  rw [Option.eq_none_iff_forall_not_mem]
  intro labels found
  exact (clean?_eq_some_iff.mp found).1 dirty

/-- With a record the answer is the same, and is recorded. -/
theorem fetch_recorded_eq (q : Sql.Query) (state : σ) (exchanges : List Exchange) :
    exec.recorded.fetch q (state, exchanges) =
      ((exec.fetch q state).1, (exec.fetch q state).2, exchanges ++ [⟨q, (exec q state).1⟩]) := rfl

theorem dimensionKeys_of_clean? {x : Dimension} {labels : Labels}
    (found : cache.clean? x.name = some labels) (state : σ) :
    dimensionKeys exec x cache state = (.ok labels, cache, state) := by
  rw [dimensionKeys, found]

theorem dimensionKeys_of_dirty {x : Dimension} (dirty : x.name ∈ cache.dirty) (state : σ) :
    dimensionKeys exec x cache state =
      (readAnswer x.name dimensionLabels (exec.fetch x.labelQuery state).1,
        cache.keep x.name (readAnswer x.name dimensionLabels (exec.fetch x.labelQuery state).1),
        (exec.fetch x.labelQuery state).2) := by
  rw [dimensionKeys, clean?_eq_none_of_mem_dirty dirty]
  exact fetchLabels_eq exec _ _ _ _ _

variable (exec)

/-- How a request for a dimension ends. -/
theorem Coherent.outcome_dimension (h : Coherent c cache record) {x : Dimension}
    (mem : x ∈ c.dimensions) (state : σ) :
    ∃ answer cache' state' exchanges,
      LabelCache.dimensionKeys exec.recorded x cache (state, []) =
        (answer, cache', state', exchanges) ∧
      Outcome c exec state x.name cache (exchanges.map (·.query)) answer cache' ∧
      ∀ labels, answer = .ok labels → labels[(0 : Int64)]? = some "" := by
  have labelled : x.name ∈ c.labelled := List.mem_append_left _ (List.mem_map_of_mem mem)
  by_cases dirty : x.name ∈ cache.dirty
  · rw [dimensionKeys_of_dirty dirty, fetch_recorded_eq]
    refine ⟨_, _, _, _, rfl, ?_, fun labels read => ?_⟩
    · exact .dimension mem rfl dirty fun labels => readAnswer_dimension_iff
    · exact zero_of_dimension_gives (readAnswer_dimension_iff.mp read)
  · obtain ⟨labels, cached, found⟩ := h.exists_clean? labelled dirty
    rw [dimensionKeys_of_clean? found]
    refine ⟨_, _, _, _, rfl, .clean labelled dirty cached, ?_⟩
    rintro _ ⟨⟩
    exact h.zero_label _ _ cached

/-- How a request for a lookup table ends. -/
theorem Coherent.outcome_lookup (hc : c.DistinctNames) (h : Coherent c cache record) {l : Lookup}
    (mem : l ∈ c.lookups) (state : σ) :
    ∃ answer cache' state' exchanges,
      LabelCache.lookupKeys c exec.recorded l cache (state, []) =
        (answer, cache', state', exchanges) ∧
      Outcome c exec state l.name cache (exchanges.map (·.query)) answer cache' ∧
      ∀ labels, answer = .ok labels → labels[(0 : Int64)]? = some "" := by
  have labelled : l.name ∈ c.labelled := List.mem_append_right _ (List.mem_map_of_mem mem)
  rw [LabelCache.lookupKeys]
  by_cases dirty : l.name ∈ cache.dirty
  · rw [clean?_eq_none_of_mem_dirty dirty]
    cases found : c.dimension? l.distal.dimension with
    | none =>
      refine ⟨_, _, _, _, rfl, .missing mem rfl dirty fun x hx named => ?_, nofun⟩
      rw [(Catalog.dimension?_eq_some_iff hc).mpr ⟨hx, named⟩] at found
      cases found
    | some x =>
      have distal := (Catalog.dimension?_eq_some_iff hc).mp found
      have follows : cache.Follows c l.name l x := ⟨mem, rfl, dirty, distal⟩
      by_cases dirty' : x.name ∈ cache.dirty
      · simp only [dimensionKeys_of_dirty dirty', fetch_recorded_eq]
        cases read : readAnswer x.name dimensionLabels (exec.fetch x.labelQuery state).1 with
        | error e =>
          refine ⟨_, _, _, _, rfl, .refused follows dirty' fun labels given => ?_, nofun⟩
          rw [readAnswer_dimension_iff.mpr given] at read
          cases read
        | ok labels =>
          simp only [fetchLabels_eq, fetch_recorded_eq]
          refine ⟨_, _, _, _, rfl, .both follows dirty' (readAnswer_dimension_iff.mp read) ?_, ?_⟩
          · exact fun labels => readAnswer_lookup_iff
          · exact fun labels read => zero_of_lookup_gives (readAnswer_lookup_iff.mp read)
      · have labelled' : x.name ∈ c.labelled :=
          List.mem_append_left _ (List.mem_map_of_mem distal.1)
        obtain ⟨labels, cached, found⟩ := h.exists_clean? labelled' dirty'
        simp only [dimensionKeys_of_clean? found, fetchLabels_eq, fetch_recorded_eq]
        refine ⟨_, _, _, _, rfl, .pairs follows dirty' cached ?_, ?_⟩
        · exact fun labels => readAnswer_lookup_iff
        · exact fun labels read => zero_of_lookup_gives (readAnswer_lookup_iff.mp read)
  · obtain ⟨labels, cached, found⟩ := h.exists_clean? labelled dirty
    rw [found]
    refine ⟨_, _, _, _, rfl, .clean labelled dirty cached, ?_⟩
    rintro _ ⟨⟩
    exact h.zero_label _ _ cached

/-- **How a request for labels ends.** -/
theorem Coherent.outcome (hc : c.DistinctNames) (h : Coherent c cache record) (name : String)
    (state : σ) :
    ∃ answer cache' state' exchanges,
      LabelCache.foreignKeys c exec.recorded name cache (state, []) =
        (answer, cache', state', exchanges) ∧
      Outcome c exec state name cache (exchanges.map (·.query)) answer cache' ∧
      ∀ labels, answer = .ok labels → labels[(0 : Int64)]? = some "" := by
  rw [LabelCache.foreignKeys]
  cases hx : c.dimension? name with
  | some x =>
    obtain ⟨mem, rfl⟩ := (Catalog.dimension?_eq_some_iff hc).mp hx
    exact h.outcome_dimension exec mem state
  | none =>
    cases hl : c.lookup? name with
    | some l =>
      obtain ⟨mem, rfl⟩ := (Catalog.lookup?_eq_some_iff hc).mp hl
      exact h.outcome_lookup exec hc mem state
    | none =>
      refine ⟨_, _, _, _, rfl, .unlabelled fun labelled => ?_, nofun⟩
      rw [Catalog.mem_labelled_iff, hx, hl] at labelled
      simp at labelled

/-! ### What is left behind -/

variable {exec} {name : String}

/-- Nothing else is refreshed on the way to the labels of a dimension. -/
theorem not_refreshes_dimension (hc : c.DistinctNames) {x : Dimension} (mem : x ∈ c.dimensions)
    (y : Dimension) : ¬cache.Refreshes c x.name y := by
  rintro ⟨⟨l, follows⟩, -⟩
  exact Catalog.name_dimension_ne_lookup hc mem follows.mem follows.named.symm

/-- At most one dimension is refreshed on the way to the labels of a lookup table. -/
theorem Follows.eq_of_refreshes (hc : c.DistinctNames) {l : Lookup} {x y : Dimension}
    (follows : cache.Follows c name l x) (refreshes : cache.Refreshes c name y) : y = x := by
  obtain ⟨⟨l', follows'⟩, -⟩ := refreshes
  have same : l' = l := Catalog.lookup_eq_of_name_eq hc follows'.mem follows.mem
    (follows'.named.trans follows.named.symm)
  subst same
  have hx := (Catalog.dimension?_eq_some_iff hc).mpr follows.distal
  have hy := (Catalog.dimension?_eq_some_iff hc).mpr follows'.distal
  rw [hx] at hy
  exact (Option.some.inj hy).symm

theorem Follows.refreshes {l : Lookup} {x : Dimension} (follows : cache.Follows c name l x)
    (dirty : x.name ∈ cache.dirty) : cache.Refreshes c name x :=
  ⟨⟨l, follows⟩, dirty⟩

theorem Follows.not_refreshes (hc : c.DistinctNames) {l : Lookup} {x : Dimension}
    (follows : cache.Follows c name l x) (clean : x.name ∉ cache.dirty) (y : Dimension) :
    ¬cache.Refreshes c name y := by
  intro refreshes
  rw [follows.eq_of_refreshes hc refreshes] at refreshes
  exact clean refreshes.2

variable {state : σ} {asked : List Sql.Query} {cache' : LabelCache}

/-- Where labels are answered, the table has them and is clean, and so is the dimension that was
refreshed on the way. -/
theorem Outcome.of_ok (hc : c.DistinctNames) {labels : Labels}
    (h : Outcome c exec state name cache asked (.ok labels) cache') :
    cache'.labels[name]? = some labels ∧
      ∀ other, other ∈ cache'.dirty ↔
        other ∈ cache.dirty ∧ other ≠ name ∧ ∀ x, cache.Refreshes c name x → other ≠ x.name := by
  -- where nothing is refreshed on the way, the last part says nothing
  have alone (none : ∀ y, ¬cache.Refreshes c name y) (other : String) :
      (other ≠ name ∧ ∀ x, cache.Refreshes c name x → other ≠ x.name) ↔ other ≠ name :=
    and_iff_left fun x refreshes => absurd refreshes (none x)
  cases h with
  | clean labelled clean cached =>
    refine ⟨cached, fun other => ?_⟩
    rw [alone fun y refreshes => clean refreshes.1.choose_spec.dirty]
    refine (and_iff_left_of_imp ?_).symm
    rintro dirty rfl
    exact clean dirty
  | dimension mem named dirty given =>
    subst named
    refine ⟨getElem?_labels_store_self .., fun other => ?_⟩
    rw [alone (not_refreshes_dimension hc mem), keep, mem_dirty_store, and_comm]
  | pairs follows clean cached given =>
    refine ⟨getElem?_labels_store_self .., fun other => ?_⟩
    rw [alone (follows.not_refreshes hc clean), keep, mem_dirty_store, and_comm]
  | @both l x distal _ follows dirty refreshed _ =>
    refine ⟨getElem?_labels_store_self .., fun other => ?_⟩
    have only : (∀ y, cache.Refreshes c name y → other ≠ y.name) ↔ other ≠ x.name := by
      refine ⟨fun all => all x (follows.refreshes dirty), fun ne y refreshes => ?_⟩
      rwa [follows.eq_of_refreshes hc refreshes]
    rw [only, keep, mem_dirty_store, mem_dirty_store]
    tauto

/-- Where the labels cannot be had, a dimension that could be refreshed on the way has its new
labels and is clean. -/
theorem Outcome.of_error_of_gives (hc : c.DistinctNames) {e : LabelError}
    (h : Outcome c exec state name cache asked (.error e) cache') {x : Dimension} {labels : Labels}
    (refreshes : cache.Refreshes c name x) (given : x.Gives exec state labels) :
    cache'.labels[x.name]? = some labels ∧ x.name ∉ cache'.dirty := by
  cases h with
  | unlabelled other =>
    obtain ⟨⟨l, follows⟩, -⟩ := refreshes
    refine absurd (List.mem_append_right _ ?_) other
    exact follows.named ▸ List.mem_map_of_mem follows.mem
  | dimension mem named dirty _ =>
    subst named
    exact absurd refreshes (not_refreshes_dimension hc mem x)
  | missing mem named dirty missing =>
    obtain ⟨⟨l, follows⟩, -⟩ := refreshes
    have same := Catalog.lookup_eq_of_name_eq hc follows.mem mem (follows.named.trans named.symm)
    subst same
    exact absurd follows.distal.2 (missing x follows.distal.1)
  | pairs follows clean _ _ => exact absurd refreshes (follows.not_refreshes hc clean x)
  | refused follows dirty refused =>
    rw [follows.eq_of_refreshes hc refreshes] at given
    exact absurd given (refused labels)
  | both follows dirty given' _ =>
    obtain rfl := follows.eq_of_refreshes hc refreshes
    have same := readAnswer_dimension_iff.mpr given
    rw [readAnswer_dimension_iff.mpr given', Except.ok.injEq] at same
    subst same
    exact ⟨getElem?_labels_store_self .., fun mem => (mem_dirty_store.mp mem).1 rfl⟩

/-- Where the labels cannot be had, nothing else has changed. -/
theorem Outcome.of_error_of_ne (h : Outcome c exec state name cache asked (.error e) cache') 
    {other : String} (ne : ∀ x labels, cache.Refreshes c name x → x.Gives exec state labels →
      other ≠ x.name) :
    cache'.labels[other]? = cache.labels[other]? ∧
      (other ∈ cache'.dirty ↔ other ∈ cache.dirty) := by
  cases h with
  | @both l x distal _ follows dirty refreshed _ =>
    have hne := ne x distal (follows.refreshes dirty) refreshed
    exact ⟨getElem?_labels_store_of_ne _ hne, mem_dirty_store.trans (and_iff_right hne)⟩
  | _ => exact ⟨rfl, Iff.rfl⟩

end LabelCache

/-! ### Models -/

/-- The queries that a request for the labels of a table sends, in order. -/
def Model.asked (m : Model) (exec : Executor σ) (name : String) (state : σ) : List Sql.Query :=
  (m.foreignKeys exec.recorded name (state, [])).2.2.2.map (·.query)

open LabelCache

/-- A request of any kind keeps the tables of a model and leaves its labels coherent. -/
theorem ModelRequest.coherent_apply (exec : Executor τ) (r : ModelRequest) {m : Model}
    {record : List Exchange} (hc : m.catalog.DistinctNames)
    (h : Coherent m.catalog m.labels record) (state : τ) :
    (r.apply exec (m, state)).1.catalog = m.catalog ∧
      ∃ record', Coherent m.catalog (r.apply exec (m, state)).1.labels record' := by
  cases r with
  | filter r =>
    obtain ⟨-, catalog, labels⟩ := m.others_after_operation r
    refine ⟨catalog, record, ?_⟩
    show Coherent _ (r.operation.after m).labels _
    rwa [labels]
  | labels r =>
    obtain ⟨m', state', record', applied, catalog, h'⟩ :=
      @LabelRequest.coherent_apply _ exec _ state _ hc h r
    obtain ⟨record'', plain⟩ := r.apply_recorded exec m state record
    rw [applied, Prod.mk.injEq] at plain
    show (r.apply exec (m, state)).1.catalog = _ ∧
      ∃ record', Coherent _ (r.apply exec (m, state)).1.labels record'
    rw [← plain.1]
    exact ⟨catalog, record', h'⟩
  | fetchStar name => exact ⟨rfl, record, h⟩
  | fetchView name => exact ⟨rfl, record, h⟩

/-- At any time a model has its tables, and its labels are coherent. -/
theorem ModelRequest.coherent_labels (exec : Executor τ) (requests : List ModelRequest) {m : Model}
    {record : List Exchange} (hc : m.catalog.DistinctNames)
    (h : Coherent m.catalog m.labels record) (state : τ) :
    (run exec requests (m, state)).1.catalog = m.catalog ∧
      ∃ record', Coherent m.catalog (run exec requests (m, state)).1.labels record' := by
  induction requests generalizing m state record with
  | nil => exact ⟨rfl, record, h⟩
  | cons r requests ih =>
    obtain ⟨catalog, record', h'⟩ := r.coherent_apply exec hc h state
    rw [run, List.foldl_cons]
    rw [← catalog] at hc h' ⊢
    exact ih hc h' _

/-- Requests do not change the tables of a model. -/
theorem Model.catalog_run {d : ModelDecl} {m : Model} (h : Model.ofDecl engine d = .ok m)
    (exec : Executor τ) (requests : List ModelRequest) (state : τ) :
    (ModelRequest.run exec requests (m, state)).1.catalog = m.catalog := by
  have start : LabelCache.Coherent m.catalog m.labels [] := by
    rw [labels_of_ofDecl h]
    exact LabelCache.coherent_initial _
  exact (ModelRequest.coherent_labels exec requests (distinctNames_of_ofDecl h) start state).1

/-- How a request for labels to a model ends. -/
theorem Model.outcome_of_coherent (m : Model) (exec : Executor σ) {record : List Exchange}
    (hc : m.catalog.DistinctNames) (h : Coherent m.catalog m.labels record) (name : String)
    (state : σ) :
    ∃ answer cache' state',
      m.foreignKeys exec name state = (answer, { m with labels := cache' }, state') ∧
      m.labels.Outcome m.catalog exec state name (m.asked exec name state) answer cache' ∧
      ∀ labels, answer = .ok labels → labels[(0 : Int64)]? = some "" := by
  obtain ⟨answer, cache', state', exchanges, ended, outcome, zero⟩ := h.outcome exec hc name state
  -- the record tells what was asked, and keeping it changes nothing else
  obtain ⟨record', plain⟩ := foreignKeys_recorded exec m.catalog name m.labels state []
  have asked : m.asked exec name state = exchanges.map (·.query) := by
    simp only [asked, foreignKeys, ended]
  rw [ended, Prod.mk.injEq, Prod.mk.injEq] at plain
  obtain ⟨rfl, rfl, -⟩ := plain
  rw [← asked] at outcome
  exact ⟨_, _, _, rfl, outcome, zero⟩

/-- **A request for labels sends no query that it need not send, and what it leaves behind is told
by its answer.** The model is one that loads, after requests of any kind; the executor has a state
of its own and may fail at any query.

With labels the table becomes clean, and so does the dimension that was refreshed on the way; the
key zero, which refers to no row, has the empty label. Without labels nothing changes, except that
a dimension that was refreshed on the way keeps what it was given. -/
theorem Model.foreignKeys_outcome {d : ModelDecl} {m : Model} (h : Model.ofDecl engine d = .ok m)
    (exec₀ : Executor τ) (requests : List ModelRequest) (state₀ : τ) (exec : Executor σ)
    (name : String) (state : σ) :
    let before := (ModelRequest.run exec₀ requests (m, state₀)).1
    let answer := (before.foreignKeys exec name state).1
    let after := (before.foreignKeys exec name state).2.1
    before.labels.Outcome m.catalog exec state name (before.asked exec name state) answer
        after.labels ∧
      after = { before with labels := after.labels } ∧
      (∀ labels, answer = .ok labels →
        labels[(0 : Int64)]? = some "" ∧ after.labels.labels[name]? = some labels ∧
          ∀ other, other ∈ after.labels.dirty ↔ other ∈ before.labels.dirty ∧ other ≠ name ∧
            ∀ x, before.labels.Refreshes m.catalog name x → other ≠ x.name) ∧
      (∀ e, answer = .error e →
        (∀ x labels, before.labels.Refreshes m.catalog name x → x.Gives exec state labels →
          after.labels.labels[x.name]? = some labels ∧ x.name ∉ after.labels.dirty) ∧
        ∀ other, (∀ x labels, before.labels.Refreshes m.catalog name x →
            x.Gives exec state labels → other ≠ x.name) →
          after.labels.labels[other]? = before.labels.labels[other]? ∧
            (other ∈ after.labels.dirty ↔ other ∈ before.labels.dirty)) := by
  have hc := Model.distinctNames_of_ofDecl h
  have start : Coherent m.catalog m.labels [] := by
    rw [Model.labels_of_ofDecl h]
    exact coherent_initial _
  obtain ⟨catalog, record, coherent⟩ :=
    ModelRequest.coherent_labels exec₀ requests hc start state₀
  intro before answer after
  rw [← catalog] at hc coherent ⊢
  obtain ⟨_, _, _, ended, outcome, zero⟩ := before.outcome_of_coherent exec hc coherent name state
  simp only [answer, after, ended]
  refine ⟨outcome, trivial, ?_, ?_⟩
  · rintro labels rfl
    exact ⟨zero labels rfl, outcome.of_ok hc⟩
  · rintro e rfl
    exact ⟨fun _ _ => outcome.of_error_of_gives hc, fun _ => outcome.of_error_of_ne⟩

/-- The pairs of a lookup table are answered with a row that is too short, after the labels of its
distal dimension have been fetched: those are kept. -/
theorem foreignKeys_outcome_authorship :
    let exec : Executor Unit := fun q _ =>
      (if q.from? = some "authors" then .ok [[.int 7, .str "name"]] else .ok [[.int 1]], ())
    let requests : List ModelRequest := [.labels (.foreignKeys "books"), .fetchStar "nowhere"]
    let before := (ModelRequest.run exec requests (.authorship, ())).1
    let answer := (before.foreignKeys exec "authorship" ()).1
    let after := (before.foreignKeys exec "authorship" ()).2.1
    Model.ofDecl .plain .authorship = .ok .authorship ∧
      before.labels.Outcome Model.authorship.catalog exec () "authorship"
        (before.asked exec "authorship" ()) answer after.labels ∧
      (before.asked exec "authorship" ()).map (·.from?) = [some "authors", some "authorship"] ∧
      answer = .error (.execution (.columnCount 2 1)) ∧
      before.dirty = ["authors", "authorship", "books"] ∧
      after.dirty = ["authorship", "books"] := by
  intro exec requests before answer after
  have outcome := Model.foreignKeys_outcome Model.ofDecl_authorship exec requests () exec
    "authorship" ()
  exact ⟨Model.ofDecl_authorship, outcome.1, by decide +kernel, rfl, by decide +kernel,
    by decide +kernel⟩

end StarSchema
