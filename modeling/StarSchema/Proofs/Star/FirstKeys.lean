import StarSchema.Proofs.StableSort
import StarSchema.Proofs.Star.Filters
import StarSchema.Proofs.Star.Joins
import StarSchema.Proofs.Star.Requirements

/-!
# What a star takes from its fact and its dimensions

The foreign keys of a fact name dimensions, some of them more than once. A star goes through the
keys in order and joins a dimension when a key names it for the first time, so that the dimensions
stand in the order in which they are first named and each is joined by the first key that names it.

Its filters come from three sources one after the other, the labels of these dimensions, the stored
fields and the calculated fields, and are then sorted by name. The filters of the stored fields are
sorted once before, which changes nothing: a stable sort keeps what has the same name in its order.

Main definition: `Star.offeredFilters`.

Main results: `Star.names_joins_of_ofFact`, `Star.isStableSort_initialFilters`,
`Star.joined_by_first_keys`.
-/

namespace StarSchema

/-! ### Joins -/

namespace Star

variable {dimensions : List Dimension} {fact : Fact} {s : Star}

/-- The dimensions that are joined already stay, and behind them come the others, each where it is
named first. -/
theorem names_foldl_addJoin (resolved joins : List StarJoin) :
    (resolved.foldl addJoin joins).map (·.dimension.name) =
      joins.map (·.dimension.name) ++
        ((resolved.map (·.dimension.name)).filter
          (· ∉ joins.map (·.dimension.name))).eraseDups := by
  induction resolved generalizing joins with
  | nil => simp
  | cons j resolved ih =>
    have present_iff : joins.any (·.dimension.name == j.dimension.name) = true ↔
        j.dimension.name ∈ joins.map (·.dimension.name) := by
      simp [List.any_eq_true, List.mem_map]
    rw [List.foldl_cons, ih, addJoin, List.map_cons]
    split
    · next present =>
      rw [present_iff] at present
      rw [List.filter_cons_of_neg (by simpa using present)]
    · next absent =>
      rw [present_iff] at absent
      rw [List.filter_cons_of_pos (by simpa using absent), List.eraseDups_cons, List.filter_filter,
        List.map_append, List.map_singleton, List.append_assoc, List.singleton_append]
      congr 4
      funext name
      rw [Bool.eq_iff_iff]
      simp [not_or, and_comm]

/-- Where the joins of a star come from: each is a foreign key with the dimension that it names. -/
theorem resolveJoin_of_mem_joins (h : ofFact dimensions fact = .ok s) {j : StarJoin}
    (hj : j ∈ s.joins) :
    dimensions.find? (·.name == j.foreignKey.dimension) = some j.dimension := by
  obtain ⟨resolved, calculated, found, -, rfl⟩ := ofFact_eq_ok_iff.mp h
  have mem := ((foldl_addJoin resolved [] List.nodup_nil).2 j hj).resolve_left List.not_mem_nil
  obtain ⟨k, -, hk⟩ := exists_of_mem_mapM found mem
  obtain ⟨rfl, refers⟩ := resolveJoin_eq_ok_iff.mp hk
  exact refers

theorem names_joins_of_ofFact (h : ofFact dimensions fact = .ok s) :
    s.joins.map (·.dimension.name) = (fact.table.foreignKeys.map (·.dimension)).eraseDups := by
  obtain ⟨resolved, calculated, found, -, rfl⟩ := ofFact_eq_ok_iff.mp h
  have named : resolved.map (·.dimension.name) = fact.table.foreignKeys.map (·.dimension) := by
    refine map_eq_map_of_mapM_eq_ok (fun k j hj => ?_) found
    simpa using List.find?_some (resolveJoin_eq_ok_iff.mp hj).2
  show (resolved.foldl addJoin []).map (·.dimension.name) = _
  rw [names_foldl_addJoin, named]
  simp

end Star

/-- The join of a dimension where its key is the cell of a field of the fact. -/
def StarJoin.onKey (j : StarJoin) (fact : String) : Sql.Join where
  table := j.dimension.name
  on := .binary .eq (.column fact j.foreignKey.field.name)
    (.column j.dimension.name j.dimension.table.key.name)

/-! ### Filters -/

/-- The filter for a text within a label. -/
def Label.textFilter (l : Label) : Filter where
  fieldName := l.displayName
  dataType := .str
  operator := .like
  subject := l.expr

/-- A bound for the number that a calculated field gives. -/
def CalculatedField.bound (c : CalculatedField) (operator : Operator) : Filter where
  fieldName := c.displayName
  dataType := .float
  operator
  subject := c.expr

namespace Star

variable {dimensions : List Dimension} {fact : Fact} {s : Star}

/-- The filters of a star before they are sorted: one for each label, those of the stored fields,
and two bounds for each calculated field that can be seen. -/
def offeredFilters (s : Star) : List Filter :=
  s.joins.map (·.dimension.label.textFilter) ++ s.fact.table.fields.flatMap Field.filters ++
    (s.calculated.filter (·.visible)).flatMap fun c => [c.bound .ge, c.bound .le]

theorem flatMap_bounds (calculated : List CalculatedField) :
    (calculated.filter (·.visible)).flatMap (fun c => [c.bound .ge, c.bound .le]) =
      calculated.flatMap (·.filters) := by
  induction calculated with
  | nil => rfl
  | cons c calculated ih =>
    rw [List.filter_cons, List.flatMap_cons, ← ih, CalculatedField.filters]
    split <;> rfl

theorem isStableSort_initialFilters (s : Star) :
    IsStableSort Filter.displayName s.offeredFilters
      (initialFilters s.fact s.joins s.calculated) := by
  rw [offeredFilters, flatMap_bounds]
  exact (isStableSort_mergeSort _ _).of_part (isStableSort_mergeSort _ _)

/-- **Each dimension that a fact refers to is joined once, by its first key.** For every star: the
joined dimensions are those that the foreign keys name, in the order in which they are first named;
each is the dimension that is found under that name, with the first foreign key that names it; the
query of the star and those of views over it join just these dimensions, each where its key is the
cell of that foreign key. The calculated fields are the declared ones, and the filters are those
that labels, stored fields and calculated fields offer, stably sorted by name. -/
theorem joined_by_first_keys (h : ofFact dimensions fact = .ok s) :
    s.joins.map (·.dimension.name) = (fact.table.foreignKeys.map (·.dimension)).eraseDups ∧
    (∀ j ∈ s.joins,
      dimensions.find? (·.name == j.dimension.name) = some j.dimension ∧
        fact.table.foreignKeys.find? (·.dimension == j.dimension.name) = some j.foreignKey) ∧
    (s.baseQuery.joins = s.joins.map (·.onKey fact.name) ∧
      (∀ q, s.compose = .ok q → q.joins = s.joins.map (·.onKey fact.name)) ∧
      ∀ (v : View) q, v.compose s = .ok q → q.joins = s.joins.map (·.onKey fact.name)) ∧
    (s.fact = fact ∧ fact.calculated.Forall₂ (fun d c => c.Records d) s.calculated) ∧
    IsStableSort Filter.displayName s.offeredFilters s.filters := by
  obtain ⟨same, built⟩ := built_of_ofFact h
  have joins : s.joins.map (·.toJoin s.name) = s.joins.map (·.onKey fact.name) := by
    rw [← same]
    rfl
  refine ⟨names_joins_of_ofFact h, fun j hj => ?_, ⟨joins, fun q hq => ?_, fun v q hq => ?_⟩,
    ⟨same, records_of_ofFact h⟩, ?_⟩
  · have refers := resolveJoin_of_mem_joins h hj
    have named : j.dimension.name = j.foreignKey.dimension := by
      simpa using List.find?_some refers
    have joined : s.joins.find? (·.dimension.name == j.dimension.name) = some j :=
      (Catalog.find?_key_eq_some_iff built.distinct).mpr ⟨hj, rfl⟩
    refine ⟨named ▸ refers, ?_⟩
    rw [← find?_joins_of_ofFact h, joined, Option.map_some]
  · exact (readsRows_compose hq).joins.trans joins
  · exact (View.readsRows_compose hq).joins.trans joins
  · rw [filters_of_ofFact h]
    exact s.isStableSort_initialFilters

end Star

/-! ### Deliveries between two places -/

/-- A dimension with a numbered key, which labels its rows. -/
def DimensionDecl.numbered (name label : String) : DimensionDecl where
  table := { name, fields := [{ name := "id", dataType? := some .int, isKey := true }] }
  label := { displayName := label, fields := ["id"] }

/-- Two keys refer to places, with a key to carriers between them, and the weight of a stored field
has the name of a calculated one. -/
def FactDecl.deliveries : FactDecl where
  table :=
    { name := "deliveries"
      fields :=
        [{ name := "id", dataType? := some .int, isKey := true },
          { name := "origin", dataType? := some .int
            dimension? := some "places", referenced? := some "id" },
          { name := "carrier", dataType? := some .int
            dimension? := some "carriers", referenced? := some "id" },
          { name := "destination", dataType? := some .int
            dimension? := some "places", referenced? := some "id" },
          { name := "weight", dataType? := some .float, operators? := some [.le] },
          { name := "packaging", dataType? := some .float, operators? := some [] }] }
  calculated := [{ displayName := "weight", formula := "[weight] + [packaging]" }]

def Fact.deliveries : Fact :=
  (Fact.ofDecl .plain {} .deliveries).toOption.get rfl

def Dimension.places : Dimension :=
  (Dimension.ofDecl .plain {} (.numbered "places" "Place")).toOption.get rfl

def Dimension.carriers : Dimension :=
  (Dimension.ofDecl .plain {} (.numbered "carriers" "Carrier")).toOption.get rfl

def Dimension.years : Dimension :=
  (Dimension.ofDecl .plain {} (.numbered "years" "Year")).toOption.get rfl

namespace Star

theorem deliveries_outcome :
    (ofFact [.years, .carriers, .places] .deliveries).toOption.any (fun s =>
      s.joins.map (·.foreignKey.field.name) == ["origin", "carrier"] &&
        (s.offeredFilters.filter (·.displayName == "weight <=")).map (·.subject.columns) ==
          [[("deliveries", "weight")], [("deliveries", "weight"), ("deliveries", "packaging")]]) =
      true := by
  decide +kernel

/-- Two keys to one dimension, a dimension that no key names, and two filters of one name. -/
theorem joined_by_first_keys_deliveries :
    ∃ s, ofFact [.years, .carriers, .places] .deliveries = .ok s ∧
      s.joins.map (·.dimension.name) = ["places", "carriers"] ∧
      s.joins.map (·.foreignKey.field.name) = ["origin", "carrier"] ∧
      (∀ q, s.compose = .ok q → q.joins.map (·.table) = ["places", "carriers"]) ∧
      (s.filters.filter (·.displayName == "weight <=")).map (·.subject.columns) =
        [[("deliveries", "weight")], [("deliveries", "weight"), ("deliveries", "packaging")]] := by
  obtain ⟨s, built, outcome⟩ := exists_of_any_toOption deliveries_outcome
  rw [Bool.and_eq_true_iff, beq_iff_eq, beq_iff_eq] at outcome
  obtain ⟨names, -, ⟨-, composed, -⟩, -, sorted⟩ :=
    joined_by_first_keys built
  have joined : s.joins.map (·.dimension.name) = ["places", "carriers"] :=
    names.trans (by decide +kernel)
  refine ⟨s, built, joined, outcome.1, fun q hq => ?_, ?_⟩
  · rw [composed q hq, List.map_map]
    exact joined
  · rw [sorted.stable]
    exact outcome.2

end Star

end StarSchema
