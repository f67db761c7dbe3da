import StarSchema.Proofs.Model.Scope

/-!
# What a model takes from its declaration

A declaration that loads is checked, but what it says is not changed: the names of its tables, the
fields, the foreign keys and the labels of the model are those that it declares. So what a model
will do can be told from the declaration, without the tables that are built from it.

Main definitions: `Table.Reflects`, `Fact.Reflects`.

Main results: `Table.reflects_of_ofDecl`, `Model.star_of_mem_facts`, `Model.view_of_mem_views`.
-/

namespace StarSchema

variable {engine : PatternEngine}

/-! ### Tables -/

/-- The table has the names and the order that are declared. -/
structure Table.Reflects (d : TableDecl) (t : Table) : Prop where
  name : t.name = d.name
  orderBy : t.orderBy = d.orderBy
  fields : t.fields.map (·.name) = d.fields.map (·.name)
  shown : t.fields.map (·.displayName) = d.fields.map (·.shownName)
  foreignKeys : t.foreignKeys.map ForeignKey.names = d.foreignKeys

theorem Table.reflects_of_ofDecl {settings : Settings} {d : TableDecl} {t : Table}
    (h : Table.ofDecl engine settings d = .ok t) : t.Reflects d := by
  have records := records_of_ofDecl h
  exact
    { name := records.name
      orderBy := records.orderBy
      fields := records.names_fields
      shown := records.map_fields fun _ _ => Field.Records.displayName
      foreignKeys := records.names_foreignKeys }

/-- The dimension has the names that are declared. -/
structure Dimension.Reflects (d : DimensionDecl) (x : Dimension) : Prop where
  name : x.name = d.table.name
  label : x.label.displayName = d.label.displayName

theorem Dimension.reflects_of_ofDecl {settings : Settings} {d : DimensionDecl} {x : Dimension}
    (h : Dimension.ofDecl engine settings d = .ok x) : x.Reflects d := by
  have records := records_of_ofDecl h
  exact ⟨records.table.name, congrArg Label.displayName records.label⟩

/-- The fact has the fields that are declared, and the defaults of its computed fields are
numbers. -/
structure Fact.Reflects (d : FactDecl) (f : Fact) : Prop where
  table : f.table.Reflects d.table
  calculated : f.calculated = d.calculated
  defaults : ∀ c ∈ f.calculated, ∃ default?, c.resolveDefault = .ok default?

theorem Fact.reflects_of_ofDecl {settings : Settings} {d : FactDecl} {f : Fact}
    (h : Fact.ofDecl engine settings d = .ok f) : f.Reflects d := by
  obtain ⟨table, built, h⟩ := bind_eq_ok_iff.mp h
  obtain ⟨_, checked, h⟩ := bind_eq_ok_iff.mp h
  rw [← pure_eq_ok_iff.mp h]
  refine ⟨Table.reflects_of_ofDecl built, rfl, fun c hc => ?_⟩
  obtain ⟨default?, resolved, -⟩ := bind_eq_ok_iff.mp (forM_eq_ok_iff.mp checked c hc)
  exact ⟨default?, mapError_eq_ok_iff.mp resolved⟩

/-! ### Catalogs -/

namespace Catalog

/-- A declared fact has its fact in the catalog. -/
theorem exists_fact_of_ofDecl {d : ModelDecl} {c : Catalog} (h : Catalog.ofDecl engine d = .ok c)
    {fd : FactDecl} (hfd : fd ∈ d.facts) :
    ∃ f ∈ c.facts, Fact.ofDecl engine d.settings fd = .ok f :=
  exists_mem_of_mapM (ofDecl_eq_ok h).2.2.2 hfd

theorem names_dimensions {d : ModelDecl} {c : Catalog} (h : Catalog.ofDecl engine d = .ok c) :
    c.dimensions.map (·.name) = d.dimensions.map (·.table.name) :=
  map_eq_map_of_mapM_eq_ok (fun _ _ => Dimension.name_of_ofDecl) (ofDecl_eq_ok h).2.1

end Catalog

/-! ### Stars and views -/

/-- The plan has the names that are declared, and there is a fact for it. -/
structure ViewPlan.Reflects (facts : List Fact) (d : ViewDecl) (p : ViewPlan) : Prop where
  name : p.name = d.name
  fact : p.fact = d.fact
  groupBy : p.groupBy = d.groupBy
  bases : p.aggregates.map (·.base) = d.aggregates.map (·.base)
  aggregates : p.aggregates.map (·.displayName) = d.aggregates.map (·.displayName)
  orderBy : p.orderBy = d.orderBy
  hasFact : ∃ f ∈ facts, f.name = d.fact

theorem ViewPlan.reflects_of_ofDecl {facts : List Fact} {d : ViewDecl} {p : ViewPlan}
    (h : ViewPlan.ofDecl facts d = .ok p) : p.Reflects facts d := by
  have records := records_of_ofDecl h
  obtain ⟨aggregates, planned, h⟩ := bind_eq_ok_iff.mp h
  split at h
  · cases h
  · next present =>
    exact
      { name := records.name
        fact := records.fact
        groupBy := records.groupBy
        bases := map_eq_map_of_forall₂ (fun _ _ h => h.2.1) records.aggregates
        aggregates := map_eq_map_of_forall₂ (fun _ _ h => h.1) records.aggregates
        orderBy := records.orderBy
        hasFact := by simpa using present }

theorem lookup_map_key {α β : Type} (key : α → String) (value : α → β) (xs : List α)
    (name : String) :
    (xs.map fun x => (key x, value x)).lookup name = (xs.find? (key · == name)).map value := by
  induction xs with
  | nil => rfl
  | cons x xs ih =>
    rw [List.map_cons, List.lookup_cons, List.find?_cons, BEq.comm]
    cases key x == name with
    | true => rfl
    | false => exact ih

namespace Model

variable {d : ModelDecl} {m : Model}

theorem lookup_stars_of_mem_facts (h : Model.ofDecl engine d = .ok m) {f : Fact}
    (hf : f ∈ m.catalog.facts) :
    m.stars.lookup f.name = some (Star.ofFact m.catalog.dimensions f) := by
  have distinct : (m.catalog.facts.map (·.name)).Nodup :=
    (distinctNames_of_ofDecl h).of_append_right
  rw [(ofDecl_eq_ok h).2.1, lookup_map_key, (Catalog.find?_key_eq_some_iff distinct).mpr ⟨hf, rfl⟩]
  rfl

/-- The star over a fact is what the fact gives with the dimensions of the model. -/
theorem star_of_mem_facts (h : Model.ofDecl engine d = .ok m) {f : Fact}
    (hf : f ∈ m.catalog.facts) :
    m.star f.name = (Star.ofFact m.catalog.dimensions f).mapError .composition := by
  rw [star, lookup_stars_of_mem_facts h hf]

theorem composeStar_of_star {name : String} {x : Except CompositionError Star}
    (h : m.star name = x.mapError .composition) :
    m.composeStar name = (x >>= Star.compose).mapError .composition := by
  rw [composeStar, h]
  cases x <;> rfl

/-- A view whose name no other has is what its plan gives with the stars of the model. -/
theorem view_of_mem_views (h : Model.ofDecl engine d = .ok m) {vd : ViewDecl} (hv : vd ∈ d.views)
    (only : ∀ w ∈ d.views, w.name = vd.name → w = vd) :
    ∃ p, ViewPlan.ofDecl m.catalog.facts vd = .ok p ∧
      m.view vd.name = (bindView m.stars p).mapError .composition := by
  obtain ⟨-, -, ⟨plans, planned, views⟩, -⟩ := ofDecl_eq_ok h
  obtain ⟨p, hp, plan⟩ := exists_mem_of_mapM planned hv
  refine ⟨p, plan, ?_⟩
  have found : plans.reverse.find? (·.name == vd.name) = some p := by
    cases found : plans.reverse.find? (·.name == vd.name) with
    | none =>
      have named := (ViewPlan.reflects_of_ofDecl plan).name
      exact absurd (beq_iff_eq.mpr named)
        (List.find?_eq_none.mp found p (List.mem_reverse.mpr hp))
    | some p' =>
      obtain ⟨w, hw, plan'⟩ := exists_of_mem_mapM planned
        (List.mem_reverse.mp (List.mem_of_find?_eq_some found))
      have named : p'.name = vd.name := by simpa using List.find?_some found
      rw [(ViewPlan.reflects_of_ofDecl plan').name] at named
      rw [only w hw named, plan] at plan'
      exact congrArg some (Except.ok.inj plan').symm
  rw [view, views, ← List.map_reverse, lookup_map_key, found]
  rfl

end Model

end StarSchema
