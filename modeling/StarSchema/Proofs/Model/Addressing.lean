import StarSchema.Proofs.Model.Compositions
import StarSchema.Proofs.Star.Names

/-!
# Which filters and fields of a star can be addressed

The names of the filters of a star come from three sources and are partly put together from a name
and a suffix: labels and fields of text give filters without a suffix, and an operator that is
declared twice gives two filters of one name. All of these names can be told from the declaration,
and every filter is reached by its own just if no two of them are the same. The like holds for
fields. Nothing of the kind is checked when a model is loaded.

Main definitions: `FieldDecl.filterNames`, `CalculatedDecl.filterNames`, `ModelDecl.filterNames`.

Main result: `Model.addressable_iff_distinct`.
-/

namespace StarSchema

variable {engine : PatternEngine}

/-! ### Names of filters -/

/-- The name of a filter, from that of its field. -/
def Operator.filterName (op : Operator) (name : String) : String :=
  if op.suffix = "" then name else name ++ " " ++ op.suffix

/-- The operators of a field: those that are declared, or else those of its type. -/
def FieldDecl.operators (d : FieldDecl) : List Operator :=
  d.operators?.getD (if d.dimension?.isSome then [] else d.type?.elim [] Operator.defaults)

/-- The names of the filters of a field. -/
def FieldDecl.filterNames (d : FieldDecl) : List String :=
  if !d.visible || d.isKey then [] else d.operators.map (·.filterName d.shownName)

/-- The names of the filters of a calculated field. -/
def CalculatedDecl.filterNames (d : CalculatedDecl) : List String :=
  if d.visible then [.ge, .le].map (Operator.filterName · d.displayName) else []

/-- The names of the filters of the star of a fact. The filter of a label has the name of the
label. -/
def ModelDecl.filterNames (d : ModelDecl) (fd : FactDecl) : List String :=
  d.labelNames fd ++ fd.table.fields.flatMap (·.filterNames) ++
    fd.calculated.flatMap (·.filterNames)

theorem Field.Records.names_filters {table : String} {d : FieldDecl} {f : Field}
    (h : f.Records engine table d) : f.filters.map (·.displayName) = d.filterNames := by
  have operators : d.operators = f.operators := by
    rw [FieldDecl.operators, h.operators, h.dataType]
    rfl
  rw [Field.filters, FieldDecl.filterNames, operators, ← h.visible, ← h.isKey]
  split
  · rfl
  · rw [List.map_map, ← h.displayName]
    rfl

theorem CalculatedField.Records.names_filters {d : CalculatedDecl} {c : CalculatedField}
    (h : c.Records d) : c.filters.map (·.displayName) = d.filterNames := by
  rw [filters, CalculatedDecl.filterNames, ← h.visible]
  split
  · rw [List.map_map, ← h.displayName]
    rfl
  · rfl

/-! ### Names of a star -/

namespace Catalog

variable {d : ModelDecl} {c : Catalog} {fd : FactDecl} {f : Fact} {s : Star}

/-- The filters of a star have the names that are declared, each as often as it is declared. -/
theorem perm_layout (h : Catalog.ofDecl engine d = .ok c)
    (declared : Fact.ofDecl engine d.settings fd = .ok f)
    (hs : Star.ofFact c.dimensions f = .ok s) : s.layout.Perm (d.filterNames fd) := by
  have labels := perm_names_labels h (Fact.reflects_of_ofDecl declared) hs
  have records := Fact.records_of_ofDecl declared
  have calculated := Star.records_of_ofFact hs
  have filters := Star.filters_of_ofFact hs
  obtain ⟨rfl, -⟩ := Star.built_of_ofFact hs
  have ofLabels : (s.joins.map (·.dimension.label.filter)).map (·.displayName) =
      s.labels.map (·.displayName) := by
    rw [Star.labels, List.map_map, List.map_map]
    rfl
  have ofFields : (s.fact.table.filters.map (·.displayName)).Perm
      (fd.table.fields.flatMap (·.filterNames)) := by
    refine ((Filter.sort_perm _).map _).trans (.of_eq ?_)
    rw [List.map_flatMap, List.flatMap_def, List.flatMap_def,
      records.table.map_fields fun _ _ => Field.Records.names_filters]
  have ofCalculated : (s.calculated.flatMap (·.filters)).map (·.displayName) =
      fd.calculated.flatMap (·.filterNames) := by
    rw [List.map_flatMap, List.flatMap_def, List.flatMap_def, ← records.calculated,
      map_eq_map_of_forall₂ (fun _ _ record => record.names_filters) calculated]
  rw [Star.layout, filters, Star.initialFilters, ModelDecl.filterNames, ← ofCalculated]
  refine ((Filter.sort_perm _).map _).trans ?_
  rw [List.map_append, List.map_append, ofLabels]
  exact (labels.append ofFields).append_right _

end Catalog

/-! ### Models -/

namespace Model

variable {d : ModelDecl} {m : Model}

/-- Requests to filters change neither the names of filters nor the fields of a star. -/
theorem names_of_star (h : Model.ofDecl engine d = .ok m) {fd : FactDecl} (hfd : fd ∈ d.facts)
    {requests : List FilterRequest} {s : Star}
    (found : (m.runFilters requests).star fd.table.name = .ok s) :
    s.layout.Perm (d.filterNames fd) ∧
      (s.fields.map (·.column.displayName)).Perm (d.starNames fd) := by
  have hc := catalog_of_ofDecl h
  obtain ⟨f, hf, declared⟩ := Catalog.exists_fact_of_ofDecl hc hfd
  rw [← Fact.name_of_ofDecl declared, star_runFilters_of_mem_facts h hf, mapError_eq_ok_iff,
    map_eq_ok_iff] at found
  obtain ⟨new, built, rfl⟩ := found
  have fields (r : List StarRequest) : (new.run r).fields = new.fields := by
    rw [Star.run_eq_mapFilters]
    rfl
  rw [Star.layout_run, fields]
  exact ⟨Catalog.perm_layout hc declared built,
    Catalog.perm_names_fields hc (Fact.reflects_of_ofDecl declared) built⟩

/-- **Everything can be addressed just if names are distinct.** In a model that loads, after any
requests to filters, a filter of a star is reached by its own name just if no filter before it has
that name, and all of them are reached just if the names that the declaration gives to filters are
distinct. All fields of the star are reached just if fields of one name are the same column, and so
they are if the names that the declaration gives to fields are distinct. -/
theorem addressable_iff_distinct (h : Model.ofDecl engine d = .ok m) {fd : FactDecl}
    (hfd : fd ∈ d.facts) (requests : List FilterRequest) {s : Star}
    (found : (m.runFilters requests).star fd.table.name = .ok s) :
    (∀ i f, s.filters[i]? = some f →
      (s.AddressesFilter i f ↔ f.displayName ∉ s.layout.take i)) ∧
    ((∀ i f, s.filters[i]? = some f → s.AddressesFilter i f) ↔ (d.filterNames fd).Nodup) ∧
    ((∀ x ∈ s.fields, s.AddressesField x) ↔
      ∀ x ∈ s.fields, ∀ y ∈ s.fields, x.column.displayName = y.column.displayName →
        x.column = y.column) ∧
    ((d.starNames fd).Nodup → ∀ x ∈ s.fields, s.AddressesField x) := by
  obtain ⟨filters, fields⟩ := names_of_star h hfd found
  refine ⟨fun i f => Star.addressesFilter_iff, ?_, Star.forall_addressesField_iff,
    fun distinct => ?_⟩
  · rw [← filters.nodup_iff]
    exact Star.forall_addressesFilter_iff
  · exact Star.addressesField_of_nodup (fields.nodup_iff.mpr distinct)

end Model

/-! ### Two fields of one name -/

/-- Sales with two amounts that go by the same name. -/
def FactDecl.namesakes : FactDecl where
  table :=
    { name := "sales"
      fields :=
        [{ name := "id", dataType? := some .int, isKey := true },
          { name := "price", dataType? := some .float, displayName? := some "Amount" },
          { name := "cost", dataType? := some .float, displayName? := some "Amount" }] }

def ModelDecl.namesakes : ModelDecl where
  facts := [.namesakes]

namespace Model

theorem namesakes_outcome :
    (Model.ofDecl .plain .namesakes).toOption.any (fun m =>
      ((m.runFilters [.clear "sales"]).star "sales").toOption.any fun s =>
        s.fields.any fun x => s.fields.any fun y =>
          x.column.displayName == y.column.displayName &&
            x.column.expr.columns != y.column.expr.columns) = true := by
  decide +kernel

theorem salesStar_outcome :
    (Model.ofDecl .plain .sales).toOption.any (fun m => (m.star "sales").isOk) = true := by
  decide +kernel

/-- Where names are distinct, all is reached. Where they are not, some filter and some field are not
reached: what has their name comes before them. -/
theorem addressable_iff_distinct_namesakes :
    (∃ m s, Model.ofDecl .plain .sales = .ok m ∧ m.star "sales" = .ok s ∧
      (∀ i f, s.filters[i]? = some f → s.AddressesFilter i f) ∧
      ∀ x ∈ s.fields, s.AddressesField x) ∧
    ∃ m s, Model.ofDecl .plain .namesakes = .ok m ∧
      (m.runFilters [.clear "sales"]).star "sales" = .ok s ∧
      (∃ i f, s.filters[i]? = some f ∧ ¬ s.AddressesFilter i f) ∧
      ∃ x ∈ s.fields, ¬ s.AddressesField x := by
  constructor
  · obtain ⟨m, built, outcome⟩ := exists_of_any_toOption salesStar_outcome
    obtain ⟨s, found⟩ := exists_eq_ok_of_isOk outcome
    have hsales : FactDecl.sales ∈ ModelDecl.sales.facts := List.mem_cons_self
    obtain ⟨-, filters, -, fields⟩ := addressable_iff_distinct built hsales [] found
    exact ⟨m, s, built, found, filters.mpr (by decide +kernel), fields (by decide +kernel)⟩
  · obtain ⟨m, built, outcome⟩ := exists_of_any_toOption namesakes_outcome
    obtain ⟨s, found, twice⟩ := exists_of_any_toOption outcome
    obtain ⟨-, filters, fields, -⟩ :=
      addressable_iff_distinct built List.mem_cons_self [.clear "sales"] found
    refine ⟨m, s, built, found, ?_, ?_⟩
    · have missed : ¬ ∀ i f, s.filters[i]? = some f → s.AddressesFilter i f := fun all =>
        absurd (filters.mp all) (by decide +kernel)
      simpa only [not_forall, exists_prop] using missed
    · have missed : ¬ ∀ x ∈ s.fields, s.AddressesField x := fun all => by
        obtain ⟨x, hx, twice⟩ := List.any_eq_true.mp twice
        obtain ⟨y, hy, twice⟩ := List.any_eq_true.mp twice
        obtain ⟨named, other⟩ := Bool.and_eq_true_iff.mp twice
        have same := fields.mp all x hx y hy (beq_iff_eq.mp named)
        exact bne_iff_ne.mp other (congrArg (·.expr.columns) same)
      simpa only [not_forall, exists_prop] using missed

end Model

end StarSchema
