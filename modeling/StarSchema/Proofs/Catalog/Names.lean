import Mathlib.Data.List.Nodup
import StarSchema.Model
import StarSchema.Proofs.Traversal

/-!
# The names of the tables of a model

A model only loads if no two of its tables share a name, whatever their roles. So a name picks at
most one table, and a search by name finds a table exactly when the table is there.

Main definitions: `Catalog.DistinctNames`, and `Model.authorship`, a small model to try things on.

Main results: `Catalog.distinctNames_of_ofDecl`, `Catalog.dimension?_eq_some_iff`,
`Catalog.lookup?_eq_some_iff`, `Model.labels_of_ofDecl`.
-/

namespace StarSchema

variable {engine : PatternEngine}

/-! ### A table has the name of its declaration -/

theorem Table.name_of_ofDecl {settings : Settings} {d : TableDecl} {t : Table}
    (h : Table.ofDecl engine settings d = .ok t) : t.name = d.name := by
  obtain ⟨fields, -, h⟩ := bind_eq_ok_iff.mp h
  split at h
  · rw [← pure_eq_ok_iff.mp h]
  · cases h
  · cases h

theorem Dimension.name_of_ofDecl {settings : Settings} {d : DimensionDecl} {x : Dimension}
    (h : Dimension.ofDecl engine settings d = .ok x) : x.name = d.table.name := by
  obtain ⟨table, ht, h⟩ := bind_eq_ok_iff.mp h
  obtain ⟨label, -, h⟩ := bind_eq_ok_iff.mp h
  rw [← pure_eq_ok_iff.mp h]
  exact Table.name_of_ofDecl ht

theorem Lookup.name_of_ofDecl {settings : Settings} {d : LookupDecl} {x : Lookup}
    (h : Lookup.ofDecl engine settings d = .ok x) : x.name = d.table.name := by
  obtain ⟨table, ht, h⟩ := bind_eq_ok_iff.mp h
  obtain ⟨proximal, -, h⟩ := bind_eq_ok_iff.mp h
  obtain ⟨distal, -, h⟩ := bind_eq_ok_iff.mp h
  split at h
  · cases h
  · obtain ⟨label, -, h⟩ := bind_eq_ok_iff.mp h
    rw [← pure_eq_ok_iff.mp h]
    exact Table.name_of_ofDecl ht

theorem Fact.name_of_ofDecl {settings : Settings} {d : FactDecl} {x : Fact}
    (h : Fact.ofDecl engine settings d = .ok x) : x.name = d.table.name := by
  obtain ⟨table, ht, h⟩ := bind_eq_ok_iff.mp h
  obtain ⟨-, -, h⟩ := bind_eq_ok_iff.mp h
  rw [← pure_eq_ok_iff.mp h]
  exact Table.name_of_ofDecl ht

/-! ### Catalogs -/

namespace Catalog

/-- The names of all tables, in order of declaration within each role. -/
def tableNames (c : Catalog) : List String :=
  c.dimensions.map (·.name) ++ c.lookups.map (·.name) ++ c.facts.map (·.name)

/-- No two tables share a name, whatever their roles. -/
def DistinctNames (c : Catalog) : Prop :=
  c.tableNames.Nodup

/-- All that a catalog is made of, if it loads. -/
theorem ofDecl_eq_ok {d : ModelDecl} {c : Catalog} (h : Catalog.ofDecl engine d = .ok c) :
    d.tableNames.Nodup ∧ d.dimensions.mapM (Dimension.ofDecl engine d.settings) = .ok c.dimensions ∧
      d.lookups.mapM (Lookup.ofDecl engine d.settings) = .ok c.lookups ∧
      d.facts.mapM (Fact.ofDecl engine d.settings) = .ok c.facts := by
  rw [Catalog.ofDecl] at h
  cases repeated : firstRepeated? [] d.tableNames with
  | some name =>
    rw [repeated] at h
    cases h
  | none =>
    rw [repeated] at h
    obtain ⟨dimensions, hd, h⟩ := bind_eq_ok_iff.mp h
    obtain ⟨lookups, hl, h⟩ := bind_eq_ok_iff.mp h
    obtain ⟨facts, hf, h⟩ := bind_eq_ok_iff.mp h
    rw [← pure_eq_ok_iff.mp h]
    exact ⟨(firstRepeated?_eq_none_iff.mp repeated).1, hd, hl, hf⟩

theorem tableNames_of_ofDecl {d : ModelDecl} {c : Catalog} (h : Catalog.ofDecl engine d = .ok c) :
    c.tableNames = d.tableNames := by
  obtain ⟨-, dimensions, lookups, facts⟩ := ofDecl_eq_ok h
  simp only [tableNames, ModelDecl.tableNames,
    map_eq_map_of_mapM_eq_ok (fun _ _ => Dimension.name_of_ofDecl) dimensions,
    map_eq_map_of_mapM_eq_ok (fun _ _ => Lookup.name_of_ofDecl) lookups,
    map_eq_map_of_mapM_eq_ok (fun _ _ => Fact.name_of_ofDecl) facts]

theorem distinctNames_of_ofDecl {d : ModelDecl} {c : Catalog}
    (h : Catalog.ofDecl engine d = .ok c) : c.DistinctNames := by
  rw [DistinctNames, tableNames_of_ofDecl h]
  exact (ofDecl_eq_ok h).1

end Catalog

/-! ### Search by name -/

/-- A search by name succeeds just if the name is there. -/
theorem isSome_find?_key_iff {α : Type} {key : α → String} {xs : List α} {name : String} :
    (xs.find? (key · == name)).isSome = true ↔ name ∈ xs.map key := by
  rw [List.find?_isSome, List.mem_map]
  simp only [beq_iff_eq]

namespace Catalog

/-- Where keys are distinct, a search by key finds an item exactly when the item is there. -/
theorem find?_key_eq_some_iff {α : Type} {key : α → String} {xs : List α}
    (h : (xs.map key).Nodup) {name : String} {x : α} :
    xs.find? (key · == name) = some x ↔ x ∈ xs ∧ key x = name := by
  constructor
  · intro hx
    exact ⟨List.mem_of_find?_eq_some hx, by simpa using List.find?_some hx⟩
  · rintro ⟨hx, rfl⟩
    cases hfound : xs.find? (key · == key x) with
    | none => simpa using List.find?_eq_none.mp hfound x hx
    | some y =>
      have hy := List.mem_of_find?_eq_some hfound
      have hkey : key y = key x := by simpa using List.find?_some hfound
      rw [List.inj_on_of_nodup_map h hy hx hkey]

/-- Where keys are distinct, each item of a list is found by the key of what is made of it. -/
theorem exists_find?_of_mapM {ε α β : Type} {f : α → Except ε β} {key : β → String} {xs : List α}
    {ys : List β} (h : xs.mapM f = .ok ys) (distinct : (ys.map key).Nodup) {x : α} (hx : x ∈ xs) :
    ∃ y, f x = .ok y ∧ ys.find? (key · == key y) = some y := by
  obtain ⟨y, hy, built⟩ := exists_mem_of_mapM h hx
  exact ⟨y, built, (find?_key_eq_some_iff distinct).mpr ⟨hy, rfl⟩⟩

variable {c : Catalog}

theorem dimension?_eq_some_iff (hc : c.DistinctNames) {name : String} {d : Dimension} :
    c.dimension? name = some d ↔ d ∈ c.dimensions ∧ d.name = name :=
  find?_key_eq_some_iff hc.of_append_left.of_append_left

theorem lookup?_eq_some_iff (hc : c.DistinctNames) {name : String} {l : Lookup} :
    c.lookup? name = some l ↔ l ∈ c.lookups ∧ l.name = name :=
  find?_key_eq_some_iff hc.of_append_left.of_append_right

theorem name_of_dimension? {name : String} {d : Dimension} (h : c.dimension? name = some d) :
    d.name = name := by
  simpa using List.find?_some h

theorem name_of_lookup? {name : String} {l : Lookup} (h : c.lookup? name = some l) :
    l.name = name := by
  simpa using List.find?_some h

/-- A dimension and a lookup table never share a name. -/
theorem name_dimension_ne_lookup (hc : c.DistinctNames) {d : Dimension} (hd : d ∈ c.dimensions)
    {l : Lookup} (hl : l ∈ c.lookups) : d.name ≠ l.name := by
  intro hname
  have hdisjoint := List.disjoint_of_nodup_append hc.of_append_left
  refine hdisjoint (List.mem_map_of_mem hd) ?_
  rw [hname]
  exact List.mem_map_of_mem hl

theorem lookup_eq_of_name_eq (hc : c.DistinctNames) {l l' : Lookup} (hl : l ∈ c.lookups)
    (hl' : l' ∈ c.lookups) (hname : l.name = l'.name) : l = l' :=
  List.inj_on_of_nodup_map hc.of_append_left.of_append_right hl hl' hname

theorem mem_labelled_iff {name : String} :
    name ∈ c.labelled ↔ (c.dimension? name).isSome ∨ (c.lookup? name).isSome := by
  simp [labelled, dimension?, lookup?, List.find?_isSome]

theorem mem_dependents_iff {name dimension : String} :
    name ∈ c.dependents dimension ↔
      ∃ l ∈ c.lookups, (l.proximal.dimension = dimension ∨ l.distal.dimension = dimension) ∧
        l.name = name := by
  simp [dependents, and_assoc]

end Catalog

/-! ### Models -/

namespace Model

variable {d : ModelDecl} {m : Model}

/-- All that a model is made of, if it loads. -/
theorem ofDecl_eq_ok (h : Model.ofDecl engine d = .ok m) :
    Catalog.ofDecl engine d = .ok m.catalog ∧
      m.stars = m.catalog.facts.map (fun f => (f.name, Star.ofFact m.catalog.dimensions f)) ∧
      (∃ plans, d.views.mapM (ViewPlan.ofDecl m.catalog.facts) = .ok plans ∧
        m.views = (plans.map fun p => (p.name, bindView m.stars p)).reverse) ∧
      m.labels = LabelCache.initial m.catalog := by
  obtain ⟨catalog, hc, h⟩ := bind_eq_ok_iff.mp h
  obtain ⟨plans, planned, h⟩ := bind_eq_ok_iff.mp h
  rw [← pure_eq_ok_iff.mp h]
  exact ⟨hc, rfl, ⟨plans, planned, rfl⟩, rfl⟩

theorem catalog_of_ofDecl (h : Model.ofDecl engine d = .ok m) :
    Catalog.ofDecl engine d = .ok m.catalog :=
  (ofDecl_eq_ok h).1

theorem distinctNames_of_ofDecl (h : Model.ofDecl engine d = .ok m) : m.catalog.DistinctNames :=
  Catalog.distinctNames_of_ofDecl (catalog_of_ofDecl h)

/-- A model starts without any label. -/
theorem labels_of_ofDecl (h : Model.ofDecl engine d = .ok m) :
    m.labels = LabelCache.initial m.catalog :=
  (ofDecl_eq_ok h).2.2.2

end Model

/-! ### A small model -/

/-- Books, authors, and which author wrote which book. -/
def ModelDecl.authorship : ModelDecl where
  dimensions :=
    [{ table :=
        { name := "books"
          fields :=
            [{ name := "id", dataType? := some .int, isKey := true },
              { name := "title", dataType? := some .str }] }
       label := { displayName := "Book", fields := ["title"] } },
      { table :=
        { name := "authors"
          fields :=
            [{ name := "id", dataType? := some .int, isKey := true },
              { name := "name", dataType? := some .str }] }
        label := { displayName := "Author", fields := ["name"] } }]
  lookups :=
    [{ table :=
        { name := "authorship"
          fields :=
            [{ name := "id", dataType? := some .int, isKey := true },
              { name := "book", dataType? := some .int
                dimension? := some "books", referenced? := some "id" },
              { name := "author", dataType? := some .int
                dimension? := some "authors", referenced? := some "id" }] }
       proximal := "book"
       distal := "author"
       label := { displayName := "Authorship", fields := ["id"] } }]

/-- The model of `ModelDecl.authorship`. -/
def Model.authorship : Model :=
  (Model.ofDecl .plain .authorship).toOption.get rfl

theorem Model.ofDecl_authorship : Model.ofDecl .plain .authorship = .ok .authorship := rfl

end StarSchema
