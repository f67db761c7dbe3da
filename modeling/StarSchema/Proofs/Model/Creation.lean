import StarSchema.Proofs.Model.Declared
import StarSchema.Proofs.StableSort

/-!
# The order in which tables are created

The statements of a model create each declared table once, with the references that it declares.
They come by role: dimensions, then lookup tables, then facts, and within a role by name. Since a
foreign key refers to a dimension, lookup tables and facts come after all that they refer to. For a
dimension that refers to another one it is the names that decide.

Main definitions: `Sql.CreateTable.References`, `Sql.CreateTable.InDependencyOrder`,
`TableDecl.IsCreatedBy`.

Main results: `Table.Records.isCreatedBy`, `Model.createStatements_order`.
-/

namespace StarSchema

variable {engine : PatternEngine}

/-! ### References -/

namespace Sql.CreateTable

/-- The statement has a column that refers to a column of a table. -/
def References (s : CreateTable) (column table target : String) : Prop :=
  ∃ c ∈ s.columns, c.name = column ∧ .references table target ∈ c.constraints

/-- A table that a statement refers to, itself apart, has been created before. -/
def InDependencyOrder (statements : List CreateTable) : Prop :=
  ∀ before s after, statements = before ++ s :: after →
    ∀ column table target, s.References column table target → table ≠ s.name →
      ∃ s' ∈ before, s'.name = table

end Sql.CreateTable

/-- The column of the declaration refers to the key of a dimension. -/
def TableDecl.References (d : TableDecl) (column dimension key : String) : Prop :=
  ∃ f ∈ d.fields, f.name = column ∧ f.dimension? = some dimension ∧ f.referenced? = some key

theorem Field.references_mem_constraints_iff {f : Field} {dimension key : String} :
    .references dimension key ∈ f.constraints ↔ f.reference? = some ⟨dimension, key⟩ := by
  rw [constraints, List.mem_append]
  cases f.reference? with
  | none => cases f.isKey <;> simp
  | some r =>
    obtain ⟨dimension', key'⟩ := r
    cases f.isKey <;> simp [eq_comm]

theorem Field.Records.reference?_eq_some_iff {table : String} {d : FieldDecl} {f : Field}
    (h : f.Records engine table d) {r : Reference} :
    f.reference? = some r ↔ d.dimension? = some r.dimension ∧ d.referenced? = some r.key := by
  have reference := h.reference?
  obtain ⟨dimension, key⟩ := r
  cases built : f.reference? with
  | none =>
    rw [built, Option.map_none, eq_comm, Option.map_eq_none_iff] at reference
    simp [reference]
  | some r' =>
    rw [built, Option.map_some, eq_comm, Option.map_eq_some_iff] at reference
    obtain ⟨dimension', declared, same⟩ := reference
    obtain ⟨rfl, named⟩ := Prod.mk.inj same
    obtain ⟨_, key'⟩ := r'
    simp [declared, named]

/-- The statement creates the declared table: with its columns and references, and no others. -/
structure TableDecl.IsCreatedBy (d : TableDecl) (s : Sql.CreateTable) : Prop where
  name : s.name = d.name
  columns : s.columns.map (·.name) = d.fields.map (·.name)
  references : ∀ column dimension key,
    s.References column dimension key ↔ d.References column dimension key

theorem Table.Records.isCreatedBy {settings : Settings} {d : TableDecl} {t : Table}
    (h : t.Records engine settings d) : d.IsCreatedBy t.createTable where
  name := h.name
  columns := (List.map_map ..).trans h.names_fields
  references column dimension key := by
    have fields : t.createTable.References column dimension key ↔
        ∃ f ∈ t.fields, f.name = column ∧ f.reference? = some ⟨dimension, key⟩ := by
      simp only [Sql.CreateTable.References, createTable, List.mem_map, exists_exists_and_eq_and,
        Field.columnDef, Field.references_mem_constraints_iff]
    rw [fields]
    constructor
    · rintro ⟨f, hf, rfl, refers⟩
      obtain ⟨x, hx, record⟩ := h.exists_decl hf
      exact ⟨x, hx, record.name.symm, record.reference?_eq_some_iff.mp refers⟩
    · rintro ⟨x, hx, rfl, refers⟩
      obtain ⟨f, hf, record⟩ := exists_right_of_forall₂ h.fields hx
      exact ⟨f, hf, record.name, record.reference?_eq_some_iff.mpr refers⟩

/-! ### Tables by their names -/

namespace ModelDecl

variable {d : ModelDecl}

theorem mem_tables_of_mem_dimensions {x : DimensionDecl} (hx : x ∈ d.dimensions) :
    x.table ∈ d.tables :=
  List.mem_append_left _ (List.mem_append_left _ (List.mem_map_of_mem hx))

theorem mem_tables_of_mem_facts {x : FactDecl} (hx : x ∈ d.facts) : x.table ∈ d.tables :=
  List.mem_append_right _ (List.mem_map_of_mem hx)

theorem map_name_tables (d : ModelDecl) : d.tables.map (·.name) = d.tableNames := by
  simp only [tables, tableNames, List.map_append, List.map_map]
  rfl

end ModelDecl

namespace Catalog

variable {d : ModelDecl} {c : Catalog}

theorem isStableSort_byName (tables : List Table) :
    IsStableSort (·.name) tables (byName tables) :=
  isStableSort_mergeSort _ _

theorem perm_tables (c : Catalog) : c.tables.Perm
    (c.dimensions.map (·.table) ++ (c.lookups.map (·.table) ++ c.facts.map (·.table))) := by
  rw [tables, List.append_assoc]
  exact (isStableSort_byName _).perm.append
    ((isStableSort_byName _).perm.append (isStableSort_byName _).perm)

/-- The tables are those that are declared. -/
theorem records_tables (h : Catalog.ofDecl engine d = .ok c) :
    d.tables.Forall₂ (fun x t => t.Records engine d.settings x)
      (c.dimensions.map (·.table) ++ (c.lookups.map (·.table) ++ c.facts.map (·.table))) := by
  obtain ⟨-, dimensions, lookups, facts⟩ := ofDecl_eq_ok h
  rw [ModelDecl.tables, List.append_assoc]
  refine List.rel_append ?_ (List.rel_append ?_ ?_)
  · rw [List.forall₂_map_left_iff, List.forall₂_map_right_iff]
    exact (mapM_eq_ok_iff.mp dimensions).imp fun _ _ built =>
      (Dimension.records_of_ofDecl built).table
  · rw [List.forall₂_map_left_iff, List.forall₂_map_right_iff]
    exact (mapM_eq_ok_iff.mp lookups).imp fun _ _ built => (Lookup.records_of_ofDecl built).table
  · rw [List.forall₂_map_left_iff, List.forall₂_map_right_iff]
    exact (mapM_eq_ok_iff.mp facts).imp fun _ _ built => (Fact.records_of_ofDecl built).table

/-- Before a dimension there are only dimensions, of lesser names. -/
theorem pairwise_tables (hc : c.DistinctNames) :
    c.tables.Pairwise fun t u => u.name ∈ c.dimensions.map (·.name) →
      t.name ∈ c.dimensions.map (·.name) ∧ t.name < u.name := by
  rw [DistinctNames, tableNames, List.append_assoc] at hc
  have names : ((byName (c.dimensions.map (·.table))).map (·.name)).Perm
      (c.dimensions.map (·.name)) := by
    have perm := (isStableSort_byName (c.dimensions.map (·.table))).perm.map (·.name)
    rwa [List.map_map] at perm
  have other : ∀ u ∈ byName (c.lookups.map (·.table)) ++ byName (c.facts.map (·.table)),
      u.name ∉ c.dimensions.map (·.name) := by
    intro u hu dimension
    refine List.disjoint_of_nodup_append hc dimension ?_
    have perm := (isStableSort_byName (c.lookups.map (·.table))).perm.append
      (isStableSort_byName (c.facts.map (·.table))).perm
    have mem := (perm.map (·.name)).mem_iff.mp (List.mem_map_of_mem hu)
    rwa [List.map_append, List.map_map, List.map_map] at mem
  rw [tables, List.append_assoc, List.pairwise_append]
  refine ⟨?_, ?_, fun t _ u hu dimension => absurd dimension (other u hu)⟩
  · have distinct := List.pairwise_map.mp (names.nodup_iff.mpr hc.of_append_left)
    refine List.Pairwise.imp_of_mem ?_ ((isStableSort_byName _).ordered.and distinct)
    rintro t u ht - ⟨le, ne⟩ -
    exact ⟨names.mem_iff.mp (List.mem_map_of_mem ht), Std.lt_of_le_of_ne le ne⟩
  · exact List.pairwise_of_forall_mem_list fun t _ u hu dimension =>
      absurd dimension (other u hu)

end Catalog

/-! ### Statements -/

namespace Model

variable {d : ModelDecl} {m : Model}

theorem exists_statement (h : Model.ofDecl engine d = .ok m) {t : TableDecl} (ht : t ∈ d.tables) :
    ∃ s ∈ m.createStatements, t.IsCreatedBy s := by
  obtain ⟨table, mem, records⟩ :=
    exists_right_of_forall₂ (Catalog.records_tables (catalog_of_ofDecl h)) ht
  exact ⟨_, List.mem_map_of_mem (m.catalog.perm_tables.mem_iff.mpr mem), records.isCreatedBy⟩

theorem exists_decl_of_statement (h : Model.ofDecl engine d = .ok m) {s : Sql.CreateTable}
    (hs : s ∈ m.createStatements) : ∃ t ∈ d.tables, t.IsCreatedBy s := by
  obtain ⟨table, mem, rfl⟩ := List.mem_map.mp hs
  obtain ⟨t, ht, records⟩ := exists_left_of_forall₂ (Catalog.records_tables (catalog_of_ofDecl h))
    (m.catalog.perm_tables.mem_iff.mp mem)
  exact ⟨t, ht, records.isCreatedBy⟩

theorem perm_names_createStatements (h : Model.ofDecl engine d = .ok m) :
    (m.createStatements.map (·.name)).Perm d.tableNames := by
  rw [← ModelDecl.map_name_tables, createStatements, List.map_map]
  refine (m.catalog.perm_tables.map _).trans (.of_eq ?_)
  exact map_eq_map_of_forall₂ (fun _ _ records => records.name)
    (Catalog.records_tables (catalog_of_ofDecl h))

theorem pairwise_createStatements (h : Model.ofDecl engine d = .ok m) :
    m.createStatements.Pairwise fun s s' => s'.name ∈ d.dimensions.map (·.table.name) →
      s.name ∈ d.dimensions.map (·.table.name) ∧ s.name < s'.name := by
  have hc := catalog_of_ofDecl h
  rw [createStatements, List.pairwise_map, ← Catalog.names_dimensions hc]
  exact Catalog.pairwise_tables (Catalog.distinctNames_of_ofDecl hc)

/-- A foreign key of a table that is built refers to a key. -/
theorem exists_references (h : Model.ofDecl engine d = .ok m) {t : TableDecl} (ht : t ∈ d.tables)
    {key : String × String} (hkey : key ∈ t.foreignKeys) :
    ∃ target, t.References key.1 key.2 target := by
  obtain ⟨table, -, records⟩ :=
    exists_right_of_forall₂ (Catalog.records_tables (catalog_of_ofDecl h)) ht
  obtain ⟨x, hx, named, refers⟩ := TableDecl.mem_foreignKeys_iff.mp hkey
  obtain ⟨f, -, record⟩ := exists_right_of_forall₂ records.fields hx
  have reference := record.reference?
  rw [refers, Option.map_some, Option.map_eq_some_iff] at reference
  obtain ⟨r, -, same⟩ := reference
  exact ⟨r.key, x, hx, named, refers, (Prod.mk.inj same).2.symm⟩

/-- In dependency order, dimensions refer to dimensions of lesser names. -/
theorem lt_of_inDependencyOrder (h : Model.ofDecl engine d = .ok m)
    (inOrder : Sql.CreateTable.InDependencyOrder m.createStatements) {x : DimensionDecl}
    (hx : x ∈ d.dimensions) {key : String × String} (hkey : key ∈ x.table.foreignKeys)
    (other : key.2 ≠ x.table.name) : key.2 < x.table.name := by
  obtain ⟨s, hs, created⟩ := exists_statement h (ModelDecl.mem_tables_of_mem_dimensions hx)
  obtain ⟨before, after, split⟩ := List.append_of_mem hs
  obtain ⟨target, refers⟩ := exists_references h (ModelDecl.mem_tables_of_mem_dimensions hx) hkey
  obtain ⟨s', hs', named⟩ := inOrder before s after split _ _ _
    ((created.references ..).mpr refers) (created.name ▸ other)
  have order := pairwise_createStatements h
  rw [split, List.pairwise_append] at order
  have among : s.name ∈ d.dimensions.map (·.table.name) := by
    rw [created.name]
    exact List.mem_map_of_mem hx
  have lesser := (order.2.2 s' hs' s List.mem_cons_self among).2
  rwa [named, created.name] at lesser

/-- What a statement refers to does not come later if dimensions refer to lesser names. -/
theorem inDependencyOrder_of_forall_lt (h : Model.ofDecl engine d = .ok m)
    (known : ∀ t ∈ d.tables, ∀ key ∈ t.foreignKeys, key.2 ∈ d.dimensions.map (·.table.name))
    (ascending : ∀ x ∈ d.dimensions, ∀ key ∈ x.table.foreignKeys,
      key.2 ≠ x.table.name → key.2 < x.table.name) :
    Sql.CreateTable.InDependencyOrder m.createStatements := by
  intro before s after split column table target refers other
  obtain ⟨t, ht, created⟩ := exists_decl_of_statement h
    (split ▸ List.mem_append_right before List.mem_cons_self)
  obtain ⟨f, hf, named, dimension, -⟩ := (created.references ..).mp refers
  have key := TableDecl.mem_foreignKeys_iff.mpr ⟨f, hf, named, dimension⟩
  have declared := known t ht _ key
  have created' : table ∈ m.createStatements.map (·.name) :=
    (perm_names_createStatements h).mem_iff.mpr
      (List.mem_append_left _ (List.mem_append_left _ declared))
  obtain ⟨s', hs', rfl⟩ := List.mem_map.mp created'
  have order := pairwise_createStatements h
  rw [split, List.mem_append, List.mem_cons] at hs'
  rw [split, List.pairwise_append, List.pairwise_cons] at order
  rcases hs' with earlier | rfl | later
  · exact ⟨s', earlier, rfl⟩
  · exact absurd rfl other
  · -- if it came later, both would be dimensions, this one with the lesser name
    obtain ⟨among, lesser⟩ := order.2.1.1 s' later declared
    rw [created.name] at among lesser other
    obtain ⟨x, hx, same⟩ := List.mem_map.mp among
    have distinct := (Catalog.ofDecl_eq_ok (catalog_of_ofDecl h)).1
    rw [← ModelDecl.map_name_tables] at distinct
    have hx' := ModelDecl.mem_tables_of_mem_dimensions hx
    obtain rfl := List.inj_on_of_nodup_map distinct hx' ht same
    exact absurd (ascending x hx _ key other) (String.lt_asymm lesser)

/-- **Every table is created once, and the names of dimensions decide over the order.** If a model
loads and its foreign keys name dimensions that are declared, its statements create each declared
table once, with the columns and references that are declared. What a statement refers to comes
before it, unless a dimension refers to another one of a greater name. -/
theorem createStatements_order (h : Model.ofDecl engine d = .ok m)
    (known : ∀ t ∈ d.tables, ∀ key ∈ t.foreignKeys, key.2 ∈ d.dimensions.map (·.table.name)) :
    (m.createStatements.map (·.name)).Perm d.tableNames ∧ d.tableNames.Nodup ∧
      (∀ t ∈ d.tables, ∃ s ∈ m.createStatements, t.IsCreatedBy s) ∧
      (Sql.CreateTable.InDependencyOrder m.createStatements ↔
        ∀ x ∈ d.dimensions, ∀ key ∈ x.table.foreignKeys,
          key.2 ≠ x.table.name → key.2 < x.table.name) :=
  ⟨perm_names_createStatements h, (Catalog.ofDecl_eq_ok (catalog_of_ofDecl h)).1,
    fun _ => exists_statement h,
    fun inOrder _ hx _ hkey => lt_of_inDependencyOrder h inOrder hx hkey,
    inDependencyOrder_of_forall_lt h known⟩

end Model

/-! ### Cities in states -/

/-- One table refers to the other. -/
def ModelDecl.Refers (d : ModelDecl) (table dimension : String) : Prop :=
  ∃ t ∈ d.tables, t.name = table ∧ dimension ∈ t.foreignKeys.map Prod.snd

/-- No table refers to itself, whether directly or through others. -/
def ModelDecl.Acyclic (d : ModelDecl) : Prop :=
  ∀ table, ¬ Relation.TransGen d.Refers table table

/-- Cities refer to states, which have the greater name. -/
def ModelDecl.cities : ModelDecl where
  dimensions :=
    [{ table :=
        { name := "states"
          fields := [{ name := "id", dataType? := some .int, isKey := true }] }
       label := { displayName := "State", fields := ["id"] } },
      { table :=
        { name := "cities"
          fields :=
            [{ name := "id", dataType? := some .int, isKey := true },
              { name := "state", dataType? := some .int
                dimension? := some "states", referenced? := some "id" }] }
        label := { displayName := "City", fields := ["id"] } }]

theorem ModelDecl.acyclic_cities : ModelDecl.cities.Acyclic := by
  have refers {table dimension : String} (h : ModelDecl.cities.Refers table dimension) :
      table = "cities" ∧ dimension = "states" := by
    obtain ⟨t, ht, rfl, key⟩ := h
    rcases List.mem_pair.mp ht with rfl | rfl
    · cases key
    · exact ⟨rfl, List.mem_singleton.mp key⟩
  have only {table dimension : String}
      (h : Relation.TransGen ModelDecl.cities.Refers table dimension) :
      table = "cities" ∧ dimension = "states" := by
    induction h with
    | single h => exact refers h
    | tail _ h ih => exact ⟨ih.1, (refers h).2⟩
  intro table cycle
  obtain ⟨rfl, other⟩ := only cycle
  exact absurd other (by decide)

namespace Model

theorem createStatements_order_cities : ∃ m, Model.ofDecl .plain .cities = .ok m ∧
    ModelDecl.cities.Acyclic ∧ (m.createStatements.map (·.name)).Perm ["states", "cities"] ∧
    ¬ Sql.CreateTable.InDependencyOrder m.createStatements := by
  obtain ⟨m, built⟩ : ∃ m, Model.ofDecl .plain .cities = .ok m := ⟨_, rfl⟩
  obtain ⟨names, -, -, order⟩ := createStatements_order built (by decide)
  refine ⟨m, built, ModelDecl.acyclic_cities, names, fun inOrder => ?_⟩
  have cities := order.mp inOrder _ (List.mem_cons_of_mem _ List.mem_cons_self) ("state", "states")
    List.mem_cons_self (by decide)
  revert cities
  decide

end Model

end StarSchema
