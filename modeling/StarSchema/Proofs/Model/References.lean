import StarSchema.Proofs.Model.Creation
import StarSchema.Proofs.Model.Joins
import StarSchema.Proofs.Model.Loading

/-!
# Joins and references

A dimension is joined by its own key, as it declares it. The statement that creates a fact lets the
foreign key refer to the column that the foreign key names. Nothing that is checked when a model
loads ties the two columns to each other, so the query of a star follows the reference only where
the foreign key happens to name the key of the dimension.

Main definition: `Sql.CreateTable.Follows`.

Main result: `Model.follows_iff_referenced`.
-/

namespace StarSchema

variable {engine : PatternEngine}

/-- The join compares a column of the created table with the column that it refers to. -/
def Sql.Join.Follows (join : Sql.Join) (created : Sql.CreateTable) : Prop :=
  ∃ column target, join.on = .binary .eq (.column created.name column) (.column join.table target) ∧
    created.References column join.table target

/-! ### What a star joins -/

/-- A dimension is joined by a foreign key of the fact that refers to it. -/
theorem Star.foreignKey_of_mem_joins {dimensions : List Dimension} {fact : Fact} {s : Star}
    (h : ofFact dimensions fact = .ok s) {j : StarJoin} (hj : j ∈ s.joins) :
    j.foreignKey ∈ fact.table.foreignKeys ∧ j.foreignKey.dimension = j.dimension.name := by
  have found := find?_joins_of_ofFact h j.dimension.name
  rw [(Catalog.find?_key_eq_some_iff (built_of_ofFact h).2.distinct).mpr ⟨hj, rfl⟩] at found
  have key := found.symm
  exact ⟨List.mem_of_find?_eq_some key, by simpa using List.find?_some key⟩

/-- In a table that is valid, the reference of a column is that of its declaration. -/
theorem TableDecl.IsValid.references_iff {d : TableDecl} (h : d.IsValid engine) {f : FieldDecl}
    (hf : f ∈ d.fields) {dimension target : String} (refers : f.dimension? = some dimension) :
    d.References f.name dimension target ↔ f.referenced? = some target := by
  constructor
  · rintro ⟨f', hf', named, -, target'⟩
    obtain rfl := List.inj_on_of_nodup_map h.distinct hf' hf named
    exact target'
  · intro named
    exact ⟨f, hf, rfl, refers, named⟩

/-- A foreign key refers to the dimension that is declared. -/
theorem Field.Records.dimension?_of_mem_foreignKeys {table : String} {x : FieldDecl} {t : Table}
    {k : ForeignKey} (h : k.field.Records engine table x) (hk : k ∈ t.foreignKeys) :
    x.dimension? = some k.dimension := by
  obtain ⟨f, -, refers⟩ := List.mem_filterMap.mp hk
  obtain ⟨r, reference, rfl⟩ := Option.map_eq_some_iff.mp refers
  exact (h.reference?_eq_some_iff.mp reference).1

namespace Model

variable {d : ModelDecl} {m : Model} {name : String} {s : Star}

/-- A join of a star compares a foreign key of the fact with the key of the dimension that it refers
to, both as they are declared. -/
theorem exists_decls_of_mem_joins (h : Model.ofDecl engine d = .ok m) (hs : m.star name = .ok s)
    {join : Sql.Join} (hjoin : join ∈ s.baseQuery.joins) :
    ∃ fact ∈ d.facts, ∃ key ∈ fact.table.fields, ∃ dimension ∈ d.dimensions,
      ∃ own ∈ dimension.table.fields,
        fact.table.name = name ∧ key.dimension? = some dimension.table.name ∧ own.isKey = true ∧
        join = ⟨dimension.table.name, .binary .eq (.column name key.name)
          (.column dimension.table.name own.name)⟩ := by
  obtain ⟨j, hj, rfl⟩ := List.mem_map.mp hjoin
  obtain ⟨rfl, hfact, built⟩ := (bound_of_ofDecl h).star hs
  obtain ⟨-, dimensions, -, facts⟩ := Catalog.ofDecl_eq_ok (catalog_of_ofDecl h)
  obtain ⟨fact, mem, declared⟩ := exists_of_mem_mapM facts hfact
  obtain ⟨dimension, mem', declared'⟩ := exists_of_mem_mapM dimensions (built.dimension j hj)
  have table := (Fact.records_of_ofDecl declared).table
  have table' := (Dimension.records_of_ofDecl declared').table
  have named : j.dimension.name = dimension.table.name := table'.name
  obtain ⟨foreignKey, refers⟩ := Star.foreignKey_of_mem_joins (ofFact_of_star h hs) hj
  obtain ⟨key, hkey, keyRecord⟩ := table.exists_decl (Star.field_mem_of_foreignKeys foreignKey)
  obtain ⟨own, hown, ownRecord⟩ := table'.exists_decl j.dimension.table.key_mem_fields
  refine ⟨fact, mem, key, hkey, dimension, mem', own, hown, table.name.symm, ?_,
    ownRecord.isKey.symm.trans j.dimension.table.isKey_key, ?_⟩
  · rw [← named, ← refers]
    exact keyRecord.dimension?_of_mem_foreignKeys foreignKey
  · rw [StarJoin.toJoin, keyRecord.name, ownRecord.name, named]

/-- **A join follows the reference just if the foreign key names the key of the dimension.** Each
join of a star that is built compares a foreign key of the fact with the key of the dimension that
it refers to, both as they are declared. A statement creates the fact with the references that are
declared. The foreign key refers there to the column that the join compares it with if and only if
its declaration names that column. -/
theorem follows_iff_referenced (h : Model.ofDecl engine d = .ok m) (hs : m.star name = .ok s)
    {join : Sql.Join} (hjoin : join ∈ s.baseQuery.joins) :
    ∃ fact ∈ d.facts, ∃ key ∈ fact.table.fields, ∃ dimension ∈ d.dimensions,
      ∃ own ∈ dimension.table.fields, ∃ created ∈ m.createStatements,
        fact.table.name = name ∧ key.dimension? = some dimension.table.name ∧ own.isKey = true ∧
        join = ⟨dimension.table.name, .binary .eq (.column name key.name)
          (.column dimension.table.name own.name)⟩ ∧
        fact.table.IsCreatedBy created ∧
        (join.Follows created ↔ key.referenced? = some own.name) := by
  obtain ⟨fact, mem, key, hkey, dimension, mem', own, hown, rfl, refers, isKey, rfl⟩ :=
    exists_decls_of_mem_joins h hs hjoin
  obtain ⟨created, hcreated, creates⟩ := exists_statement h (ModelDecl.mem_tables_of_mem_facts mem)
  refine ⟨fact, mem, key, hkey, dimension, mem', own, hown, created, hcreated, rfl, refers, isKey,
    rfl, creates, ?_⟩
  have valid := ((exists_ofDecl_iff.mp ⟨m, h⟩).facts fact mem).table
  rw [← valid.references_iff hkey refers, ← creates.references]
  constructor
  · rintro ⟨column, target, on, references⟩
    simp only [Sql.Expr.binary.injEq, Sql.Expr.column.injEq] at on
    obtain ⟨-, ⟨-, rfl⟩, -, rfl⟩ := on
    exact references
  · intro references
    exact ⟨_, _, by rw [creates.name], references⟩

end Model

/-! ### Products with codes -/

/-- Sales refer to the codes of products, which are not their keys. -/
def ModelDecl.codes : ModelDecl where
  dimensions :=
    [{ table :=
        { name := "products"
          fields :=
            [{ name := "id", dataType? := some .int, isKey := true },
              { name := "code", dataType? := some .int }] }
       label := { displayName := "Product", fields := ["code"] } }]
  facts :=
    [{ table :=
        { name := "sales"
          fields :=
            [{ name := "id", dataType? := some .int, isKey := true },
              { name := "product", dataType? := some .int
                dimension? := some "products", referenced? := some "code" }] } }]

namespace Model

theorem codes_outcome : (Model.ofDecl .plain .codes).toOption.any (fun m =>
    (m.star "sales").toOption.any fun s => !s.baseQuery.joins.isEmpty) = true := by
  decide +kernel

theorem follows_iff_referenced_codes : ∃ m s, Model.ofDecl .plain .codes = .ok m ∧
    m.star "sales" = .ok s ∧ ∃ join ∈ s.baseQuery.joins, ∃ created ∈ m.createStatements,
      join = ⟨"products", .binary .eq (.column "sales" "product") (.column "products" "id")⟩ ∧
      created.References "product" "products" "code" ∧ ¬ join.Follows created := by
  obtain ⟨m, built, outcome⟩ := exists_of_any_toOption codes_outcome
  obtain ⟨s, star, joined⟩ := exists_of_any_toOption outcome
  obtain ⟨join, hjoin⟩ := List.exists_mem_of_ne_nil s.baseQuery.joins (by simpa using joined)
  obtain ⟨fact, hfact, key, hkey, dimension, hdimension, own, hown, created, hcreated, -, refers,
    isKey, isJoin, creates, follows⟩ := follows_iff_referenced built star hjoin
  obtain rfl := List.mem_singleton.mp hfact
  obtain rfl := List.mem_singleton.mp hdimension
  obtain rfl | rfl := List.mem_pair.mp hkey
  · cases refers
  obtain rfl | rfl := List.mem_pair.mp hown
  · have code := (creates.references "product" "products" "code").mpr
      ⟨_, hkey, rfl, rfl, rfl⟩
    refine ⟨m, s, built, star, join, hjoin, created, hcreated, isJoin, code, fun same => ?_⟩
    exact absurd (follows.mp same) (by decide)
  · cases isKey

end Model

end StarSchema
