import StarSchema.Proofs.Catalog.Names
import StarSchema.Proofs.Declaration.Validity

/-!
# What is built holds what is declared

Each part of a declaration that loads is in the model with all that it says: a field with its type,
its default as a value of that type, its compiled validator, its operators and its reference; a
table with its fields in order, and with the settings where it says nothing of its own.

Main definitions: `Field.Records`, `Table.Records`, `Dimension.Records`, `Lookup.Records`,
`Fact.Records`, `ViewPlan.Records`.

Main results: `Table.records_of_ofDecl`, `Dimension.records_of_ofDecl`,
`Lookup.records_of_ofDecl`, `Fact.records_of_ofDecl`, `ViewPlan.records_of_ofDecl`.
-/

namespace StarSchema

variable {engine : PatternEngine}

/-! ### Fields -/

/-- The display name of a field, which is its storage name if no other is declared. -/
def FieldDecl.shownName (d : FieldDecl) : String :=
  d.displayName?.getD d.name

/-- The names of the field and the dimension of a foreign key. -/
def ForeignKey.names (k : ForeignKey) : String × String :=
  (k.field.name, k.dimension)

/-- The field is the one that is declared for the table. -/
structure Field.Records (engine : PatternEngine) (table : String) (d : FieldDecl) (f : Field) :
    Prop where
  table : f.table = table
  name : f.name = d.name
  dataType : d.type? = some f.dataType
  displayName : f.displayName = d.shownName
  format : f.format = d.format?.getD f.dataType.defaultFormat
  editable : f.editable = d.editable
  isKey : f.isKey = d.isKey
  visible : f.visible = d.visible
  default? : f.default? = d.default?.bind fun x => (convert f.dataType x).toOption.join
  validator? : f.validator? = d.validator?.bind fun v => (Validator.ofDecl engine v).toOption
  operators : f.operators =
    d.operators?.getD (if d.dimension?.isSome then [] else Operator.defaults f.dataType)
  reference? : f.reference?.map (fun r => (r.dimension, some r.key)) =
    d.dimension?.map (·, d.referenced?)

namespace FieldDecl

variable {d : FieldDecl} {t : DataType}

theorem resolveType_eq_ok_iff : d.resolveType = .ok t ↔ d.type? = some t := by
  rw [resolveType, type?]
  cases d.dataType? with
  | some t' => simp
  | none => cases d.format? <;> simp

theorem eq_of_resolveDefault {default? : Option Value} (h : d.resolveDefault t = .ok default?) :
    default? = d.default?.bind fun x => (convert t x).toOption.join := by
  rw [resolveDefault] at h
  cases declared : d.default? with
  | none =>
    rw [declared] at h
    cases h
    rfl
  | some x =>
    rw [declared] at h
    have converted : convert t x = .ok default? := mapError_eq_ok_iff.mp h
    rw [Option.bind_some, converted]
    rfl

theorem eq_of_resolveValidator {validator? : Option Validator}
    (h : d.resolveValidator engine = .ok validator?) :
    validator? = d.validator?.bind fun v => (Validator.ofDecl engine v).toOption := by
  rw [resolveValidator] at h
  cases declared : d.validator? with
  | none =>
    rw [declared] at h
    cases h
    rfl
  | some v =>
    rw [declared] at h
    obtain ⟨x, built, rfl⟩ := map_eq_ok_iff.mp (mapError_eq_ok_iff.mp h)
    rw [Option.bind_some, built]
    rfl

theorem eq_of_resolveOperators {operators : List Operator}
    (h : d.resolveOperators t = .ok operators) :
    operators = d.operators?.getD (if d.dimension?.isSome then [] else Operator.defaults t) := by
  rw [resolveOperators] at h
  split at h
  · cases h
  · cases h
    rfl

theorem eq_of_resolveReference {reference? : Option Reference}
    (h : d.resolveReference t = .ok reference?) :
    reference?.map (fun r => (r.dimension, some r.key)) = d.dimension?.map (·, d.referenced?) := by
  rw [resolveReference] at h
  split at h
  · next undeclared =>
    cases h
    rw [undeclared]
    rfl
  · next dimension declared =>
    split at h
    · cases h
    · split at h
      · next key named =>
        cases h
        rw [declared, named]
        rfl
      · cases h

end FieldDecl

theorem Field.records_of_ofDecl {table : String} {d : FieldDecl} {f : Field}
    (h : Field.ofDecl engine table d = .ok f) : f.Records engine table d := by
  obtain ⟨dataType, typed, h⟩ := bind_eq_ok_iff.mp h
  obtain ⟨default?, default, h⟩ := bind_eq_ok_iff.mp h
  obtain ⟨validator?, validator, h⟩ := bind_eq_ok_iff.mp h
  obtain ⟨operators, operated, h⟩ := bind_eq_ok_iff.mp h
  obtain ⟨reference?, reference, h⟩ := bind_eq_ok_iff.mp h
  rw [← pure_eq_ok_iff.mp h]
  exact
    { table := rfl
      name := rfl
      dataType := FieldDecl.resolveType_eq_ok_iff.mp typed
      displayName := rfl
      format := rfl
      editable := rfl
      isKey := rfl
      visible := rfl
      default? := FieldDecl.eq_of_resolveDefault default
      validator? := FieldDecl.eq_of_resolveValidator validator
      operators := FieldDecl.eq_of_resolveOperators operated
      reference? := FieldDecl.eq_of_resolveReference reference }

/-- A foreign key has the names that are declared. -/
theorem Field.Records.foreignKey? {table : String} {d : FieldDecl} {f : Field}
    (h : f.Records engine table d) :
    f.foreignKey?.map ForeignKey.names = d.dimension?.map (d.name, ·) := by
  have referred :=
    congrArg (Option.map fun r : String × Option String => (f.name, r.1)) h.reference?
  rw [Option.map_map, Option.map_map] at referred
  rw [Field.foreignKey?, Option.map_map, ← h.name]
  exact referred

/-! ### Tables -/

theorem Table.mapM_of_fieldsOfDecls {table : String} {seen : List String}
    {ds : List FieldDecl} {fields : List Field}
    (h : fieldsOfDecls engine table seen ds = .ok fields) :
    ds.mapM (Field.ofDecl engine table) = .ok fields := by
  induction ds generalizing seen fields with
  | nil =>
    cases h
    rfl
  | cons d ds ih =>
    rw [fieldsOfDecls] at h
    split at h
    · cases h
    · obtain ⟨f, hf, h⟩ := bind_eq_ok_iff.mp h
      obtain ⟨rest, hrest, h⟩ := bind_eq_ok_iff.mp h
      rw [← pure_eq_ok_iff.mp h, List.mapM_cons, mapError_eq_ok_iff.mp hf, ih hrest]
      rfl

/-- The table is the one that is declared. -/
structure Table.Records (engine : PatternEngine) (settings : Settings) (d : TableDecl)
    (t : Table) : Prop where
  name : t.name = d.name
  displayName : t.displayName = d.displayName?.getD d.name
  editable : t.editable = d.editable
  showOnLoad : t.showOnLoad = d.showOnLoad
  orderBy : t.orderBy = d.orderBy
  displayRows : t.displayRows = d.displayRows?.getD settings.displayRows
  fields : d.fields.Forall₂ (fun x f => f.Records engine d.name x) t.fields

/-- The keys among the fields are those among their declarations. -/
theorem Table.names_keys_of_records {table : String} {ds : List FieldDecl} {fs : List Field}
    (h : ds.Forall₂ (fun d f => f.Records engine table d) fs) :
    (fs.filter (·.isKey)).map (·.name) = (ds.filter (·.isKey)).map (·.name) := by
  induction h with
  | nil => rfl
  | cons record _ ih =>
    rw [List.filter_cons, List.filter_cons, record.isKey]
    split
    · rw [List.map_cons, List.map_cons, record.name, ih]
    · exact ih

/-- The fields of a table are built from those that are declared, one by one. -/
theorem Table.fields_of_ofDecl {settings : Settings} {d : TableDecl} {t : Table}
    (h : Table.ofDecl engine settings d = .ok t) :
    d.fields.Forall₂ (fun x f => Field.ofDecl engine d.name x = .ok f) t.fields := by
  obtain ⟨fields, checked, h⟩ := bind_eq_ok_iff.mp h
  have built := mapM_eq_ok_iff.mp (mapM_of_fieldsOfDecls checked)
  split at h
  · rwa [← pure_eq_ok_iff.mp h]
  · cases h
  · cases h

theorem Table.records_of_ofDecl {settings : Settings} {d : TableDecl} {t : Table}
    (h : Table.ofDecl engine settings d = .ok t) : t.Records engine settings d := by
  have fields := (fields_of_ofDecl h).imp fun _ _ => Field.records_of_ofDecl
  obtain ⟨_, -, h⟩ := bind_eq_ok_iff.mp h
  split at h
  · rw [← pure_eq_ok_iff.mp h] at fields ⊢
    exact
      { name := rfl
        displayName := rfl
        editable := rfl
        showOnLoad := rfl
        orderBy := rfl
        displayRows := rfl
        fields }
  · cases h
  · cases h

namespace Table.Records

variable {settings : Settings} {d : TableDecl} {t : Table}

/-- What the fields of a table have in common with their declarations. -/
theorem map_fields {α : Type} {p : FieldDecl → α} {q : Field → α} (h : t.Records engine settings d)
    (same : ∀ x f, f.Records engine d.name x → q f = p x) : t.fields.map q = d.fields.map p :=
  map_eq_map_of_forall₂ same h.fields

theorem names_fields (h : t.Records engine settings d) :
    t.fields.map (·.name) = d.fields.map (·.name) :=
  h.map_fields fun _ _ => Field.Records.name

theorem names_foreignKeys (h : t.Records engine settings d) :
    t.foreignKeys.map ForeignKey.names = d.foreignKeys := by
  have keys := congrArg (List.filterMap id) (h.map_fields fun _ _ => Field.Records.foreignKey?)
  rw [List.filterMap_map, List.filterMap_map] at keys
  rw [foreignKeys, List.map_filterMap]
  exact keys

/-- A field of the table is declared. -/
theorem exists_decl (h : t.Records engine settings d) {f : Field} (hf : f ∈ t.fields) :
    ∃ x ∈ d.fields, f.Records engine d.name x :=
  exists_left_of_forall₂ h.fields hf

end Table.Records

/-! ### Tables by their roles -/

theorem Table.eq_of_resolveLabel {t : Table} {d : LabelDecl} {label : Label}
    (h : t.resolveLabel d = .ok label) : label = .ofDecl t.name d := by
  rw [resolveLabel] at h
  split at h
  · cases h
  · cases h
    rfl

structure Dimension.Records (engine : PatternEngine) (settings : Settings) (d : DimensionDecl)
    (x : Dimension) : Prop where
  table : x.table.Records engine settings d.table
  label : x.label = .ofDecl d.table.name d.label

theorem Dimension.records_of_ofDecl {settings : Settings} {d : DimensionDecl} {x : Dimension}
    (h : Dimension.ofDecl engine settings d = .ok x) : x.Records engine settings d := by
  obtain ⟨table, built, h⟩ := bind_eq_ok_iff.mp h
  obtain ⟨label, resolved, h⟩ := bind_eq_ok_iff.mp h
  rw [← pure_eq_ok_iff.mp h]
  have records := Table.records_of_ofDecl built
  exact ⟨records, (Table.eq_of_resolveLabel resolved).trans (by rw [records.name])⟩

/-- The lookup table is the one that is declared, and its keys are the foreign keys of the declared
names. -/
structure Lookup.Records (engine : PatternEngine) (settings : Settings) (d : LookupDecl)
    (x : Lookup) : Prop where
  table : x.table.Records engine settings d.table
  proximal : x.proximal ∈ x.table.foreignKeys ∧ x.proximal.field.name = d.proximal
  distal : x.distal ∈ x.table.foreignKeys ∧ x.distal.field.name = d.distal
  label : x.label = .ofDecl d.table.name d.label

theorem Lookup.key_of_resolveKey {t : Table} {name : String} {k : ForeignKey}
    (h : resolveKey t name = .ok k) : k ∈ t.foreignKeys ∧ k.field.name = name := by
  rw [resolveKey] at h
  split at h
  · cases h
  · next field found =>
    split at h
    · next key refers =>
      cases h
      have mem := List.mem_of_find?_eq_some found
      refine ⟨List.mem_filterMap.mpr ⟨field, mem, refers⟩, ?_⟩
      obtain ⟨r, -, rfl⟩ := Option.map_eq_some_iff.mp refers
      simpa using List.find?_some found
    · cases h

theorem Lookup.records_of_ofDecl {settings : Settings} {d : LookupDecl} {x : Lookup}
    (h : Lookup.ofDecl engine settings d = .ok x) : x.Records engine settings d := by
  obtain ⟨table, built, h⟩ := bind_eq_ok_iff.mp h
  obtain ⟨proximal, near, h⟩ := bind_eq_ok_iff.mp h
  obtain ⟨distal, far, h⟩ := bind_eq_ok_iff.mp h
  split at h
  · cases h
  · obtain ⟨label, resolved, h⟩ := bind_eq_ok_iff.mp h
    rw [← pure_eq_ok_iff.mp h]
    have records := Table.records_of_ofDecl built
    exact
      { table := records
        proximal := key_of_resolveKey near
        distal := key_of_resolveKey far
        label := (Table.eq_of_resolveLabel resolved).trans (by rw [records.name]) }

structure Fact.Records (engine : PatternEngine) (settings : Settings) (d : FactDecl) (x : Fact) :
    Prop where
  table : x.table.Records engine settings d.table
  calculated : x.calculated = d.calculated

theorem Fact.records_of_ofDecl {settings : Settings} {d : FactDecl} {x : Fact}
    (h : Fact.ofDecl engine settings d = .ok x) : x.Records engine settings d := by
  obtain ⟨table, built, h⟩ := bind_eq_ok_iff.mp h
  obtain ⟨_, -, h⟩ := bind_eq_ok_iff.mp h
  rw [← pure_eq_ok_iff.mp h]
  exact ⟨Table.records_of_ofDecl built, rfl⟩

/-! ### Views -/

/-- The plan is that of the declared view. -/
structure ViewPlan.Records (d : ViewDecl) (p : ViewPlan) : Prop where
  name : p.name = d.name
  displayName : p.displayName = d.displayName?.getD d.name
  fact : p.fact = d.fact
  groupBy : p.groupBy = d.groupBy
  aggregates : d.aggregates.Forall₂ (fun a x => x.displayName = a.displayName ∧ x.base = a.base ∧
    x.aggregate.IsSpelled a.function) p.aggregates
  orderBy : p.orderBy = d.orderBy

theorem ViewPlan.records_of_aggregateOfDecl {view : String} {d : AggregateDecl} {p : AggregatePlan}
    (h : aggregateOfDecl view d = .ok p) : p.displayName = d.displayName ∧ p.base = d.base ∧
      p.aggregate.IsSpelled d.function := by
  rw [aggregateOfDecl] at h
  split at h
  · next aggregate known =>
    cases h
    exact ⟨rfl, rfl, Aggregate.ofName?_eq_some_iff.mp known⟩
  · cases h

theorem ViewPlan.records_of_ofDecl {facts : List Fact} {d : ViewDecl} {p : ViewPlan}
    (h : ViewPlan.ofDecl facts d = .ok p) : p.Records d := by
  obtain ⟨aggregates, planned, h⟩ := bind_eq_ok_iff.mp h
  split at h
  · cases h
  · rw [← pure_eq_ok_iff.mp h]
    exact
      { name := rfl
        displayName := rfl
        fact := rfl
        groupBy := rfl
        aggregates := (mapM_eq_ok_iff.mp planned).imp fun _ _ => records_of_aggregateOfDecl
        orderBy := rfl }

end StarSchema
