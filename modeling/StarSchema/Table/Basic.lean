import StarSchema.Field
import StarSchema.Sql.Statement

/-!
# Tables

Main definitions:

* `Table`, `Table.ofDecl`: fields of pairwise different names, of which exactly one is the key;
* `Table.createTable`: the statement that creates a table;
* `Table.filters`: the filters of all fields.
-/

namespace StarSchema

structure Table where
  name : String
  displayName : String
  editable : Bool
  showOnLoad : Bool
  orderBy : List OrderDecl
  displayRows : UInt64
  fields : List Field
  key : Field
  filter_isKey : fields.filter (·.isKey) = [key]

namespace Table

/-- The fields of declarations, none of which may have a name seen before. -/
def fieldsOfDecls (engine : PatternEngine) (table : String) (seen : List String) :
    List FieldDecl → Except ModelError (List Field)
  | [] => .ok []
  | d :: ds => do
    if d.name ∈ seen then throw (.duplicateField table d.name)
    let field ← (Field.ofDecl engine table d).mapError (.inField table d.name)
    return field :: (← fieldsOfDecls engine table (d.name :: seen) ds)

/-- The table of a declaration. The settings cap its rows where it does not. -/
def ofDecl (engine : PatternEngine) (settings : Settings) (d : TableDecl) :
    Except ModelError Table := do
  let fields ← fieldsOfDecls engine d.name [] d.fields
  match h : fields.filter (·.isKey) with
  | [key] =>
    return { fields, key, filter_isKey := h
             name := d.name
             displayName := d.displayName?.getD d.name
             editable := d.editable
             showOnLoad := d.showOnLoad
             orderBy := d.orderBy
             displayRows := d.displayRows?.getD settings.displayRows }
  | [] => throw (.missingPrimaryKey d.name)
  | keys => throw (.multiplePrimaryKeys d.name (keys.map (·.name)))

/-- The field of a storage name. -/
def field? (t : Table) (name : String) : Option Field :=
  t.fields.find? (·.name == name)

/-- The fields other than the key, in order of declaration. -/
def nonKeyFields (t : Table) : List Field :=
  t.fields.filter (!·.isKey)

def foreignKeys (t : Table) : List ForeignKey :=
  t.fields.filterMap Field.foreignKey?

/-- The filters of all fields, by name. -/
def filters (t : Table) : List Filter :=
  Filter.sort (t.fields.flatMap Field.filters)

theorem key_mem_fields (t : Table) : t.key ∈ t.fields := by
  have h : t.key ∈ t.fields.filter (·.isKey) := by simp [t.filter_isKey]
  exact (List.mem_filter.mp h).1

theorem isKey_key (t : Table) : t.key.isKey = true := by
  have h : t.key ∈ t.fields.filter (·.isKey) := by simp [t.filter_isKey]
  exact (List.mem_filter.mp h).2

end Table

/-- The constraints of a column: it is the key, it refers to a dimension, or both. -/
def Field.constraints (f : Field) : List Sql.ColumnConstraint :=
  (if f.isKey then [.primaryKey] else []) ++
    match f.reference? with
    | some r => [.references r.dimension r.key]
    | none => []

def Field.columnDef (f : Field) : Sql.ColumnDef where
  name := f.name
  dataType := f.dataType
  default? := f.default?.map .ofValue
  constraints := f.constraints

/-- The statement that creates a table unless it exists. -/
def Table.createTable (t : Table) : Sql.CreateTable where
  name := t.name
  ifNotExists := true
  columns := t.fields.map Field.columnDef

end StarSchema
