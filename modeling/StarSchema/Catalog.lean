import StarSchema.Label
import StarSchema.Table.Basic

/-!
# The tables of a model

A table is a fact, a dimension that facts refer to, or a lookup table that associates the rows of
two dimensions.

Main definitions: `Dimension`, `Fact`, `Lookup`, `Catalog`, `Catalog.ofDecl`.
-/

namespace StarSchema

structure Dimension where
  table : Table
  label : Label

/-- A fact. Its computed fields stay as declared until they are bound in a star. -/
structure Fact where
  table : Table
  calculated : List CalculatedDecl

/-- An association of the rows of two dimensions. -/
structure Lookup where
  table : Table
  label : Label
  proximal : ForeignKey
  distal : ForeignKey

/-- The label of a declaration, all of whose fields are fields of the table. -/
def Table.resolveLabel (t : Table) (d : LabelDecl) : Except ModelError Label :=
  match d.fields.find? fun name => (t.field? name).isNone with
  | some name => .error (.unknownField t.name name)
  | none => .ok (.ofDecl t.name d)

namespace Dimension

def name (d : Dimension) : String :=
  d.table.name

def ofDecl (engine : PatternEngine) (settings : Settings) (d : DimensionDecl) :
    Except ModelError Dimension := do
  let table ← Table.ofDecl engine settings d.table
  return { table, label := ← table.resolveLabel d.label }

/-- Every key with its label, by key. -/
def labelQuery (d : Dimension) : Sql.Query :=
  let key := d.table.key.column.expr
  { select := [⟨key, none⟩, ⟨d.label.expr, some "label"⟩]
    from? := some d.name
    orderBy := [⟨key, .asc⟩] }

end Dimension

/-- The default of a computed field, which is a number. -/
def CalculatedDecl.resolveDefault (d : CalculatedDecl) : Except ConversionError (Option Value) :=
  match d.default? with
  | some input => convert .float input
  | none => .ok none

namespace Fact

def name (f : Fact) : String :=
  f.table.name

/-- The fact of a declaration. The defaults of its computed fields have to be numbers. -/
def ofDecl (engine : PatternEngine) (settings : Settings) (d : FactDecl) :
    Except ModelError Fact := do
  let table ← Table.ofDecl engine settings d.table
  d.calculated.forM fun c => do
    let _ ← c.resolveDefault.mapError (.inField table.name c.displayName ∘ .invalidDefault)
  return { table, calculated := d.calculated }

end Fact

namespace Lookup

def name (l : Lookup) : String :=
  l.table.name

/-- The foreign key of a name. -/
def resolveKey (t : Table) (name : String) : Except ModelError ForeignKey :=
  match t.field? name with
  | none => .error (.unknownField t.name name)
  | some field =>
    match field.foreignKey? with
    | some key => .ok key
    | none => .error (.notAForeignKey t.name name)

def ofDecl (engine : PatternEngine) (settings : Settings) (d : LookupDecl) :
    Except ModelError Lookup := do
  let table ← Table.ofDecl engine settings d.table
  let proximal ← resolveKey table d.proximal
  let distal ← resolveKey table d.distal
  if proximal.dimension = distal.dimension then
    throw (.lookupSameDimension table.name proximal.dimension)
  return { table, proximal, distal, label := ← table.resolveLabel d.label }

/-- Every associated pair of keys, in order. -/
def pairsQuery (l : Lookup) : Sql.Query :=
  let keys := [l.proximal.field.column.expr, l.distal.field.column.expr]
  { select := keys.map fun key => ⟨key, none⟩
    from? := some l.name
    orderBy := keys.map fun key => ⟨key, .asc⟩ }

end Lookup

/-- The tables of a model by their roles, in order of declaration. -/
structure Catalog where
  dimensions : List Dimension
  lookups : List Lookup
  facts : List Fact

/-- The first item that stands in a list of items seen before or further ahead in its own. -/
def firstRepeated? (seen : List String) : List String → Option String
  | [] => none
  | name :: names => if name ∈ seen then some name else firstRepeated? (name :: seen) names

theorem firstRepeated?_eq_none_iff {seen names : List String} :
    firstRepeated? seen names = none ↔ names.Nodup ∧ ∀ name ∈ names, name ∉ seen := by
  induction names generalizing seen with
  | nil => simp [firstRepeated?]
  | cons name names ih =>
    unfold firstRepeated?
    by_cases h : name ∈ seen
    · simp [h]
    · simp only [h, if_false, ih, List.nodup_cons, List.mem_cons, forall_eq_or_imp, not_or,
        not_false_eq_true, true_and]
      constructor
      · rintro ⟨hn, hs⟩
        exact ⟨⟨fun hm => (hs name hm).1 rfl, hn⟩, fun x hx => (hs x hx).2⟩
      · rintro ⟨⟨hm, hn⟩, hs⟩
        exact ⟨hn, fun x hx => ⟨fun e => hm (e ▸ hx), hs x hx⟩⟩

namespace ModelDecl

def tableNames (d : ModelDecl) : List String :=
  d.dimensions.map (·.table.name) ++ d.lookups.map (·.table.name) ++ d.facts.map (·.table.name)

end ModelDecl

namespace Catalog

/-- The tables of a declaration, whose names have to be pairwise different. -/
def ofDecl (engine : PatternEngine) (d : ModelDecl) : Except ModelError Catalog := do
  if let some name := firstRepeated? [] d.tableNames then throw (.duplicateTable name)
  return { dimensions := ← d.dimensions.mapM (Dimension.ofDecl engine d.settings)
           lookups := ← d.lookups.mapM (Lookup.ofDecl engine d.settings)
           facts := ← d.facts.mapM (Fact.ofDecl engine d.settings) }

def dimension? (c : Catalog) (name : String) : Option Dimension :=
  c.dimensions.find? (·.name == name)

def lookup? (c : Catalog) (name : String) : Option Lookup :=
  c.lookups.find? (·.name == name)

def fact? (c : Catalog) (name : String) : Option Fact :=
  c.facts.find? (·.name == name)

/-- Tables in the order of their names. -/
def byName (tables : List Table) : List Table :=
  tables.mergeSort fun s t => s.name ≤ t.name

/-- All tables, each role by name: dimensions, which others refer to, come first. -/
def tables (c : Catalog) : List Table :=
  byName (c.dimensions.map (·.table)) ++ byName (c.lookups.map (·.table)) ++
    byName (c.facts.map (·.table))

def table? (c : Catalog) (name : String) : Option Table :=
  c.tables.find? (·.name == name)

end Catalog

end StarSchema
