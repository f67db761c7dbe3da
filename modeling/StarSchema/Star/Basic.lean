import StarSchema.Star.Calculated

/-!
# Stars

A star is a fact with the dimensions that its foreign keys refer to, its calculated fields and
its filters. Composed, it is a query for every row of the fact with the labels of the rows that
it refers to.

Main definitions:

* `Star`, `Star.ofFact`: a fact bound to the dimensions of a catalog;
* `Star.fields`, `Star.columns`: what can be addressed, and what is shown;
* `Star.setFilter`, `Star.clearFilters`: the filters and their values;
* `Star.compose`: the query.
-/

namespace StarSchema

/-- A dimension and the foreign key by which it is joined. -/
structure StarJoin where
  foreignKey : ForeignKey
  dimension : Dimension

structure Star where
  fact : Fact
  joins : List StarJoin
  calculated : List CalculatedField
  filters : List Filter

/-- What a star can project, order by or filter on. -/
inductive StarField where
  | stored (f : Field)
  | label (l : Label)
  | calculated (c : CalculatedField)

def StarField.column : StarField → Column
  | .stored f => f.column
  | .label l => l.column
  | .calculated c => c.column

/-- Whether the rows of a fact show the field. -/
def StarField.isShown : StarField → Bool
  | .calculated c => c.shown
  | _ => true

namespace Star

/-- The dimension that a foreign key of a fact refers to. -/
def resolveJoin (fact : String) (dimensions : List Dimension) (key : ForeignKey) :
    Except CompositionError StarJoin :=
  match dimensions.find? (·.name == key.dimension) with
  | some dimension => .ok ⟨key, dimension⟩
  | none =>
    .error ⟨fact, some key.field.name,
      .resolution (.unknownDimension key.field.name key.dimension)⟩

/-- One more join. A dimension that is joined already stays joined by the key that came first. -/
def addJoin (joins : List StarJoin) (j : StarJoin) : List StarJoin :=
  if joins.any (·.dimension.name == j.dimension.name) then joins else joins ++ [j]

/-- The expression that a name in a formula stands for: a field of the fact, or else a calculated
field that came earlier. -/
def operand? (fact : Fact) (earlier : List CalculatedField) (name : String) : Option Sql.Expr :=
  (Column.find? (fact.table.fields.map (·.column) ++ earlier.map (·.column)) name).map (·.expr)

/-- One more calculated field, after those that came earlier. -/
def addCalculated (fact : Fact) (earlier : List CalculatedField) (d : CalculatedDecl) :
    Except CompositionError (List CalculatedField) := do
  let c ← (CalculatedField.ofDecl (operand? fact earlier) d).mapError
    (⟨fact.name, some d.displayName, ·⟩)
  return earlier ++ [c]

/-- The filters of a star: those of labels, of stored and of calculated fields, by name. -/
def initialFilters (fact : Fact) (joins : List StarJoin) (calculated : List CalculatedField) :
    List Filter :=
  Filter.sort (joins.map (·.dimension.label.filter) ++ fact.table.filters ++
    calculated.flatMap (·.filters))

/-- The star of a fact. -/
def ofFact (dimensions : List Dimension) (fact : Fact) : Except CompositionError Star := do
  let resolved ← fact.table.foreignKeys.mapM (resolveJoin fact.name dimensions)
  let joins := resolved.foldl addJoin []
  let calculated ← fact.calculated.foldlM (addCalculated fact) []
  return { fact, joins, calculated, filters := initialFilters fact joins calculated }

def name (s : Star) : String :=
  s.fact.name

def labels (s : Star) : List Label :=
  s.joins.map (·.dimension.label)

/-- Every field that has a display name within the star: stored fields, labels, then calculated
fields. -/
def fields (s : Star) : List StarField :=
  s.fact.table.fields.map .stored ++ s.labels.map .label ++ s.calculated.map .calculated

/-- The first field of a display name. -/
def field? (s : Star) (displayName : String) : Option Column :=
  Column.find? (s.fields.map (·.column)) displayName

/-- The columns that the star shows. -/
def columns (s : Star) : List Column :=
  (s.fields.filter (·.isShown)).map (·.column)

/-- The first filter of a display name. -/
def filter? (s : Star) (displayName : String) : Option Filter :=
  s.filters.find? (·.displayName == displayName)

/-- The star with another filter in place of the first one of a display name. -/
def replaceFilter (s : Star) (displayName : String) (f : Filter) : Star :=
  { s with filters := s.filters.set (s.filters.findIdx (·.displayName == displayName)) f }

/-- Gives a value to the first filter of a display name. -/
def assignFilter (displayName : String) (input : Input) : InPlace RequestError Star Unit := do
  let s ← get
  match s.filter? displayName with
  | none => throw (.resolution (.unknownFilter s.name displayName))
  | some f => (Filter.assign input).onPart f (s.replaceFilter displayName) .conversion

/-- The star with a value for the first filter of a display name, unless the value is refused. -/
def setFilter (s : Star) (displayName : String) (input : Input) : Except RequestError Star :=
  (assignFilter displayName input).outcome s

/-- The star without any filter value. -/
def clearFilters (s : Star) : Star :=
  { s with filters := s.filters.map Filter.clear }

/-- The conditions of the filters that have a value. -/
def predicates (s : Star) : List Sql.Expr :=
  s.filters.filterMap Filter.predicate?

end Star

/-- A dimension joined to the rows of a fact that refer to it. -/
def StarJoin.toJoin (j : StarJoin) (fact : String) : Sql.Join where
  table := j.dimension.name
  on := .binary .eq (.column fact j.foreignKey.field.name)
    (.column j.dimension.name j.dimension.table.key.name)

namespace Star

/-- The rows of the fact with those that they refer to, as far as the filters let them pass. -/
def baseQuery (s : Star) : Sql.Query where
  from? := some s.name
  joins := s.joins.map (·.toJoin s.name)
  where? := Sql.Expr.conjunction? s.predicates

/-- The expression that orders rows by a name: that of a label, else the field of the fact with
that storage name, else any field of the star with that display name. -/
def orderKey? (s : Star) (name : String) : Option Sql.Expr :=
  match s.labels.find? (·.displayName == name), s.fact.table.field? name with
  | some label, _ => some label.expr
  | none, some field => some field.column.expr
  | none, none => (s.field? name).map (·.expr)

def sortKey (s : Star) (o : OrderDecl) : Except CompositionError Sql.SortKey :=
  match s.orderKey? o.field with
  | some expr => .ok ⟨expr, o.direction⟩
  | none => .error (.unknownField s.name s.name o.field)

/-- The query of a star. -/
def compose (s : Star) : Except CompositionError Sql.Query := do
  return { s.baseQuery with
           select := s.columns.map (·.selectItem)
           orderBy := ← s.fact.table.orderBy.mapM s.sortKey
           limit? := some s.fact.table.displayRows }

end Star

end StarSchema
