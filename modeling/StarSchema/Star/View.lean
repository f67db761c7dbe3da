import StarSchema.Star.Basic

/-!
# Views

A view groups the rows of a star by some of its fields and aggregates others.

Main definitions:

* `Aggregate`: the functions on groups of rows;
* `ViewPlan`: a view whose declaration has been checked;
* `View`, `View.ofPlan`: a view bound to the fields of its star;
* `View.compose`: the query, with the joins and the filters of the star.
-/

namespace StarSchema

inductive Aggregate where
  | count
  | avg
  | sum
deriving DecidableEq

namespace Aggregate

def all : List Aggregate := [.count, .avg, .sum]

def name : Aggregate → String
  | .count => "count"
  | .avg => "avg"
  | .sum => "sum"

/-- The aggregate of a name, letter case aside. No character outside ASCII has a letter of a name
as its lower case, so ASCII case is enough. -/
def ofName? (name : String) : Option Aggregate :=
  all.find? fun a => a.name == name.toLower

def dataType : Aggregate → DataType
  | .count => .int
  | .avg | .sum => .float

def apply : Aggregate → Sql.Expr → Sql.Expr
  | .count => .count
  | .avg => .avg
  | .sum => .sum

end Aggregate

/-- An aggregate that a view asks for, of a field of its star. -/
structure AggregatePlan where
  displayName : String
  base : String
  aggregate : Aggregate
deriving DecidableEq

/-- A view that is not bound to its star yet. -/
structure ViewPlan where
  name : String
  displayName : String
  fact : String
  groupBy : List String
  aggregates : List AggregatePlan
  orderBy : List OrderDecl
deriving DecidableEq

namespace ViewPlan

def aggregateOfDecl (view : String) (d : AggregateDecl) : Except ModelError AggregatePlan :=
  match Aggregate.ofName? d.function with
  | some aggregate => .ok ⟨d.displayName, d.base, aggregate⟩
  | none => .error (.invalidAggregate view d.displayName d.function)

/-- The view of a declaration, which has to be over a fact. -/
def ofDecl (facts : List Fact) (d : ViewDecl) : Except ModelError ViewPlan := do
  let aggregates ← d.aggregates.mapM (aggregateOfDecl d.name)
  if !facts.any (·.name == d.fact) then throw (.unknownFact d.name d.fact)
  return { aggregates
           name := d.name
           displayName := d.displayName?.getD d.name
           fact := d.fact
           groupBy := d.groupBy
           orderBy := d.orderBy }

end ViewPlan

/-- An aggregate of a field. -/
structure AggregateField where
  displayName : String
  base : String
  aggregate : Aggregate
  expr : Sql.Expr

def AggregateField.column (f : AggregateField) : Column where
  displayName := f.displayName
  dataType := f.aggregate.dataType
  format := f.aggregate.dataType.defaultFormat
  expr := f.expr

structure View where
  name : String
  displayName : String
  fact : String
  groupBy : List Column
  aggregates : List AggregateField
  orderBy : List OrderDecl

namespace View

/-- The field of a star that a view names. -/
def resolveField (view : String) (star : Star) (displayName : String) :
    Except CompositionError Column :=
  match star.field? displayName with
  | some c => .ok c
  | none => .error (.unknownField view star.name displayName)

/-- A field to group by. It cannot be edited through the groups. -/
def groupColumn (view : String) (star : Star) (displayName : String) :
    Except CompositionError Column := do
  let c ← resolveField view star displayName
  return { displayName, dataType := c.dataType, format := c.format, expr := c.expr }

def aggregateField (view : String) (star : Star) (p : AggregatePlan) :
    Except CompositionError AggregateField := do
  let c ← resolveField view star p.base
  return { displayName := p.displayName
           base := p.base
           aggregate := p.aggregate
           expr := p.aggregate.apply c.expr }

/-- The view of a plan over a star. -/
def ofPlan (star : Star) (p : ViewPlan) : Except CompositionError View := do
  let groupBy ← p.groupBy.mapM (groupColumn p.name star)
  let aggregates ← p.aggregates.mapM (aggregateField p.name star)
  return { groupBy, aggregates
           name := p.name
           displayName := p.displayName
           fact := p.fact
           orderBy := p.orderBy }

/-- What the view shows: the fields that it groups by, then the aggregates. -/
def columns (v : View) : List Column :=
  v.groupBy ++ v.aggregates.map (·.column)

/-- The position of the key among the columns. A group of rows has none. -/
def keyIndex? (_ : View) : Option Nat := none

/-- Whether rows can be changed through the view. A group of rows cannot. -/
def isEditable (_ : View) : Bool := false

def sortKey (v : View) (o : OrderDecl) : Except CompositionError Sql.SortKey :=
  match Column.find? v.columns o.field with
  | some c => .ok ⟨c.expr, o.direction⟩
  | none => .error (.unknownField v.name v.name o.field)

/-- The query of a view over a star. -/
def compose (v : View) (star : Star) : Except CompositionError Sql.Query := do
  return { star.baseQuery with
           select := v.columns.map (·.selectItem)
           groupBy := v.groupBy.map (·.expr)
           orderBy := ← v.orderBy.mapM v.sortKey
           limit? := some star.fact.table.displayRows }

end View

end StarSchema
