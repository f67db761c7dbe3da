import StarSchema.LabelCache
import StarSchema.Star.View

/-!
# Models

A model is built once from a declaration: its tables, a star for every fact, and its views. A
star or view that cannot be composed is kept as the error, so that the others stay usable.

Main definitions:

* `Model`, `Model.ofDecl`;
* `Model.composeStar`, `Model.composeView`, `Model.createStatements`: the statements of a model;
* `Model.setFilter`, `Model.clearFilters`: the state of the filters;
* `Model.fetchStar`, `Model.fetchView`: typed rows;
* `Model.foreignKeys`, `Model.invalidate`, `Model.refresh`: the labels of keys.
-/

namespace StarSchema

/-- Stars and views go by their names. Where two views share one, the later declaration comes
first and hides the other. -/
structure Model where
  settings : Settings
  catalog : Catalog
  stars : List (String × Except CompositionError Star)
  views : List (String × Except CompositionError View)
  labels : LabelCache

namespace Model

/-- A view over its star. The fault of a star is one of every view over it. -/
def bindView (stars : List (String × Except CompositionError Star)) (p : ViewPlan) :
    Except CompositionError View :=
  match stars.lookup p.fact with
  | some (.ok star) => View.ofPlan star p
  | some (.error e) => .error { e with entity := p.name }
  | none => .error ⟨p.name, none, .resolution (.unknownStar p.fact)⟩

/-- The model of a declaration, whose patterns are compiled by a given library. -/
def ofDecl (engine : PatternEngine) (d : ModelDecl) : Except ModelError Model := do
  let catalog ← Catalog.ofDecl engine d
  let plans ← d.views.mapM (ViewPlan.ofDecl catalog.facts)
  let stars := catalog.facts.map fun f => (f.name, Star.ofFact catalog.dimensions f)
  return { catalog, stars
           settings := d.settings
           views := (plans.map fun p => (p.name, bindView stars p)).reverse
           labels := LabelCache.initial catalog }

/-- Names in order, each once. -/
def sortedNames (names : List String) : List String :=
  names.mergeSort.eraseDups

def dimensionNames (m : Model) : List String :=
  sortedNames (m.catalog.dimensions.map (·.name))

def starNames (m : Model) : List String :=
  sortedNames (m.stars.map Prod.fst)

def viewNames (m : Model) : List String :=
  sortedNames (m.views.map Prod.fst)

/-- The star over a fact. -/
def star (m : Model) (name : String) : Except RequestError Star :=
  match m.stars.lookup name with
  | some star => star.mapError .composition
  | none => .error (.resolution (.unknownStar name))

def view (m : Model) (name : String) : Except RequestError View :=
  match m.views.lookup name with
  | some view => view.mapError .composition
  | none => .error (.resolution (.unknownView name))

/-! ### Statements -/

def composeStar (m : Model) (name : String) : Except RequestError Sql.Query := do
  (← m.star name).compose.mapError .composition

/-- The query of a view, with the present filters of its star. -/
def composeView (m : Model) (name : String) : Except RequestError Sql.Query := do
  let view ← m.view name
  (view.compose (← m.star view.fact)).mapError .composition

/-- The statements that create the tables: dimensions, then lookup tables, then facts. -/
def createStatements (m : Model) : List Sql.CreateTable :=
  m.catalog.tables.map Table.createTable

/-! ### Filters -/

/-- The model with another star in place of the one over a fact. -/
def replaceStar (m : Model) (name : String) (star : Star) : Model :=
  { m with stars := m.stars.map fun (n, s) => if n = name then (n, .ok star) else (n, s) }

/-- An operation on the star over a fact. -/
def onStar (name : String) (op : InPlace RequestError Star Unit) :
    InPlace RequestError Model Unit := do
  let m ← get
  let star ← liftExcept (m.star name)
  op.onPart star (m.replaceStar name) id

/-- The model with a value for a filter of a star, unless the value is refused. -/
def setFilter (m : Model) (name filter : String) (input : Input) : Except RequestError Model :=
  (onStar name (Star.assignFilter filter input)).outcome m

/-- The model without any value for the filters of a star. -/
def clearFilters (m : Model) (name : String) : Except RequestError Model :=
  (onStar name (modify Star.clearFilters)).outcome m

/-! ### Rows -/

variable {σ : Type}

/-- The rows of a query, each cell converted to the type of its column. -/
def fetchTyped (exec : Executor σ) (q : Sql.Query) (columns : List Column) (state : σ) :
    Except RequestError (List (List (Option Value))) × σ :=
  let (answer, state) := exec.fetch q state
  ((answer.mapError .execution).bind fun rows =>
    (rows.mapM (convertRow (columns.map (·.dataType)))).mapError .conversion, state)

/-- The rows of a star. -/
def fetchStar (m : Model) (exec : Executor σ) (name : String) (state : σ) :
    Except RequestError (List (List (Option Value))) × σ :=
  match m.star name, m.composeStar name with
  | .ok star, .ok q => fetchTyped exec q star.columns state
  | .error e, _ | _, .error e => (.error e, state)

/-- The rows of a view. -/
def fetchView (m : Model) (exec : Executor σ) (name : String) (state : σ) :
    Except RequestError (List (List (Option Value))) × σ :=
  match m.view name, m.composeView name with
  | .ok view, .ok q => fetchTyped exec q view.columns state
  | .error e, _ | _, .error e => (.error e, state)

/-! ### Labels -/

/-- The labels of the keys of a dimension or lookup table. -/
def foreignKeys (m : Model) (exec : Executor σ) (name : String) (state : σ) :
    Except LabelError Labels × Model × σ :=
  let (answer, labels, state) := m.labels.foreignKeys m.catalog exec name state
  (answer, { m with labels }, state)

/-- Marks the labels that hang on the rows of a table, which have changed. -/
def invalidate (name : String) : InPlace ResolutionError Model Unit := do
  let m ← get
  (LabelCache.invalidate m.catalog name).onPart m.labels (fun labels => { m with labels }) id

/-- The model after the rows of a table have changed. -/
def refresh (m : Model) (name : String) : Except ResolutionError Model :=
  (invalidate name).outcome m

/-- The tables whose labels will be fetched when they are next asked for. -/
def dirty (m : Model) : List String :=
  m.labels.dirty.toList

end Model

end StarSchema
