import Std.Data.TreeMap
import Std.Data.TreeSet
import StarSchema.Catalog
import StarSchema.InPlace
import StarSchema.Request

/-!
# Labels of keys

The cache maps every dimension and lookup table to the labels of its keys, so that foreign keys
can be shown as text. Labels are fetched when they are first asked for, and again after their
table has been marked dirty.

Main definitions:

* `Labels`, `dimensionLabels`, `lookupLabels`: the labels that rows describe;
* `LabelCache`, `LabelCache.initial`: the cached labels and the tables marked dirty;
* `LabelCache.foreignKeys`: the labels of a table, fetched unless they are cached and clean;
* `LabelCache.invalidate`: marks a table dirty, and with it every lookup table that depends on it.
-/

namespace StarSchema

/-- A label for each key of a table. -/
abbrev Labels := Std.TreeMap Int64 String

/-- Why labels cannot be had. -/
inductive LabelError where
  | resolution (cause : ResolutionError)
  | execution (cause : ExecutionError)
  | conversion (table : String) (cause : ConversionError)
deriving DecidableEq

def LabelError.message : LabelError → String
  | .resolution cause => cause.message
  | .execution cause => cause.message
  | .conversion table cause => "Refreshing " ++ quoteName table ++ ": " ++ cause.message

/-! ### Rows as labels -/

/-- The key in a cell, if there is one. -/
def keyOfCell (cell : Input) : Except ConversionError (Option Int64) := do
  match ← convert .int cell with
  | some (.int n) => return some n
  | _ => return none

/-- The label in a cell, empty if there is none. -/
def labelOfCell (cell : Input) : Except ConversionError String := do
  return ((← convert .str cell).map Value.text).getD ""

/-- The key and label in a row; nothing if the key is missing. -/
def labelOfRow : Row → Except ConversionError (Option (Int64 × String))
  | [keyCell, labelCell] => do
    match ← keyOfCell keyCell with
    | some key => return some (key, ← labelOfCell labelCell)
    | none => return none
  | _ => .ok none

/-- The proximal and distal key in a row; nothing if one of them is missing. -/
def pairOfRow : Row → Except ConversionError (Option (Int64 × Int64))
  | [proximalCell, distalCell] => do
    let proximal? ← keyOfCell proximalCell
    let distal? ← keyOfCell distalCell
    return do return (← proximal?, ← distal?)
  | _ => .ok none

/-- Labels in which the key zero, which refers to no row, has the empty one. -/
def withoutSelection (labels : Labels) : Labels :=
  labels.insert 0 ""

@[simp]
theorem withoutSelection_zero (labels : Labels) :
    (withoutSelection labels)[(0 : Int64)]? = some "" := by
  simp [withoutSelection]

/-- The labels that the rows of a dimension describe. Of two rows with one key the later counts. -/
def dimensionLabels (rows : List Row) : Except ConversionError Labels := do
  let entries := (← rows.mapM labelOfRow).filterMap id
  return withoutSelection (entries.foldl (fun labels (key, label) => labels.insert key label) ∅)

/-- What stands between the labels of the rows that a key is associated with. -/
def lookupSeparator : String := "; "

/-- Labels with one more for a key, after those that it has. -/
def appendLabel (labels : Labels) (key : Int64) (label : String) : Labels :=
  match labels[key]? with
  | some before => labels.insert key (before ++ lookupSeparator ++ label)
  | none => labels.insert key label

/-- Labels with those of one more associated pair. A distal key without a label, or with an empty
one, adds nothing. -/
def addPair (distal : Labels) (labels : Labels) (pair : Int64 × Int64) : Labels :=
  match distal[pair.2]? with
  | some label => if label = "" then labels else appendLabel labels pair.1 label
  | none => labels

/-- The labels that the pairs of a lookup table describe: for each proximal key, the labels of the
distal keys that it is associated with. -/
def lookupLabels (distal : Labels) (rows : List Row) : Except ConversionError Labels := do
  let pairs := (← rows.mapM pairOfRow).filterMap id
  return withoutSelection (pairs.foldl (addPair distal) ∅)

/-! ### The cache -/

structure LabelCache where
  labels : Std.TreeMap String Labels
  dirty : Std.TreeSet String

namespace Catalog

/-- The tables whose rows have labels. -/
def labelled (c : Catalog) : List String :=
  c.dimensions.map (·.name) ++ c.lookups.map (·.name)

/-- The lookup tables that associate the rows of a dimension. -/
def dependents (c : Catalog) (dimension : String) : List String :=
  (c.lookups.filter fun l =>
    l.proximal.dimension == dimension || l.distal.dimension == dimension).map (·.name)

end Catalog

namespace LabelCache

/-- A cache of nothing, in which every table is dirty. -/
def initial (c : Catalog) : LabelCache where
  labels := ∅
  dirty := .ofList c.labelled

/-- The labels of a table, if they need not be fetched. -/
def clean? (cache : LabelCache) (name : String) : Option Labels :=
  if cache.dirty.contains name then none else cache.labels[name]?

/-- The cache with labels that have just been fetched. -/
def store (cache : LabelCache) (name : String) (labels : Labels) : LabelCache where
  labels := cache.labels.insert name labels
  dirty := cache.dirty.erase name

/-- The cache with more tables marked dirty. -/
def mark (cache : LabelCache) (names : List String) : LabelCache :=
  { cache with dirty := names.foldl (·.insert ·) cache.dirty }

@[simp]
theorem clean?_store_self (cache : LabelCache) (name : String) (labels : Labels) :
    (cache.store name labels).clean? name = some labels := by
  simp [clean?, store]

theorem clean?_store_of_ne {cache : LabelCache} {name other : String} (labels : Labels)
    (h : name ≠ other) : (cache.store name labels).clean? other = cache.clean? other := by
  simp [clean?, store, Std.TreeSet.contains_erase, Std.TreeMap.getElem?_insert, h]

theorem mem_dirty_mark {cache : LabelCache} {names : List String} {name : String} :
    name ∈ (cache.mark names).dirty ↔ name ∈ names ∨ name ∈ cache.dirty := by
  unfold mark
  suffices h : ∀ s : Std.TreeSet String,
      name ∈ names.foldl (·.insert ·) s ↔ name ∈ names ∨ name ∈ s from h cache.dirty
  intro s
  induction names generalizing s with
  | nil => simp
  | cons n names ih =>
    rw [List.foldl_cons, ih]
    rw [Std.TreeSet.mem_insert, Std.compare_eq_iff_eq, List.mem_cons, or_left_comm, or_assoc,
      eq_comm]

variable {σ : Type}

/-- Labels of a table from the rows of a query; they are stored unless something fails. -/
def fetchLabels (exec : Executor σ) (name : String) (q : Sql.Query)
    (read : List Row → Except ConversionError Labels) (cache : LabelCache) (state : σ) :
    Except LabelError Labels × LabelCache × σ :=
  let (answer, state) := exec.fetch q state
  match (answer.mapError .execution).bind fun rows => (read rows).mapError (.conversion name) with
  | .ok labels => (.ok labels, cache.store name labels, state)
  | .error e => (.error e, cache, state)

/-- The labels of a dimension. -/
def dimensionKeys (exec : Executor σ) (d : Dimension) (cache : LabelCache) (state : σ) :
    Except LabelError Labels × LabelCache × σ :=
  match cache.clean? d.name with
  | some labels => (.ok labels, cache, state)
  | none => fetchLabels exec d.name d.labelQuery dimensionLabels cache state

/-- The labels of a lookup table, built from those of its distal dimension, which are fetched
first if they have to be. -/
def lookupKeys (c : Catalog) (exec : Executor σ) (l : Lookup) (cache : LabelCache) (state : σ) :
    Except LabelError Labels × LabelCache × σ :=
  match cache.clean? l.name with
  | some labels => (.ok labels, cache, state)
  | none =>
    match c.dimension? l.distal.dimension with
    | none => (.error (.resolution (.unknownTable l.distal.dimension)), cache, state)
    | some d =>
      match dimensionKeys exec d cache state with
      | (.ok distal, cache, state) =>
        fetchLabels exec l.name l.pairsQuery (lookupLabels distal) cache state
      | (.error e, cache, state) => (.error e, cache, state)

/-- The labels of a dimension or lookup table. -/
def foreignKeys (c : Catalog) (exec : Executor σ) (name : String) (cache : LabelCache)
    (state : σ) : Except LabelError Labels × LabelCache × σ :=
  match c.dimension? name, c.lookup? name with
  | some d, _ => dimensionKeys exec d cache state
  | none, some l => lookupKeys c exec l cache state
  | none, none => (.error (.resolution (.notLabelled name)), cache, state)

/-- Marks a table whose rows have changed, and then the lookup tables that depend on it. -/
def invalidate (c : Catalog) (name : String) : InPlace ResolutionError LabelCache Unit := do
  if name ∉ c.labelled then throw (.notLabelled name)
  modify (·.mark [name])
  modify (·.mark (c.dependents name))

end LabelCache

end StarSchema
