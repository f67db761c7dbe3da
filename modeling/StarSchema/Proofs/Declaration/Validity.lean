import Mathlib.Data.List.Duplicate
import StarSchema.Star.View

/-!
# Valid declarations

What a declaration has to be like for a model to be built from it, part by part, and the faults that
it can have. Both are said of the declaration alone: no table is built to find out. Formulas, names
of display and the tables that foreign keys refer to have no part in it. They are looked at when
stars and views are bound, and what is wrong with them is kept as the failure of one star or view.

Main definitions: `ModelDecl.IsValid`, `ModelDecl.Fault`, and the like for each part.
-/

namespace StarSchema

/-! ### Fields -/

/-- The declared type, or else the type of the declared format. -/
def FieldDecl.type? (d : FieldDecl) : Option DataType :=
  d.dataType?.or (d.format?.map (·.dataType))

/-- A pattern can be compiled by the library, and a range is not inverted. A bound that is not a
number inverts no range. -/
def ValidatorDecl.IsWellFormed (engine : PatternEngine) : ValidatorDecl → Prop
  | .pattern source _ => (engine.compile? source).isSome = true
  | .range (some min) (some max) => max.lt min = false
  | _ => True

structure FieldDecl.IsValid (engine : PatternEngine) (d : FieldDecl) : Prop where
  typed : d.type?.isSome = true
  default : ∀ t ∈ d.type?, ∀ x ∈ d.default?, ∃ v, convert t x = .ok v
  validator : ∀ v ∈ d.validator?, v.IsWellFormed engine
  operators : ∀ t ∈ d.type?, ∀ ops ∈ d.operators?, ∀ op ∈ ops, op.appliesTo t = true
  reference : d.dimension?.isSome = true → d.type? = some .int ∧ d.referenced?.isSome = true

/-- What can be wrong with a validator. -/
inductive ValidatorDecl.Fault (engine : PatternEngine) : ValidatorDecl → ValidatorError → Prop where
  | malformed {source : String} {message? : Option String}
    (refused : engine.compile? source = none) :
    Fault engine (.pattern source message?) .malformedPattern
  | inverted {min max : Binary64} (less : max.lt min = true) :
    Fault engine (.range (some min) (some max)) (.emptyRange min max)

/-- What can be wrong with a field, alone. -/
inductive FieldDecl.Fault (engine : PatternEngine) (d : FieldDecl) : FieldError → Prop where
  | untyped (absent : d.type? = none) : Fault engine d (.missingKey "type")
  | default {t : DataType} {x : Input} {e : ConversionError} (typed : d.type? = some t)
    (declared : d.default? = some x) (refused : convert t x = .error e) :
    Fault engine d (.invalidDefault e)
  | validator {v : ValidatorDecl} {e : ValidatorError} (declared : d.validator? = some v)
    (fault : v.Fault engine e) : Fault engine d (.invalidValidator e)
  | operator {t : DataType} {ops : List Operator} {op : Operator} (typed : d.type? = some t)
    (declared : d.operators? = some ops) (mem : op ∈ ops) (inapplicable : op.appliesTo t = false) :
    Fault engine d (.invalidOperator op t)
  | keyType {t : DataType} (refers : d.dimension?.isSome = true) (typed : d.type? = some t)
    (other : t ≠ .int) : Fault engine d (.foreignKeyType t)
  | unnamedKey (refers : d.dimension?.isSome = true) (absent : d.referenced? = none) :
    Fault engine d (.missingKey "foreign_key_field")

/-! ### Tables -/

/-- The fields that refer to dimensions, each with the dimension. -/
def TableDecl.foreignKeys (d : TableDecl) : List (String × String) :=
  d.fields.filterMap fun f => f.dimension?.map (f.name, ·)

theorem TableDecl.mem_foreignKeys_iff {d : TableDecl} {name dimension : String} :
    (name, dimension) ∈ d.foreignKeys ↔
      ∃ f ∈ d.fields, f.name = name ∧ f.dimension? = some dimension := by
  simp [foreignKeys, and_comm]

structure TableDecl.IsValid (engine : PatternEngine) (d : TableDecl) : Prop where
  distinct : (d.fields.map (·.name)).Nodup
  keyed : (d.fields.filter (·.isKey)).length = 1
  fields : ∀ f ∈ d.fields, f.IsValid engine

inductive TableDecl.Fault (engine : PatternEngine) (d : TableDecl) : ModelError → Prop where
  | field {f : FieldDecl} {e : FieldError} (mem : f ∈ d.fields) (fault : f.Fault engine e) :
    Fault engine d (.inField d.name f.name e)
  | duplicate {name : String} (twice : (d.fields.map (·.name)).Duplicate name) :
    Fault engine d (.duplicateField d.name name)
  | noKey (none : d.fields.filter (·.isKey) = []) : Fault engine d (.missingPrimaryKey d.name)
  | keys (several : 2 ≤ (d.fields.filter (·.isKey)).length) :
    Fault engine d (.multiplePrimaryKeys d.name ((d.fields.filter (·.isKey)).map (·.name)))

/-- All fields of the label are fields of the table. -/
def LabelDecl.IsOver (t : TableDecl) (d : LabelDecl) : Prop :=
  ∀ name ∈ d.fields, name ∈ t.fields.map (·.name)

inductive LabelDecl.Fault (t : TableDecl) (d : LabelDecl) : ModelError → Prop where
  | unknown {name : String} (mem : name ∈ d.fields) (absent : name ∉ t.fields.map (·.name)) :
    Fault t d (.unknownField t.name name)

structure DimensionDecl.IsValid (engine : PatternEngine) (d : DimensionDecl) : Prop where
  table : d.table.IsValid engine
  label : d.label.IsOver d.table

inductive DimensionDecl.Fault (engine : PatternEngine) (d : DimensionDecl) : ModelError → Prop where
  | table {e : ModelError} (fault : d.table.Fault engine e) : Fault engine d e
  | label {e : ModelError} (fault : d.label.Fault d.table e) : Fault engine d e

/-- Both keys of a lookup table are foreign keys of it, to different dimensions. -/
structure LookupDecl.IsValid (engine : PatternEngine) (d : LookupDecl) : Prop where
  table : d.table.IsValid engine
  keys : ∃ near far, (d.proximal, near) ∈ d.table.foreignKeys ∧
    (d.distal, far) ∈ d.table.foreignKeys ∧ near ≠ far
  label : d.label.IsOver d.table

inductive LookupDecl.Fault (engine : PatternEngine) (d : LookupDecl) : ModelError → Prop where
  | table {e : ModelError} (fault : d.table.Fault engine e) : Fault engine d e
  | unknownKey {name : String} (key : name = d.proximal ∨ name = d.distal)
    (absent : name ∉ d.table.fields.map (·.name)) : Fault engine d (.unknownField d.table.name name)
  | notAKey {name : String} (key : name = d.proximal ∨ name = d.distal)
    (mem : name ∈ d.table.fields.map (·.name)) (plain : name ∉ d.table.foreignKeys.map Prod.fst) :
    Fault engine d (.notAForeignKey d.table.name name)
  | sameDimension {dimension : String} (near : (d.proximal, dimension) ∈ d.table.foreignKeys)
    (far : (d.distal, dimension) ∈ d.table.foreignKeys) :
    Fault engine d (.lookupSameDimension d.table.name dimension)
  | label {e : ModelError} (fault : d.label.Fault d.table e) : Fault engine d e

structure FactDecl.IsValid (engine : PatternEngine) (d : FactDecl) : Prop where
  table : d.table.IsValid engine
  defaults : ∀ c ∈ d.calculated, ∀ x ∈ c.default?, ∃ v, convert .float x = .ok v

inductive FactDecl.Fault (engine : PatternEngine) (d : FactDecl) : ModelError → Prop where
  | table {e : ModelError} (fault : d.table.Fault engine e) : Fault engine d e
  | default {c : CalculatedDecl} {x : Input} {e : ConversionError} (mem : c ∈ d.calculated)
    (declared : c.default? = some x) (refused : convert .float x = .error e) :
    Fault engine d (.inField d.table.name c.displayName (.invalidDefault e))

/-! ### Views and models -/

/-- The text is the name of the aggregate, in any letter case. -/
def Aggregate.IsSpelled (a : Aggregate) (text : String) : Prop :=
  text.toList.Forall₂ (fun c letter => c = letter ∨ c = letter.toUpper) a.name.toList

theorem toLower_eq_iff {c letter : Char} (small : letter.isLower = true) :
    c.toLower = letter ↔ c = letter ∨ c = letter.toUpper := by
  delta Char.isLower at small
  simp only [ge_iff_le, Bool.and_eq_true, decide_eq_true_eq] at small
  delta Char.toLower Char.toUpper
  rw [dif_pos small]
  split
  all_goals
    simp only [Char.ext_iff, Char.reduceVal, UInt32.reduceSub]
    simp only [Char.reduceVal, UInt32.le_iff_toNat_le, ← UInt32.toNat_inj, UInt32.toNat_add,
      UInt32.reduceToNat] at *
    omega

theorem forall₂_letters_iff {text letters : List Char} (small : ∀ l ∈ letters, l.isLower = true) :
    text.Forall₂ (fun c letter => c = letter ∨ c = letter.toUpper) letters ↔
      text.map Char.toLower = letters := by
  induction letters generalizing text with
  | nil => rw [List.forall₂_nil_right_iff, List.map_eq_nil_iff]
  | cons l letters ih =>
    rw [List.forall_mem_cons] at small
    cases text with
    | nil => simp
    | cons c text =>
      rw [List.forall₂_cons, List.map_cons, List.cons.injEq, ih small.2, toLower_eq_iff small.1]

/-- An aggregate is found by a text just if the text spells its name. -/
theorem Aggregate.ofName?_eq_some_iff {a : Aggregate} {text : String} :
    ofName? text = some a ↔ a.IsSpelled text := by
  have small : a.name.toList.all Char.isLower = true := by
    cases a <;> decide
  have letters : text.toLower.toList = text.toList.map Char.toLower := String.toList_map
  have lowered : (a.IsSpelled text ↔ text.toLower = a.name) := by
    rw [IsSpelled, forall₂_letters_iff (List.all_eq_true.mp small), ← String.toList_inj, letters]
  rw [lowered, ofName?, eq_comm (a := text.toLower)]
  constructor
  · intro found
    simpa using List.find?_some found
  · intro same
    rw [← same]
    cases a <;> rfl

/-- All aggregates of a view are known, and it is over one of the facts. -/
structure ViewDecl.IsValid (facts : List String) (d : ViewDecl) : Prop where
  aggregates : ∀ a ∈ d.aggregates, ∃ known : Aggregate, known.IsSpelled a.function
  fact : d.fact ∈ facts

inductive ViewDecl.Fault (facts : List String) (d : ViewDecl) : ModelError → Prop where
  | aggregate {a : AggregateDecl} (mem : a ∈ d.aggregates)
    (unknown : ∀ known : Aggregate, ¬ known.IsSpelled a.function) :
    Fault facts d (.invalidAggregate d.name a.displayName a.function)
  | fact (absent : d.fact ∉ facts) : Fault facts d (.unknownFact d.name d.fact)

/-- A declaration of which a model can be built: the names of its tables are pairwise different,
whatever their roles, and each table and each view is valid. -/
structure ModelDecl.IsValid (engine : PatternEngine) (d : ModelDecl) : Prop where
  distinct : d.tableNames.Nodup
  dimensions : ∀ x ∈ d.dimensions, x.IsValid engine
  lookups : ∀ x ∈ d.lookups, x.IsValid engine
  facts : ∀ x ∈ d.facts, x.IsValid engine
  views : ∀ x ∈ d.views, x.IsValid (d.facts.map (·.table.name))

inductive ModelDecl.Fault (engine : PatternEngine) (d : ModelDecl) : ModelError → Prop where
  | duplicate {name : String} (twice : d.tableNames.Duplicate name) :
    Fault engine d (.duplicateTable name)
  | dimension {x : DimensionDecl} {e : ModelError} (mem : x ∈ d.dimensions)
    (fault : x.Fault engine e) : Fault engine d e
  | lookup {x : LookupDecl} {e : ModelError} (mem : x ∈ d.lookups) (fault : x.Fault engine e) :
    Fault engine d e
  | fact {x : FactDecl} {e : ModelError} (mem : x ∈ d.facts) (fault : x.Fault engine e) :
    Fault engine d e
  | view {x : ViewDecl} {e : ModelError} (mem : x ∈ d.views)
    (fault : x.Fault (d.facts.map (·.table.name)) e) : Fault engine d e

end StarSchema
