import StarSchema.Column
import StarSchema.Filter.Basic
import StarSchema.ModelError

/-!
# Fields of a table

Main definitions:

* `Field`, `Field.ofDecl`: a field whose declaration has been checked;
* `ForeignKey`: a field that refers to the rows of a dimension;
* `Field.column`, `Field.filters`: a field as a column and as the filters that it offers.
-/

namespace StarSchema

/-- The key of a dimension, as a foreign key names it. -/
structure Reference where
  dimension : String
  key : String
deriving DecidableEq

structure Field where
  table : String
  name : String
  dataType : DataType
  displayName : String
  format : DisplayFormat
  editable : Bool
  isKey : Bool
  default? : Option Value
  visible : Bool
  validator? : Option Validator
  operators : List Operator
  reference? : Option Reference

/-- A field with the reference that it holds. -/
structure ForeignKey extends Reference where
  field : Field

namespace FieldDecl

/-- The declared type, or else the type of the declared format. -/
def resolveType (d : FieldDecl) : Except FieldError DataType :=
  match d.dataType?, d.format? with
  | some t, _ => .ok t
  | none, some format => .ok format.dataType
  | none, none => .error (.missingKey "type")

/-- The default input as a value of the type. -/
def resolveDefault (d : FieldDecl) (t : DataType) : Except FieldError (Option Value) :=
  match d.default? with
  | some input => (convert t input).mapError .invalidDefault
  | none => .ok none

def resolveValidator (engine : PatternEngine) (d : FieldDecl) :
    Except FieldError (Option Validator) :=
  match d.validator? with
  | some v => ((Validator.ofDecl engine v).map some).mapError .invalidValidator
  | none => .ok none

/-- The declared operators. Without any, a foreign key has none, and every other field has those
of its type. -/
def resolveOperators (d : FieldDecl) (t : DataType) : Except FieldError (List Operator) :=
  let operators := d.operators?.getD (if d.dimension?.isSome then [] else Operator.defaults t)
  match operators.find? (!·.appliesTo t) with
  | some op => .error (.invalidOperator op t)
  | none => .ok operators

/-- The reference of a field that names a dimension. It has to be of integers and to name the key
that it refers to. -/
def resolveReference (d : FieldDecl) (t : DataType) : Except FieldError (Option Reference) :=
  match d.dimension? with
  | none => .ok none
  | some dimension =>
    if t ≠ .int then .error (.foreignKeyType t)
    else match d.referenced? with
      | some key => .ok (some ⟨dimension, key⟩)
      | none => .error (.missingKey "foreign_key_field")

end FieldDecl

namespace Field

/-- The field of a declaration within a table. -/
def ofDecl (engine : PatternEngine) (table : String) (d : FieldDecl) : Except FieldError Field := do
  let dataType ← d.resolveType
  let default? ← d.resolveDefault dataType
  let validator? ← d.resolveValidator engine
  let operators ← d.resolveOperators dataType
  let reference? ← d.resolveReference dataType
  return { table, dataType, default?, validator?, operators, reference?
           name := d.name
           displayName := d.displayName?.getD d.name
           format := d.format?.getD dataType.defaultFormat
           editable := d.editable
           isKey := d.isKey
           visible := d.visible }

def column (f : Field) : Column where
  displayName := f.displayName
  dataType := f.dataType
  format := f.format
  editable := f.editable
  isKey := f.isKey
  expr := .column f.table f.name

/-- The filters that a field offers; none if it is hidden or the key. -/
def filters (f : Field) : List Filter :=
  if !f.visible || f.isKey then []
  else f.operators.map fun operator =>
    { operator, fieldName := f.displayName, dataType := f.dataType, subject := f.column.expr }

def foreignKey? (f : Field) : Option ForeignKey :=
  f.reference?.map fun r => { r with field := f }

end Field

end StarSchema
