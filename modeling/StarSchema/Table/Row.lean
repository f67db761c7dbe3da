import StarSchema.Table.Basic

/-!
# Writing rows

Statements that add, change and remove rows. Cells align with the fields other than the key; each
is converted and validated before it is written.

Main definitions: `Table.insertRow`, `Table.updateRow`, `Table.deleteRow`, `RowError`.
-/

namespace StarSchema

/-- Why a cell is refused. -/
inductive CellError where
  | conversion (cause : ConversionError)
  | invalid (objection : String)
deriving DecidableEq

inductive RowError where
  | arityMismatch (table : String) (expected given : Nat)
  | inField (table field : String) (cause : CellError)
  | missingPrimaryKey (table : String)
  | readOnly (table : String)
  | nothingToUpdate (table : String)
deriving DecidableEq

def CellError.message : CellError → String
  | .conversion cause => cause.message
  | .invalid objection => objection

def RowError.message : RowError → String
  | .arityMismatch table expected given =>
    "Table " ++ quoteName table ++ " expects " ++ toString expected ++ " values, got " ++
      toString given
  | .inField table field cause => fieldPlace table field ++ ": " ++ cause.message
  | .missingPrimaryKey table => "Table " ++ quoteName table ++ ": a primary key value is required"
  | .readOnly table => "Table " ++ quoteName table ++ " is not editable"
  | .nothingToUpdate table => "Table " ++ quoteName table ++ " has no editable fields to update"

namespace Field

/-- The value that an input stands for in a new row: the default for null. -/
def coerce (f : Field) (input : Input) : Except ConversionError (Option Value) :=
  if input.isNull then .ok f.default? else convert f.dataType input

/-- The value of an input, if the validator of the field has no objection to it. -/
def accept (f : Field) (input : Input) : Except CellError (Option Value) := do
  let value? ← (f.coerce input).mapError .conversion
  match f.validator?.bind (·.objection? value?) with
  | some objection => throw (.invalid objection)
  | none => return value?

/-- The value as it is written. The foreign key zero refers to no row and is written as null. -/
def written? (f : Field) (value? : Option Value) : Option Value :=
  if f.reference?.isSome ∧ value? = some (.int 0) then none else value?

/-- The expression written for a cell. -/
def cell (f : Field) (input : Input) : Except CellError Sql.Expr := do
  return .ofValue? (f.written? (← f.accept input))

end Field

namespace Table

def requireEditable (t : Table) : Except RowError Unit :=
  if t.editable then .ok () else .error (.readOnly t.name)

/-- The expressions of a row. -/
def row (t : Table) (inputs : List Input) : Except RowError (List Sql.Expr) := do
  let fields := t.nonKeyFields
  if inputs.length ≠ fields.length then
    throw (.arityMismatch t.name fields.length inputs.length)
  (fields.zip inputs).mapM fun (field, input) =>
    (field.cell input).mapError (.inField t.name field.name)

/-- The condition that singles out the row of a key. -/
def keyPredicate (t : Table) (key : Input) : Except RowError Sql.Expr := do
  match ← (convert t.key.dataType key).mapError (.inField t.name t.key.name ∘ .conversion) with
  | some value => return .binary .eq (.column t.name t.key.name) (.ofValue value)
  | none => throw (.missingPrimaryKey t.name)

/-- The statement that adds a row. -/
def insertRow (t : Table) (inputs : List Input) : Except RowError Sql.Insert := do
  t.requireEditable
  let row ← t.row inputs
  return { table := t.name, columns := t.nonKeyFields.map (·.name), rows := [row] }

/-- The statement that writes the editable fields of the row of a key. -/
def updateRow (t : Table) (key : Input) (inputs : List Input) : Except RowError Sql.Update := do
  t.requireEditable
  if !t.nonKeyFields.any (·.editable) then throw (.nothingToUpdate t.name)
  let predicate ← t.keyPredicate key
  let row ← t.row inputs
  let set := ((t.nonKeyFields.zip row).filter (·.1.editable)).map fun (field, e) => (field.name, e)
  return { table := t.name, set, where? := some predicate }

/-- The statement that removes the row of a key. -/
def deleteRow (t : Table) (key : Input) : Except RowError Sql.Delete := do
  t.requireEditable
  return { table := t.name, where? := some (← t.keyPredicate key) }

end Table

end StarSchema
