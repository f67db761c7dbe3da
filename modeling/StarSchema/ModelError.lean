import StarSchema.Validator
import StarSchema.Value.Convert

/-!
# Faults of declarations

Why a declaration that can be read is still no model.

Main definitions: `FieldError`, `ModelError`, `ModelError.message`.
-/

namespace StarSchema

/-- What is wrong with the declaration of one field. -/
inductive FieldError where
  | missingKey (key : String)
  | invalidDefault (cause : ConversionError)
  | invalidValidator (cause : ValidatorError)
  | invalidOperator (op : Operator) (dataType : DataType)
  | foreignKeyType (dataType : DataType)
deriving DecidableEq

inductive ModelError where
  | inField (table field : String) (cause : FieldError)
  | missingPrimaryKey (table : String)
  | multiplePrimaryKeys (table : String) (fields : List String)
  | duplicateField (table field : String)
  | duplicateTable (table : String)
  | unknownField (table field : String)
  | notAForeignKey (lookup field : String)
  | lookupSameDimension (lookup dimension : String)
  | invalidAggregate (view column function : String)
  | unknownFact (view fact : String)
deriving DecidableEq

/-- A name between single quotes. -/
def quoteName (name : String) : String :=
  "'" ++ name ++ "'"

/-- The place of a fault in a field. -/
def fieldPlace (table field : String) : String :=
  "Table " ++ quoteName table ++ ", field " ++ quoteName field

def FieldError.message : FieldError → String
  | .missingKey key => "missing required key " ++ quoteName key
  | .invalidDefault cause => "invalid default value: " ++ cause.message
  | .invalidValidator cause => "invalid validator: " ++ cause.message
  | .invalidOperator op dataType =>
    "operator " ++ quoteName op.name ++ " does not apply to " ++ dataType.name
  | .foreignKeyType dataType => "foreign keys must be int, not " ++ dataType.name

def ModelError.message : ModelError → String
  | .inField table field cause => fieldPlace table field ++ ": " ++ cause.message
  | .missingPrimaryKey table => "Table " ++ quoteName table ++ " has no primary key field"
  | .multiplePrimaryKeys table fields =>
    "Table " ++ quoteName table ++ " has more than one primary key field: " ++
      ", ".intercalate fields
  | .duplicateField table field =>
    "Table " ++ quoteName table ++ " declares field " ++ quoteName field ++ " more than once"
  | .duplicateTable table => "Table " ++ quoteName table ++ " is declared more than once"
  | .unknownField table field =>
    "Table " ++ quoteName table ++ " references unknown field " ++ quoteName field
  | .notAForeignKey lookup field =>
    "Lookup table " ++ quoteName lookup ++ ": " ++ quoteName field ++ " is not a foreign key"
  | .lookupSameDimension lookup dimension =>
    "Lookup table " ++ quoteName lookup ++ ": both foreign keys point at dimension " ++
      quoteName dimension
  | .invalidAggregate view column function =>
    "View " ++ quoteName view ++ ": unsupported aggregate " ++ quoteName function ++ " for " ++
      quoteName column ++ " (expected count, avg or sum)"
  | .unknownFact view fact =>
    "View " ++ quoteName view ++ " refers to unknown fact " ++ quoteName fact

end StarSchema
