import StarSchema.Formula.Eval
import StarSchema.Formula.Parser
import StarSchema.ModelError

/-!
# Faults of names and of composition

Main definitions: `ResolutionError` for a name that stands for nothing, `CompositionError` for a
star or view that cannot be composed.
-/

namespace StarSchema

inductive ResolutionError where
  | unknownTable (name : String)
  | unknownStar (name : String)
  | unknownView (name : String)
  | unknownDimension (field dimension : String)
  | unknownField (owner field : String)
  | unknownFilter (owner filter : String)
  | notLabelled (name : String)
deriving DecidableEq

def ResolutionError.message : ResolutionError → String
  | .unknownTable name => "Unknown table " ++ quoteName name
  | .unknownStar name => "Unknown star " ++ quoteName name
  | .unknownView name => "Unknown view " ++ quoteName name
  | .unknownDimension field dimension =>
    "Field " ++ quoteName field ++ " refers to unknown dimension " ++ quoteName dimension
  | .unknownField owner field => quoteName owner ++ " has no field " ++ quoteName field
  | .unknownFilter owner filter => quoteName owner ++ " has no filter " ++ quoteName filter
  | .notLabelled name => quoteName name ++ " is not a dimension or lookup table"

/-- Why a star or view cannot be composed. -/
inductive CompositionError.Cause where
  | resolution (cause : ResolutionError)
  | formula (cause : FormulaError)
  | evaluation (cause : EvaluationError)
  | conversion (cause : ConversionError)
deriving DecidableEq

/-- A star or view that cannot be composed, and the field at fault. -/
structure CompositionError where
  entity : String
  field? : Option String
  cause : CompositionError.Cause
deriving DecidableEq

namespace CompositionError

def Cause.message : Cause → String
  | .resolution cause => cause.message
  | .formula cause => cause.message
  | .evaluation cause => cause.message
  | .conversion cause => cause.message

def message (e : CompositionError) : String :=
  let place := match e.field? with
    | some field => " (field " ++ quoteName field ++ ")"
    | none => ""
  "Cannot compose " ++ quoteName e.entity ++ place ++ ": " ++ e.cause.message

/-- A name that is no field of its owner, wanted while an entity is composed. -/
def unknownField (entity owner field : String) : CompositionError :=
  ⟨entity, some field, .resolution (.unknownField owner field)⟩

end CompositionError

end StarSchema
