import StarSchema.Execution
import StarSchema.Resolution

/-!
# Faults of requests

Main definition: `RequestError`, why a request to a model has no answer.
-/

namespace StarSchema

inductive RequestError where
  | resolution (cause : ResolutionError)
  | composition (cause : CompositionError)
  | conversion (cause : ConversionError)
  | execution (cause : ExecutionError)
deriving DecidableEq

def RequestError.message : RequestError → String
  | .resolution cause => cause.message
  | .composition cause => cause.message
  | .conversion cause => cause.message
  | .execution cause => cause.message

end StarSchema
