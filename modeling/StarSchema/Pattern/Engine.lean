import StarSchema.Pattern.Parser
import StarSchema.Validator

/-!
# The patterns of the program

The library of patterns that the program is run with. What is proved of models holds for every
library, and for this one as for any other.

Main definition: `Pattern.engine`.
-/

namespace StarSchema.Pattern

def engine : PatternEngine where
  Compiled := Pattern
  compile? source := read? source.toList
  isMatch p text := p.isMatch text.toList

end StarSchema.Pattern
