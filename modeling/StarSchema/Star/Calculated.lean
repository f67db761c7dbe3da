import StarSchema.Catalog
import StarSchema.Formula.Sql
import StarSchema.Request

/-!
# Calculated fields

A calculated field of a fact is a number that a formula computes from fields known before it.

Main definitions: `CalculatedField`, `CalculatedField.ofDecl`.
-/

namespace StarSchema

structure CalculatedField where
  displayName : String
  shown : Bool
  visible : Bool
  default? : Option Value
  formula : Formula
  expr : Sql.Expr

namespace CalculatedField

/-- The calculated field of a declaration, where the names in its formula stand for the
expressions of other fields. -/
def ofDecl (operand? : String → Option Sql.Expr) (d : CalculatedDecl) :
    Except CompositionError.Cause CalculatedField := do
  let formula ← (Formula.parse d.formula).mapError .formula
  let expr ← (formula.eval operand?).mapError .evaluation
  let default? ← d.resolveDefault.mapError .conversion
  return { formula, expr, default?
           displayName := d.displayName
           shown := d.shown
           visible := d.visible }

def column (c : CalculatedField) : Column where
  displayName := c.displayName
  dataType := .float
  format := .float
  expr := c.expr

/-- A lower and an upper bound, unless the field is hidden. -/
def filters (c : CalculatedField) : List Filter :=
  if c.visible then
    [.ge, .le].map fun operator =>
      { operator, fieldName := c.displayName, dataType := .float, subject := c.expr }
  else []

end CalculatedField

end StarSchema
