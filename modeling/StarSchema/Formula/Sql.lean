import StarSchema.Formula.Eval
import StarSchema.Sql.Expr

/-!
# Formulas as SQL expressions

Evaluated over SQL expressions, a formula becomes one expression. SQL gives multiplication and
division precedence, so an operation that is the left operand of another one is put in
parentheses, and so is a group.

Main definition: the instance `Arithmetic Sql.Expr`.
-/

namespace StarSchema

def Operation.binaryOp : Operation → Sql.BinaryOp
  | .add => .plus
  | .sub => .minus
  | .mul => .times
  | .div => .divide

namespace Sql.Expr

/-- A literal zero, perhaps in parentheses. -/
def isLiteralZero : Expr → Bool
  | .literal (.float x) => x.isZero
  | .literal (.int n) => n == 0
  | .paren e => e.isLiteralZero
  | _ => false

/-- The expression in parentheses if it is an operation. -/
def grouped : Expr → Expr
  | .binary op left right => .paren (.binary op left right)
  | e => e

end Sql.Expr

instance : Arithmetic Sql.Expr where
  number := Sql.Expr.float
  apply op left right :=
    if op = .div ∧ right.isLiteralZero then .error .divisionByZero
    else .ok (.binary op.binaryOp left.grouped right)
  group := Sql.Expr.grouped

end StarSchema
