import StarSchema.Formula.Basic
import StarSchema.Binary64.Arith

/-!
# Evaluation of formulas

A formula can be evaluated wherever the four operations make sense: over numbers, over SQL
expressions, over an exact field. Operations apply from left to right whatever their signs, and
parentheses are the only grouping.

Main definitions: `Arithmetic`, `Formula.eval`, `EvaluationError`.
-/

namespace StarSchema

/-- Why a formula has no value. -/
inductive EvaluationError where
  | unknownOperand (name : String)
  | divisionByZero
deriving DecidableEq

def EvaluationError.message : EvaluationError → String
  | .unknownOperand name => "Unknown operand '" ++ name ++ "'"
  | .divisionByZero => "Division by zero"

/-- A domain in which formulas have values. -/
class Arithmetic (α : Type) where
  number : Binary64 → α
  apply : Operation → α → α → Except EvaluationError α
  /-- The value of a formula in parentheses. -/
  group : α → α

section

variable {α : Type} [Arithmetic α]

mutual

/-- The value of an operand, with fields looked up by name. -/
def Operand.eval (lookup : String → Option α) : Operand → Except EvaluationError α
  | .field name =>
    match lookup name with
    | some x => .ok x
    | none => .error (.unknownOperand name)
  | .number x => .ok (Arithmetic.number x)
  | .group f =>
    match f.eval lookup with
    | .ok x => .ok (Arithmetic.group x)
    | .error e => .error e

/-- The value of a formula, with fields looked up by name. A name without a value is an error
and not a zero. -/
def Formula.eval (lookup : String → Option α) : Formula → Except EvaluationError α
  | .pair a op b => do Arithmetic.apply op (← a.eval lookup) (← b.eval lookup)
  | .step f op b => do Arithmetic.apply op (← f.eval lookup) (← b.eval lookup)

end

end

/-- Double-precision arithmetic, in which division by either zero is an error. -/
instance : Arithmetic Binary64 where
  number x := x
  apply
    | .add, x, y => .ok (x.add y)
    | .sub, x, y => .ok (x.sub y)
    | .mul, x, y => .ok (x.mul y)
    | .div, x, y => if y.isZero then .error .divisionByZero else .ok (x.div y)
  group x := x

end StarSchema
