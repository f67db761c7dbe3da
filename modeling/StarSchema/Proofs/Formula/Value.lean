import Mathlib.Algebra.Field.Basic
import StarSchema.Formula.Sql
import StarSchema.Proofs.Traversal

/-!
# Exact values

Formulas and the expressions that they become, computed without rounding. The numbers are those of
any division ring, and both sides are partial in the same way: there is no value where a divisor is
zero.

Main definitions: `Assignment`, `Operation.onValues`, `Sql.Expr.value`, `Formula.value`.

Main results: `Formula.eval_pair_eq_ok_iff` and its like, which take a successful evaluation apart,
and `Formula.value_eval`.
-/

namespace StarSchema

/-! ### Evaluations that succeed -/

section

variable {α : Type} [Arithmetic α] {lookup : String → Option α} {v : α}

theorem Operand.eval_field_eq_ok_iff {name : String} :
    (Operand.field name).eval lookup = .ok v ↔ lookup name = some v := by
  rw [Operand.eval]
  cases lookup name with
  | none => simp
  | some x => simp

theorem Operand.eval_number_eq_ok_iff {x : Binary64} :
    (Operand.number x).eval lookup = .ok v ↔ v = Arithmetic.number x := by
  rw [Operand.eval, Except.ok.injEq, eq_comm]

theorem Operand.eval_group_eq_ok_iff {f : Formula} :
    (Operand.group f).eval lookup = .ok v ↔
      ∃ x, f.eval lookup = .ok x ∧ v = Arithmetic.group x := by
  rw [Operand.eval]
  cases f.eval lookup with
  | error e => simp
  | ok x => simp [eq_comm]

theorem Formula.eval_pair_eq_ok_iff {x : Operand} {op : Operation} {y : Operand} :
    (Formula.pair x op y).eval lookup = .ok v ↔
      ∃ left right, x.eval lookup = .ok left ∧ y.eval lookup = .ok right ∧
        Arithmetic.apply op left right = .ok v := by
  simp only [Formula.eval, bind_eq_ok_iff, exists_and_left]

theorem Formula.eval_step_eq_ok_iff {f : Formula} {op : Operation} {y : Operand} :
    (Formula.step f op y).eval lookup = .ok v ↔
      ∃ left right, f.eval lookup = .ok left ∧ y.eval lookup = .ok right ∧
        Arithmetic.apply op left right = .ok v := by
  simp only [Formula.eval, bind_eq_ok_iff, exists_and_left]

end

/-! ### Numbers -/

/-- Exact numbers for the doubles of a formula and for the columns of a row. -/
structure Assignment (K : Type) where
  number : Binary64 → K
  column (table column : String) : K

variable {K : Type} [DivisionRing K] [DecidableEq K]

/-! ### Operations -/

def Operation.result? : Operation → K → K → Option K
  | .add, x, y => some (x + y)
  | .sub, x, y => some (x - y)
  | .mul, x, y => some (x * y)
  | .div, x, y => if y = 0 then none else some (x / y)

/-- The operation on operands that need not have a value. -/
def Operation.onValues (op : Operation) (x? y? : Option K) : Option K :=
  x?.bind fun x => y?.bind fun y => op.result? x y

def Sql.BinaryOp.operation? : Sql.BinaryOp → Option Operation
  | .plus => some .add
  | .minus => some .sub
  | .times => some .mul
  | .divide => some .div
  | _ => none

@[simp]
theorem Operation.operation?_binaryOp (op : Operation) : op.binaryOp.operation? = some op := by
  cases op <;> rfl

/-- The value of an expression; a group has the value of what is in it. -/
def Sql.Expr.value (a : Assignment K) : Sql.Expr → Option K
  | .column t c => some (a.column t c)
  | .literal (.float x) => some (a.number x)
  | .literal (.int n) => some n.toInt
  | .binary op left right =>
    op.operation?.bind fun op => op.onValues (left.value a) (right.value a)
  | .paren e => e.value a
  | _ => none

@[simp]
theorem Sql.Expr.value_binary (a : Assignment K) (op : Operation) (left right : Sql.Expr) :
    (Sql.Expr.binary op.binaryOp left right).value a =
      op.onValues (left.value a) (right.value a) := by
  rw [Sql.Expr.value, Operation.operation?_binaryOp]
  rfl

@[simp]
theorem Sql.Expr.value_grouped (a : Assignment K) (e : Sql.Expr) :
    e.grouped.value a = e.value a := by
  cases e <;> simp [Sql.Expr.grouped, Sql.Expr.value]

/-! ### Formulas -/

/-- Exact arithmetic, in which division by zero is an error. -/
abbrev Assignment.arithmetic (a : Assignment K) : Arithmetic K where
  number := a.number
  apply op x y :=
    match op.result? x y with
    | some z => .ok z
    | none => .error .divisionByZero
  group x := x

/-- The value of a formula, strictly from left to right, where names stand for given values. -/
def Formula.value (a : Assignment K) (lookup : String → Option K) (f : Formula) : Option K :=
  (@Formula.eval K a.arithmetic lookup f).toOption

def Operand.value (a : Assignment K) (lookup : String → Option K) (o : Operand) : Option K :=
  (@Operand.eval K a.arithmetic lookup o).toOption

section

variable (a : Assignment K) (lookup : String → Option K)

@[simp]
theorem Operand.value_field (name : String) :
    (Operand.field name).value a lookup = lookup name := by
  unfold Operand.value Operand.eval
  cases lookup name <;> rfl

@[simp]
theorem Operand.value_number (x : Binary64) :
    (Operand.number x).value a lookup = some (a.number x) := by
  unfold Operand.value Operand.eval
  rfl

@[simp]
theorem Operand.value_group (f : Formula) :
    (Operand.group f).value a lookup = f.value a lookup := by
  unfold Operand.value Formula.value Operand.eval
  cases @Formula.eval K a.arithmetic lookup f <;> rfl

theorem toOption_apply (op : Operation) (x y : Except EvaluationError K) :
    (do a.arithmetic.apply op (← x) (← y)).toOption = op.onValues x.toOption y.toOption := by
  cases x with
  | error e => rfl
  | ok x =>
    cases y with
    | error e => rfl
    | ok y =>
      show (a.arithmetic.apply op x y).toOption = op.result? x y
      rw [Assignment.arithmetic]
      dsimp only
      cases op.result? x y <;> rfl

@[simp]
theorem Formula.value_pair (x : Operand) (op : Operation) (y : Operand) :
    (Formula.pair x op y).value a lookup = op.onValues (x.value a lookup) (y.value a lookup) := by
  let arithmetic := a.arithmetic
  have eval : (Formula.pair x op y).eval lookup =
      (do Arithmetic.apply op (← x.eval lookup) (← y.eval lookup)) := by rw [Formula.eval]
  exact (congrArg Except.toOption eval).trans (toOption_apply a op _ _)

@[simp]
theorem Formula.value_step (f : Formula) (op : Operation) (y : Operand) :
    (Formula.step f op y).value a lookup = op.onValues (f.value a lookup) (y.value a lookup) := by
  let arithmetic := a.arithmetic
  have eval : (Formula.step f op y).eval lookup =
      (do Arithmetic.apply op (← f.eval lookup) (← y.eval lookup)) := by rw [Formula.eval]
  exact (congrArg Except.toOption eval).trans (toOption_apply a op _ _)

end

/-! ### Expressions of formulas -/

/-- What an operation on expressions is, where it is not a division by a literal zero. -/
theorem apply_eq_ok_iff {op : Operation} {left right e : Sql.Expr} :
    Arithmetic.apply op left right = .ok e ↔
      ¬(op = .div ∧ right.isLiteralZero) ∧ e = .binary op.binaryOp left.grouped right := by
  show (if op = .div ∧ right.isLiteralZero then
    Except.error EvaluationError.divisionByZero
    else .ok (.binary op.binaryOp left.grouped right)) = .ok e ↔ _
  by_cases zero : op = .div ∧ right.isLiteralZero = true
  · rw [if_pos zero]
    exact ⟨fun h => (nomatch h), fun h => absurd zero h.1⟩
  · rw [if_neg zero, Except.ok.injEq, eq_comm]
    exact ⟨fun h => ⟨zero, h⟩, fun h => h.2⟩

variable {a : Assignment K} {lookup : String → Option K} {expr? : String → Option Sql.Expr}

mutual

theorem Operand.value_eval (h : ∀ name e, expr? name = some e → e.value a = lookup name) :
    ∀ (o : Operand) {e : Sql.Expr}, o.eval expr? = .ok e → e.value a = o.value a lookup
  | .field name, e, he => by
    rw [Operand.value_field]
    exact h name e (Operand.eval_field_eq_ok_iff.mp he)
  | .number x, e, he => by
    obtain rfl := Operand.eval_number_eq_ok_iff.mp he
    rw [Operand.value_number]
    rfl
  | .group f, e, he => by
    obtain ⟨e', found, rfl⟩ := Operand.eval_group_eq_ok_iff.mp he
    rw [Operand.value_group, ← Formula.value_eval h f found]
    exact Sql.Expr.value_grouped a e'

/-- **A formula and its expression have the same value**, if the names in it have. -/
theorem Formula.value_eval (h : ∀ name e, expr? name = some e → e.value a = lookup name) :
    ∀ (f : Formula) {e : Sql.Expr}, f.eval expr? = .ok e → e.value a = f.value a lookup
  | .pair x op y, e, he => by
    obtain ⟨left, right, hleft, hright, he⟩ := Formula.eval_pair_eq_ok_iff.mp he
    obtain ⟨-, rfl⟩ := apply_eq_ok_iff.mp he
    rw [Formula.value_pair, Sql.Expr.value_binary, Sql.Expr.value_grouped,
      Operand.value_eval h x hleft, Operand.value_eval h y hright]
  | .step f op y, e, he => by
    obtain ⟨left, right, hleft, hright, he⟩ := Formula.eval_step_eq_ok_iff.mp he
    obtain ⟨-, rfl⟩ := apply_eq_ok_iff.mp he
    rw [Formula.value_step, Sql.Expr.value_binary, Sql.Expr.value_grouped,
      Formula.value_eval h f hleft, Operand.value_eval h y hright]

end

end StarSchema
