import StarSchema.Proofs.Formula.Value

/-!
# Which formulas have an expression

A formula has an expression just if every name in it stands for something and no operation divides
by a zero that is written out. Names stand for columns and for operations, which are not written-out
zeros, so this can be told from the formula and from which names are known.

Main definition: `Formula.dividesByZero`.

Main result: `Formula.exists_eval_iff`.
-/

namespace StarSchema

def Operand.isZero : Operand → Bool
  | .number x => x.isZero
  | _ => false

mutual

/-- Whether an operation in an operand divides by a written-out zero. -/
def Operand.dividesByZero : Operand → Bool
  | .group f => f.dividesByZero
  | _ => false

/-- Whether an operation in a formula divides by a written-out zero. -/
def Formula.dividesByZero : Formula → Bool
  | .pair x op y => x.dividesByZero || y.dividesByZero || op == .div && y.isZero
  | .step f op y => f.dividesByZero || y.dividesByZero || op == .div && y.isZero

end

open Sql (Expr)

variable {expr? : String → Option Expr}

theorem isLiteralZero_grouped (e : Expr) : e.grouped.isLiteralZero = e.isLiteralZero := by
  cases e <;> rfl

/-- The expression of a formula is an operation. -/
theorem Formula.isLiteralZero_eval {f : Formula} {e : Expr} (h : f.eval expr? = .ok e) :
    e.isLiteralZero = false := by
  cases f with
  | pair x op y =>
    obtain ⟨left, right, -, -, he⟩ := eval_pair_eq_ok_iff.mp h
    rw [(apply_eq_ok_iff.mp he).2]
    rfl
  | step f op y =>
    obtain ⟨left, right, -, -, he⟩ := eval_step_eq_ok_iff.mp h
    rw [(apply_eq_ok_iff.mp he).2]
    rfl

/-- The expression of an operand is a written-out zero just if the operand is. -/
theorem Operand.isLiteralZero_eval
    (names : ∀ name e, expr? name = some e → e.isLiteralZero = false) {x : Operand} {e : Expr}
    (h : x.eval expr? = .ok e) : e.isLiteralZero = x.isZero := by
  cases x with
  | field name => exact names name e (eval_field_eq_ok_iff.mp h)
  | number x =>
    rw [eval_number_eq_ok_iff.mp h]
    rfl
  | group f =>
    obtain ⟨inner, found, rfl⟩ := eval_group_eq_ok_iff.mp h
    show inner.grouped.isLiteralZero = false
    rw [isLiteralZero_grouped, Formula.isLiteralZero_eval found]

/-- An operation has an expression just if its operands have and it does not divide by a written-out
zero. -/
theorem exists_operation_iff {op : Operation} {left? right? : Except EvaluationError Expr}
    {zero : Bool} (isLiteralZero : ∀ right, right? = .ok right → right.isLiteralZero = zero) :
    (∃ e left right, left? = .ok left ∧ right? = .ok right ∧
        Arithmetic.apply op left right = .ok e) ↔
      (∃ left, left? = .ok left) ∧ (∃ right, right? = .ok right) ∧
        (op == .div && zero) = false := by
  have applies (left : Expr) {right : Expr} (h : right? = .ok right) :
      (∃ e, Arithmetic.apply op left right = .ok e) ↔ (op == .div && zero) = false := by
    simp only [apply_eq_ok_iff, exists_and_left, exists_eq, and_true, isLiteralZero right h]
    cases op <;> cases zero <;> decide
  constructor
  · rintro ⟨e, left, right, hleft, hright, he⟩
    exact ⟨⟨left, hleft⟩, ⟨right, hright⟩, (applies left hright).mp ⟨e, he⟩⟩
  · rintro ⟨⟨left, hleft⟩, ⟨right, hright⟩, nonzero⟩
    obtain ⟨e, he⟩ := (applies left hright).mpr nonzero
    exact ⟨e, left, right, hleft, hright, he⟩

mutual

theorem Operand.exists_eval_iff
    (names : ∀ name e, expr? name = some e → e.isLiteralZero = false) :
    ∀ x : Operand, (∃ e, x.eval expr? = .ok e) ↔
      (∀ name ∈ x.fields, (expr? name).isSome = true) ∧ x.dividesByZero = false
  | .field name => by
    simp only [Operand.eval_field_eq_ok_iff, Operand.fields, List.forall_mem_singleton,
      Option.isSome_iff_exists, Operand.dividesByZero, and_true]
  | .number x => by
    simp only [Operand.eval_number_eq_ok_iff, exists_eq, Operand.fields, List.not_mem_nil,
      false_implies, implies_true, Operand.dividesByZero, and_self]
  | .group f => by
    simp only [Operand.eval_group_eq_ok_iff, Operand.fields, Operand.dividesByZero]
    rw [← Formula.exists_eval_iff names f]
    exact ⟨fun ⟨_, e, h, _⟩ => ⟨e, h⟩, fun ⟨e, h⟩ => ⟨_, e, h, rfl⟩⟩

/-- **A formula has an expression** just if every name in it stands for something and no operation
divides by a written-out zero. -/
theorem Formula.exists_eval_iff
    (names : ∀ name e, expr? name = some e → e.isLiteralZero = false) :
    ∀ f : Formula, (∃ e, f.eval expr? = .ok e) ↔
      (∀ name ∈ f.fields, (expr? name).isSome = true) ∧ f.dividesByZero = false
  | .pair x op y => by
    simp only [Formula.eval_pair_eq_ok_iff]
    rw [exists_operation_iff fun _ => Operand.isLiteralZero_eval names,
      Operand.exists_eval_iff names x, Operand.exists_eval_iff names y]
    simp only [Formula.fields, List.forall_mem_append, Formula.dividesByZero, Bool.or_eq_false_iff]
    tauto
  | .step f op y => by
    simp only [Formula.eval_step_eq_ok_iff]
    rw [exists_operation_iff fun _ => Operand.isLiteralZero_eval names,
      Formula.exists_eval_iff names f, Operand.exists_eval_iff names y]
    simp only [Formula.fields, List.forall_mem_append, Formula.dividesByZero, Bool.or_eq_false_iff]
    tauto

end

end StarSchema
