import Mathlib.Tactic.SplitIfs
import StarSchema.Proofs.Formula.Value
import StarSchema.Proofs.Sql.Arithmetic

/-!
# What the text of a formula means

An expression is written without the parentheses of its tree, and read from left to right. A left
operand that is an operation stands in parentheses; a right operand may be an operation that does
not, and then the reader groups the chain anew. Whether that changes the value depends on the two
operators alone, and here it is settled for which pairs it does not.

## The invariant

What stands before an operand is a sum that waits for its next term, and within that term a product
that waits for its next factor; either may be missing. Reading an expression there gives it to the
product, and the product to the sum.

Main definitions: `Operation.keeps`, `Sql.Expr.isFaithful`, `Formula.isFaithful`, `Sql.Before`.

Main results: `Sql.Expr.value_reread`, `Formula.computed_eval`, `Formula.isFaithful_eval`.
-/

namespace StarSchema

variable {K : Type} [DivisionRing K] [DecidableEq K]

/-! ### Pairs of operators -/

/-- Whether the value of `x op (y op' z)` is that of the same text without parentheses. -/
def Operation.keeps : Operation → Operation → Bool
  | .add, _ => true
  | .sub, op | .mul, op => op == .mul || op == .div
  | .div, _ => false

def Operation.level (op : Operation) : Nat :=
  op.binaryOp.level

theorem Operation.onValues_none_right (op : Operation) (x? : Option K) :
    op.onValues x? none = none := by
  cases x? <;> rfl

/-- Operators that bind equally may be worked out in either order, if the first keeps the second. -/
theorem Operation.onValues_onValues {op op' : Operation} (keeps : op.keeps op' = true)
    (same : op.level = op'.level) (x? y? z? : Option K) :
    op.onValues x? (op'.onValues y? z?) = op'.onValues (op.onValues x? y?) z? := by
  match x?, y?, z? with
  | none, _, _ => rfl
  | some x, none, _ =>
    rw [onValues_none_right]
    rfl
  | some x, some y, none => rw [onValues_none_right, onValues_none_right, onValues_none_right]
  | some x, some y, some z =>
    cases op with
    | add =>
      cases op' with
      | add => exact congrArg some (add_assoc x y z).symm
      | sub => exact congrArg some (add_sub_assoc x y z).symm
      | mul | div => cases same
    | mul =>
      cases op' with
      | mul => exact congrArg some (mul_assoc x y z).symm
      | div =>
        by_cases zero : z = 0
        · simp [onValues, result?, zero]
        · simp [onValues, result?, zero, mul_div_assoc]
      | add | sub => cases same
    | sub => cases op' <;> first | cases keeps; done | cases same
    | div => cases keeps

namespace Sql

/-- The operation that an expression is, unless it is in parentheses. -/
def Expr.operation? : Expr → Option Operation
  | .binary op _ _ => op.operation?
  | _ => none

/-- Whether every right operand that is an operation without parentheses may stand there without
them. -/
def Expr.isFaithful : Expr → Bool
  | .binary op left right =>
    left.isFaithful && right.isFaithful &&
      op.operation?.all fun o => right.operation?.all o.keeps
  | .paren e => e.isFaithful
  | _ => true

theorem Expr.isFaithful_binary (op : Operation) (left right : Expr) :
    (Expr.binary op.binaryOp left right).isFaithful =
      (left.isFaithful && right.isFaithful && right.operation?.all op.keeps) := by
  rw [Expr.isFaithful, Operation.operation?_binaryOp]
  rfl

theorem Expr.isFaithful_grouped (e : Expr) : e.grouped.isFaithful = e.isFaithful := by
  cases e <;> rfl

/-! ### Attaching -/

/-- An expression whose outermost operator, if it has one, binds at least as tightly as a level. -/
def Expr.Binds (level : Nat) : Expr → Prop
  | .binary op _ _ => level ≤ op.level
  | _ => True

theorem Expr.attach_of_binds {e : Expr} {op : BinaryOp} (h : e.Binds op.level) (x : Expr) :
    e.attach op x = .binary op e x := by
  cases e with
  | binary op' l r => rw [Expr.attach, if_neg (Nat.not_lt.mpr h)]
  | _ => rfl

theorem Expr.attach_binary {op op' : BinaryOp} (h : op'.level < op.level) (l u x : Expr) :
    (Expr.binary op' l u).attach op x = .binary op' l (u.attach op x) := by
  rw [Expr.attach, if_pos h]

/-! ### Before an operand -/

/-- What stands before an operand: a sum with the operator of its next term, and the part of that
term which has been read with the operator of its next factor. -/
structure Before where
  sum? : Option (Expr × Operation)
  term? : Option (Expr × Operation)
  sum_binds : ∀ s ∈ sum?, s.1.Binds s.2.level ∧ s.2.level = 3
  term_binds : ∀ t ∈ term?, t.1.Binds t.2.level ∧ t.2.level = 4

namespace Before

/-- The term after the sum, if there is one. -/
def addTo : Option (Expr × Operation) → Expr → Expr
  | none, e => e
  | some (s, op), e => .binary op.binaryOp s e

/-- As the reader holds it. -/
def pending (b : Before) : Pending :=
  match b.term? with
  | some (t, op) => some (addTo b.sum? t, op.binaryOp)
  | none => b.sum?.map fun (s, op) => (s, op.binaryOp)

/-- The operator next to the operand. -/
def last? (b : Before) : Option Operation :=
  (b.term?.or b.sum?).map (·.2)

def giveTo (a : Assignment K) : Option (Expr × Operation) → Option K → Option K
  | none, v => v
  | some (e, op), v => op.onValues (e.value a) v

/-- The value of the whole, given that of the operand. -/
def value (a : Assignment K) (b : Before) (v : Option K) : Option K :=
  giveTo a b.sum? (giveTo a b.term? v)

theorem value_addTo (a : Assignment K) (p : Option (Expr × Operation)) (e : Expr) :
    (addTo p e).value a = giveTo a p (e.value a) := by
  match p with
  | none => rfl
  | some (s, op) => exact Expr.value_binary a op s e

/-- An operand without an operator of its own goes to the product, and that to the sum. -/
theorem complete_pending (b : Before) (e : Expr) :
    b.pending.complete e = addTo b.sum? (addTo b.term? e) := by
  obtain ⟨sum?, term?, sum_binds, term_binds⟩ := b
  match term?, sum? with
  | none, none => rfl
  | none, some (s, op) => exact Expr.attach_of_binds (sum_binds _ rfl).1 e
  | some (t, op), none => exact Expr.attach_of_binds (term_binds _ rfl).1 e
  | some (t, op), some (s, op') =>
    obtain ⟨binds, level⟩ := term_binds _ rfl
    obtain ⟨-, lower⟩ := sum_binds _ rfl
    have inside := Expr.attach_of_binds binds e
    have descends : op'.level < op.level := by
      dsimp only at level lower
      omega
    exact (Expr.attach_binary descends s t e).trans (congrArg _ inside)

theorem binds_addTo_term (b : Before) {e : Expr} (single : e.grouped = e) :
    (addTo b.term? e).Binds 4 := by
  obtain ⟨sum?, term?, sum_binds, term_binds⟩ := b
  match term? with
  | none =>
    cases e with
    | binary => cases single
    | _ => trivial
  | some (t, op) => exact (term_binds _ rfl).2.ge

theorem binds_addTo_sum (b : Before) {e : Expr} (single : e.Binds 4) :
    (addTo b.sum? e).Binds 3 := by
  obtain ⟨sum?, term?, sum_binds, term_binds⟩ := b
  match sum? with
  | none =>
    cases e with
    | binary op l r => exact Nat.le_of_succ_le single
    | _ => trivial
  | some (s, op) => exact (sum_binds _ rfl).2.ge

theorem level_eq (op : Operation) : op.level = 3 ∨ op.level = 4 := by
  cases op <;> decide

/-- An operator keeps none that binds less tightly. -/
theorem level_le_of_keeps {op op' : Operation} (h : op.keeps op' = true) :
    op.level ≤ op'.level := by
  cases op <;> cases op' <;> first | decide | cases h

/-- An operation on the next operand may be worked out before or after what waits for it, if the
two operators bind equally. -/
theorem giveTo_onValues (a : Assignment K) {p : Option (Expr × Operation)} {op : Operation}
    (h : ∀ s ∈ p, s.2.keeps op = true ∧ s.2.level = op.level) (u? v? : Option K) :
    op.onValues (giveTo a p u?) v? = giveTo a p (op.onValues u? v?) := by
  match p with
  | none => rfl
  | some (s, o) =>
    obtain ⟨keeps, same⟩ := h _ rfl
    exact (Operation.onValues_onValues keeps same _ _ _).symm

/-- What stands before the operand after next, once an operand and an operator have been read. -/
theorem exists_next (b : Before) {e : Expr} (single : e.grouped = e)
    {op : Operation} (keeps : ∀ o ∈ b.last?, o.keeps op = true) :
    ∃ b' : Before, b'.pending = some (b.pending.complete e, op.binaryOp) ∧
      b'.last? = some op ∧
      ∀ (a : Assignment K) v?, b'.value a v? = b.value a (op.onValues (e.value a) v?) := by
  have term_binds := b.binds_addTo_term single
  have sum_binds := b.binds_addTo_sum term_binds
  rw [complete_pending]
  rcases level_eq op with level | level
  · refine ⟨⟨some (addTo b.sum? (addTo b.term? e), op), none, ?_, by simp⟩, rfl, rfl, ?_⟩
    · rintro s ⟨⟩
      exact ⟨level ▸ sum_binds, level⟩
    · intro a v?
      have noTerm : b.term? = none := by
        cases found : b.term? with
        | none => rfl
        | some t =>
          -- a product would not keep a sum or difference
          have high := (b.term_binds t found).2
          have low := level_le_of_keeps (keeps t.2 (by simp [last?, found]))
          omega
      have sumKeeps : ∀ s ∈ b.sum?, s.2.keeps op = true ∧ s.2.level = op.level := fun s hs =>
        ⟨keeps s.2 (by simp [last?, noTerm, Option.mem_def.mp hs]),
          (b.sum_binds s hs).2.trans level.symm⟩
      have total := giveTo_onValues a sumKeeps (e.value a) v?
      rw [← value_addTo] at total
      show op.onValues ((addTo b.sum? (addTo b.term? e)).value a) v? =
        giveTo a b.sum? (giveTo a b.term? (op.onValues (e.value a) v?))
      rw [noTerm]
      exact total
  · refine ⟨⟨b.sum?, some (addTo b.term? e, op), b.sum_binds, ?_⟩, rfl, rfl, ?_⟩
    · rintro t ⟨⟩
      exact ⟨level ▸ term_binds, level⟩
    · intro a v?
      have termKeeps : ∀ t ∈ b.term?, t.2.keeps op = true ∧ t.2.level = op.level := fun t ht =>
        ⟨keeps t.2 (by simp [last?, Option.mem_def.mp ht]),
          (b.term_binds t ht).2.trans level.symm⟩
      have product := giveTo_onValues a termKeeps (e.value a) v?
      rw [← value_addTo] at product
      exact congrArg (giveTo a b.sum?) product

/-- Nothing stands before the operand. -/
def nothing : Before :=
  ⟨none, none, by simp, by simp⟩

end Before

/-! ### Reading keeps the value -/

/-- An operand without an operator of its own is read alone. -/
theorem Expr.reread_of_single {e : Expr} (single : e.grouped = e) (before : Pending) :
    e.reread before = before.complete (e.reread none) ∧
      (e.reread none).grouped = e.reread none := by
  cases e with
  | binary => cases single
  | _ => exact ⟨rfl, rfl⟩

/-- **A faithful expression is read with its value**, wherever it stands. -/
theorem Expr.value_reread {e : Expr} (computed : e.Computed) (faithful : e.isFaithful = true)
    (a : Assignment K) (b : Before)
    (keeps : ∀ o ∈ b.last?, ∀ o' ∈ e.operation?, o.keeps o' = true) :
    (e.reread b.pending).value a = b.value a (e.value a) := by
  have read_single (b : Before) (e : Expr) :
      (b.pending.complete e).value a = b.value a (e.value a) := by
    rw [b.complete_pending, Before.value_addTo, Before.value_addTo]
    rfl
  induction computed generalizing b with
  | column t c => exact read_single b (.column t c)
  | float finite => exact read_single b _
  | operation op single hleft hright left_ih right_ih =>
    rw [Expr.isFaithful_binary, Bool.and_eq_true, Bool.and_eq_true] at faithful
    obtain ⟨⟨left_faithful, right_faithful⟩, kept⟩ := faithful
    obtain ⟨alone, single'⟩ := Expr.reread_of_single single b.pending
    have left_value := left_ih left_faithful Before.nothing (by simp [Before.nothing, Before.last?])
    have keeps_op (o : Operation) (ho : o ∈ b.last?) : o.keeps op = true :=
      keeps o ho op (Operation.operation?_binaryOp op)
    obtain ⟨b', pending, last, next⟩ := @Before.exists_next K _ _ b _ single' op keeps_op
    have right_value := right_ih right_faithful b' fun o ho o' ho' => by
      rw [last] at ho
      cases ho
      rw [Option.mem_def.mp ho'] at kept
      exact kept
    rw [Expr.reread, alone, ← pending, right_value, next, Expr.value_binary]
    exact congrArg (b.value a ∘ (op.onValues · _)) left_value
  | paren he ih =>
    rw [Expr.isFaithful] at faithful
    have inside := ih faithful Before.nothing (by simp [Before.nothing, Before.last?])
    rw [Expr.reread, read_single]
    exact congrArg (b.value a) inside

/-- A faithful expression with nothing before it is read with its value. -/
theorem Expr.value_reread_none {e : Expr} (computed : e.Computed) (faithful : e.isFaithful = true)
    (a : Assignment K) : (e.reread none).value a = e.value a :=
  e.value_reread computed faithful a Before.nothing (by simp [Before.nothing, Before.last?])

end Sql

/-! ### What formulas become -/

variable {expr? : String → Option Sql.Expr}

theorem computed_grouped {e : Sql.Expr} (h : e.Computed) : e.grouped.Computed := by
  cases h with
  | operation op single hleft hright => exact .paren (.operation op single hleft hright)
  | column t c => exact .column t c
  | float finite => exact .float finite
  | paren he => exact .paren he

theorem grouped_grouped (e : Sql.Expr) : e.grouped.grouped = e.grouped := by
  cases e <;> rfl

mutual

theorem Operand.computed_eval (h : ∀ name e, expr? name = some e → e.Computed) :
    ∀ (o : Operand) {e : Sql.Expr}, o.isFinite = true → o.eval expr? = .ok e → e.Computed
  | .field name, e, _, he => h name e (Operand.eval_field_eq_ok_iff.mp he)
  | .number x, e, finite, he => by
    obtain rfl := Operand.eval_number_eq_ok_iff.mp he
    exact .float finite
  | .group f, e, finite, he => by
    obtain ⟨e', found, rfl⟩ := Operand.eval_group_eq_ok_iff.mp he
    exact computed_grouped (Formula.computed_eval h f finite found)

/-- The expression of a formula is one that the reader can take apart. -/
theorem Formula.computed_eval (h : ∀ name e, expr? name = some e → e.Computed) :
    ∀ (f : Formula) {e : Sql.Expr}, f.isFinite = true → f.eval expr? = .ok e → e.Computed
  | .pair x op y, e, finite, he => by
    rw [Formula.isFinite, Bool.and_eq_true] at finite
    obtain ⟨left, right, hleft, hright, he⟩ := Formula.eval_pair_eq_ok_iff.mp he
    obtain ⟨-, rfl⟩ := apply_eq_ok_iff.mp he
    exact .operation op (grouped_grouped left)
      (computed_grouped (Operand.computed_eval h x finite.1 hleft))
      (Operand.computed_eval h y finite.2 hright)
  | .step f op y, e, finite, he => by
    rw [Formula.isFinite, Bool.and_eq_true] at finite
    obtain ⟨left, right, hleft, hright, he⟩ := Formula.eval_step_eq_ok_iff.mp he
    obtain ⟨-, rfl⟩ := apply_eq_ok_iff.mp he
    exact .operation op (grouped_grouped left)
      (computed_grouped (Formula.computed_eval h f finite.1 hleft))
      (Operand.computed_eval h y finite.2 hright)

end

/-! ### Where an operation stands without parentheses

A group is in parentheses, and so is an operation on the left; only a name can put an operation
without parentheses on the right. -/

/-- Whether the operator may stand before the operand as it is written. -/
def Operation.keepsOperand (op : Operation) (expr? : String → Option Sql.Expr) : Operand → Bool
  | .field name => (expr? name).all fun e => e.operation?.all op.keeps
  | _ => true

mutual

def Operand.isFaithful (expr? : String → Option Sql.Expr) : Operand → Bool
  | .field name => (expr? name).all Sql.Expr.isFaithful
  | .number _ => true
  | .group f => f.isFaithful expr?

/-- Whether every name in the formula stands for a faithful expression, and on the right of an
operator only for one that the operator keeps. -/
def Formula.isFaithful (expr? : String → Option Sql.Expr) : Formula → Bool
  | .pair x op y => x.isFaithful expr? && y.isFaithful expr? && op.keepsOperand expr? y
  | .step f op y => f.isFaithful expr? && y.isFaithful expr? && op.keepsOperand expr? y

end

/-- An operator keeps the expression of an operand just if it keeps the operand. -/
theorem keepsOperand_eq (op : Operation) {y : Operand} {right : Sql.Expr}
    (h : y.eval expr? = .ok right) :
    op.keepsOperand expr? y = right.operation?.all op.keeps := by
  cases y with
  | field name =>
    rw [Operation.keepsOperand, Operand.eval_field_eq_ok_iff.mp h]
    rfl
  | number x =>
    obtain rfl := Operand.eval_number_eq_ok_iff.mp h
    rfl
  | group f =>
    obtain ⟨e, -, rfl⟩ := Operand.eval_group_eq_ok_iff.mp h
    cases e <;> rfl

mutual

theorem Operand.isFaithful_eval :
    ∀ (x : Operand) {e : Sql.Expr}, x.eval expr? = .ok e → e.isFaithful = x.isFaithful expr?
  | .field name, e, h => by
    rw [Operand.isFaithful, Operand.eval_field_eq_ok_iff.mp h]
    rfl
  | .number x, e, h => by
    obtain rfl := Operand.eval_number_eq_ok_iff.mp h
    rw [Operand.isFaithful]
    rfl
  | .group f, e, h => by
    obtain ⟨e', found, rfl⟩ := Operand.eval_group_eq_ok_iff.mp h
    rw [Operand.isFaithful, ← Formula.isFaithful_eval f found]
    exact e'.isFaithful_grouped

/-- The expression of a formula is faithful just if the formula is. -/
theorem Formula.isFaithful_eval :
    ∀ (f : Formula) {e : Sql.Expr}, f.eval expr? = .ok e → e.isFaithful = f.isFaithful expr?
  | .pair x op y, e, h => by
    obtain ⟨left, right, hleft, hright, h⟩ := Formula.eval_pair_eq_ok_iff.mp h
    obtain ⟨-, rfl⟩ := apply_eq_ok_iff.mp h
    rw [Formula.isFaithful, Sql.Expr.isFaithful_binary, Sql.Expr.isFaithful_grouped,
      Operand.isFaithful_eval x hleft, Operand.isFaithful_eval y hright,
      keepsOperand_eq op hright]
  | .step f op y, e, h => by
    obtain ⟨left, right, hleft, hright, h⟩ := Formula.eval_step_eq_ok_iff.mp h
    obtain ⟨-, rfl⟩ := apply_eq_ok_iff.mp h
    rw [Formula.isFaithful, Sql.Expr.isFaithful_binary, Sql.Expr.isFaithful_grouped,
      Formula.isFaithful_eval f hleft, Operand.isFaithful_eval y hright,
      keepsOperand_eq op hright]

end

end StarSchema
