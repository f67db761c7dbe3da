import StarSchema.Proofs.Formula.Value
import StarSchema.Proofs.Value.Integer

/-!
# Formulas over any numbers

A formula can be worked out over numbers, or turned into an SQL expression that is then worked out
by its tree. The two ways give the same number, whatever the numbers are: nothing is assumed of
their operations, and of their zero test only that it finds the literal zeros.

The two ways do not notice a division by zero at the same time. Over expressions a formula fails at
a literal zero only; a divisor that turns out to be zero leaves an expression without a value. So
the two are related by what can come of both (`Formula.Agrees`), and each step of an evaluation
keeps that relation.

Main definitions: `NumberDomain`, `Sql.Expr.valueIn`, `Formula.evalIn`, `Formula.Agrees`.

Main results: `Formula.agrees_eval`, `Formula.evalIn_eq_ok_iff_valueIn`. Double-precision evaluation
and the exact values of `Sql.Expr.value` are two instances: `Formula.evalIn_doubles`,
`Sql.Expr.valueIn_ofDivisionRing`.
-/

namespace StarSchema

open Sql (Expr)

theorem Binary64.value_of_isZero {x : Binary64} (h : x.isZero = true) : x.value = 0 := by
  cases x with
  | nan | infinity => rfl
  | finite negative m e canonical =>
    obtain rfl : m = 0 := beq_iff_eq.mp h
    simp [Binary64.value]

/-! ### Domains of numbers -/

/-- Numbers with four operations and a test for zero, and what the literals stand for among
them. -/
structure NumberDomain (K : Type) where
  float : Binary64 → K
  int : Int64 → K
  operate : Operation → K → K → K
  isZero : K → Bool
  isZero_float : ∀ {x : Binary64}, x.isZero = true → isZero (float x) = true
  isZero_int : isZero (int 0) = true

/-- A result, which only a division by zero lacks. -/
def orDivisionByZero {K : Type} : Option K → Except EvaluationError K
  | some z => .ok z
  | none => .error .divisionByZero

namespace NumberDomain

variable {K : Type} (D : NumberDomain K)

/-- The result of an operation; a division by zero has none. -/
def result? (op : Operation) (x y : K) : Option K :=
  if op = .div ∧ D.isZero y = true then none else some (D.operate op x y)

theorem result?_div (x y : K) :
    D.result? .div x y = if D.isZero y = true then none else some (D.operate .div x y) := by
  simp [result?]

/-- The operation on operands that need not have a value. -/
def onValues (op : Operation) (x? y? : Option K) : Option K :=
  x?.bind fun x => y?.bind fun y => D.result? op x y

/-- The numbers as a domain for formulas. -/
abbrev arithmetic : Arithmetic K where
  number := D.float
  apply op x y := orDivisionByZero (D.result? op x y)
  group x := x

/-- Double-precision numbers. -/
def doubles : NumberDomain Binary64 where
  float x := x
  int n := .ofInt n.toInt
  operate
    | .add => .add
    | .sub => .sub
    | .mul => .mul
    | .div => .div
  isZero := Binary64.isZero
  isZero_float h := h
  isZero_int := rfl

theorem doubles_arithmetic : doubles.arithmetic = instArithmeticBinary64 := by
  have apply (op : Operation) (x y : Binary64) :
      doubles.arithmetic.apply op x y = Arithmetic.apply op x y := by
    cases op with
    | add | sub | mul => rfl
    | div =>
      show orDivisionByZero (doubles.result? .div x y) =
        if y.isZero = true then .error .divisionByZero else .ok (x.div y)
      rw [result?_div, apply_ite orDivisionByZero]
      rfl
  exact congrArg (Arithmetic.mk _ · _) (funext fun op => funext fun x => funext (apply op x))

/-- A division ring, where doubles stand for any numbers, but zeros for zero. -/
def ofDivisionRing [DivisionRing K] [DecidableEq K] (number : Binary64 → K)
    (zero : ∀ {x : Binary64}, x.isZero = true → number x = 0) : NumberDomain K where
  float := number
  int n := n.toInt
  operate
    | .add, x, y => x + y
    | .sub, x, y => x - y
    | .mul, x, y => x * y
    | .div, x, y => x / y
  isZero x := x == 0
  isZero_float h := by rw [zero h, beq_self_eq_true]
  isZero_int := by simp

theorem onValues_ofDivisionRing [DivisionRing K] [DecidableEq K] (number : Binary64 → K)
    (zero : ∀ {x : Binary64}, x.isZero = true → number x = 0) (op : Operation) (x? y? : Option K) :
    (ofDivisionRing number zero).onValues op x? y? = op.onValues x? y? := by
  have result (x y : K) : (ofDivisionRing number zero).result? op x y = op.result? x y := by
    cases op with
    | add | sub | mul => rfl
    | div => simp [result?, Operation.result?, ofDivisionRing]
  simp only [onValues, Operation.onValues, result]

/-- Doubles as the numbers that they are. -/
def rationals : NumberDomain ℚ :=
  ofDivisionRing Binary64.value Binary64.value_of_isZero

end NumberDomain

variable {K : Type} (D : NumberDomain K)

/-! ### Values of expressions -/

/-- The value of an expression by its tree; a group has the value of what is in it. -/
def Sql.Expr.valueIn (column : String → String → K) : Expr → Option K
  | .column t c => some (column t c)
  | .literal (.float x) => some (D.float x)
  | .literal (.int n) => some (D.int n)
  | .binary op left right =>
    op.operation?.bind fun op => D.onValues op (left.valueIn column) (right.valueIn column)
  | .paren e => e.valueIn column
  | _ => none

variable {D} {column : String → String → K}

@[simp]
theorem Sql.Expr.valueIn_binary (op : Operation) (left right : Expr) :
    (Expr.binary op.binaryOp left right).valueIn D column =
      D.onValues op (left.valueIn D column) (right.valueIn D column) := by
  rw [Sql.Expr.valueIn, Operation.operation?_binaryOp]
  rfl

@[simp]
theorem Sql.Expr.valueIn_grouped (e : Expr) :
    e.grouped.valueIn D column = e.valueIn D column := by
  cases e <;> simp [Sql.Expr.grouped, Sql.Expr.valueIn]

/-- In a division ring the value is the exact one. -/
theorem Sql.Expr.valueIn_ofDivisionRing [DivisionRing K] [DecidableEq K] (a : Assignment K)
    (zero : ∀ {x : Binary64}, x.isZero = true → a.number x = 0) :
    ∀ e : Expr, e.valueIn (.ofDivisionRing a.number zero) a.column = e.value a
  | .column .. | .literal (.float _) | .literal (.int _) => rfl
  | .literal (.string _) | .literal (.bool _) | .literal (.date _) | .literal .null => rfl
  | .call .. | .like .. | .dateOf _ => rfl
  | .paren e => valueIn_ofDivisionRing a zero e
  | .binary op left right => by
    rw [Sql.Expr.valueIn, Sql.Expr.value, valueIn_ofDivisionRing a zero left,
      valueIn_ofDivisionRing a zero right]
    simp only [NumberDomain.onValues_ofDivisionRing]

/-- What looks like a zero is one. -/
theorem Sql.Expr.isZero_of_isLiteralZero {v : K} :
    ∀ {e : Expr}, e.isLiteralZero = true → e.valueIn D column = some v → D.isZero v = true
  | .literal (.float x), zero, h => by
    obtain rfl := Option.some.inj h
    exact D.isZero_float zero
  | .literal (.int n), zero, h => by
    obtain rfl := Option.some.inj h
    obtain rfl : n = 0 := beq_iff_eq.mp zero
    exact D.isZero_int
  | .paren e, zero, h => isZero_of_isLiteralZero (e := e) zero h

/-- A division by what looks like a zero has no result. -/
theorem NumberDomain.onValues_div_of_isLiteralZero {e : Expr} (h : e.isLiteralZero = true)
    (x? : Option K) : D.onValues .div x? (e.valueIn D column) = none := by
  cases x? with
  | none => rfl
  | some x =>
    cases he : e.valueIn D column with
    | none => rfl
    | some v => exact if_pos ⟨rfl, Sql.Expr.isZero_of_isLiteralZero h he⟩

/-! ### Formulas over both -/

variable (D) in
/-- A formula over the numbers, strictly from left to right. -/
def Formula.evalIn (lookup : String → Option K) (f : Formula) : Except EvaluationError K :=
  @Formula.eval K D.arithmetic lookup f

variable (D) in
def Operand.evalIn (lookup : String → Option K) (o : Operand) : Except EvaluationError K :=
  @Operand.eval K D.arithmetic lookup o

/-- Over doubles these are the double-precision values. -/
theorem Formula.evalIn_doubles (lookup : String → Option Binary64) (f : Formula) :
    f.evalIn .doubles lookup = f.eval lookup := by
  rw [Formula.evalIn, NumberDomain.doubles_arithmetic]

section

variable (lookup : String → Option K)

theorem Operand.evalIn_field (name : String) :
    (Operand.field name).evalIn D lookup =
      match lookup name with
      | some x => .ok x
      | none => .error (.unknownOperand name) := by
  let arithmetic := D.arithmetic
  show (Operand.field name).eval lookup = _
  cases found : lookup name <;> simp only [Operand.eval, found]

theorem Operand.evalIn_number (x : Binary64) :
    (Operand.number x).evalIn D lookup = .ok (D.float x) := by
  let arithmetic := D.arithmetic
  show (Operand.number x).eval lookup = _
  rw [Operand.eval]
  rfl

theorem Operand.evalIn_group (f : Formula) :
    (Operand.group f).evalIn D lookup = f.evalIn D lookup := by
  let arithmetic := D.arithmetic
  show (Operand.group f).eval lookup = f.eval lookup
  rw [Operand.eval]
  cases f.eval lookup <;> rfl

theorem Formula.evalIn_pair (x : Operand) (op : Operation) (y : Operand) :
    (Formula.pair x op y).evalIn D lookup =
      (do D.arithmetic.apply op (← x.evalIn D lookup) (← y.evalIn D lookup)) := by
  let arithmetic := D.arithmetic
  show (Formula.pair x op y).eval lookup = _
  rw [Formula.eval]
  rfl

theorem Formula.evalIn_step (f : Formula) (op : Operation) (y : Operand) :
    (Formula.step f op y).evalIn D lookup =
      (do D.arithmetic.apply op (← f.evalIn D lookup) (← y.evalIn D lookup)) := by
  let arithmetic := D.arithmetic
  show (Formula.step f op y).eval lookup = _
  rw [Formula.eval]
  rfl

end

variable (D column) in
/-- What can come of a formula over expressions and over numbers. Where the numbers divide by zero,
the expressions may go on, and may come upon another error. -/
inductive Formula.Agrees : Except EvaluationError Expr → Except EvaluationError K → Prop
  | value {e : Expr} {v : K} (h : e.valueIn D column = some v) : Agrees (.ok e) (.ok v)
  | noValue {e : Expr} (h : e.valueIn D column = none) :
    Agrees (.ok e) (.error .divisionByZero)
  | error (err : EvaluationError) : Agrees (.error err) (.error err)
  | later (err : EvaluationError) : Agrees (.error err) (.error .divisionByZero)

theorem NumberDomain.apply_orDivisionByZero (op : Operation) (x? y? : Option K) :
    (do D.arithmetic.apply op (← orDivisionByZero x?) (← orDivisionByZero y?)) =
      orDivisionByZero (D.onValues op x? y?) := by
  cases x? with
  | none => rfl
  | some x =>
    cases y? with
    | none => rfl
    | some y => rfl

namespace Formula.Agrees

/-- An expression agrees with the value that it has or lacks, and with nothing else. -/
theorem ok_iff {e : Expr} {x : Except EvaluationError K} :
    Agrees D column (.ok e) x ↔ x = orDivisionByZero (e.valueIn D column) := by
  constructor
  · intro h
    cases h with
    | value found =>
      rw [found]
      rfl
    | noValue missing =>
      rw [missing]
      rfl
  · rintro rfl
    cases result : e.valueIn D column with
    | none => exact .noValue result
    | some v => exact .value result

variable (D column) in
/-- An operation on two expressions, against that on the values which they have or lack. -/
theorem apply (op : Operation) (left right : Expr) :
    Agrees D column (Arithmetic.apply op left right)
      (orDivisionByZero
        (D.onValues op (left.valueIn D column) (right.valueIn D column))) := by
  show Agrees D column
    (if op = .div ∧ right.isLiteralZero = true then .error .divisionByZero
      else .ok (.binary op.binaryOp left.grouped right)) _
  by_cases zero : op = .div ∧ right.isLiteralZero = true
  · obtain ⟨rfl, zero'⟩ := zero
    rw [if_pos ⟨rfl, zero'⟩, D.onValues_div_of_isLiteralZero zero']
    exact .error _
  · rw [if_neg zero, ← Sql.Expr.valueIn_grouped left, ← Sql.Expr.valueIn_binary]
    exact ok_iff.mpr rfl

/-- The operation of a formula, whose operands may have failed. -/
theorem bind (op : Operation) {left right : Except EvaluationError Expr}
    {x y : Except EvaluationError K} (hleft : Agrees D column left x)
    (hright : Agrees D column right y) :
    Agrees D column (do Arithmetic.apply op (← left) (← right))
      (do D.arithmetic.apply op (← x) (← y)) := by
  cases left with
  | error err =>
    cases hleft with
    | error => exact .error err
    | later => exact .later err
  | ok e =>
    rw [ok_iff.mp hleft]
    cases right with
    | ok e' =>
      rw [ok_iff.mp hright, D.apply_orDivisionByZero]
      exact apply D column op e e'
    | error err =>
      -- Only the expressions go on to the right where the left one has no value.
      cases e.valueIn D column with
      | none => exact .later err
      | some v =>
        cases hright with
        | error => exact .error err
        | later => exact .later err

theorem group {a : Except EvaluationError Expr} {x : Except EvaluationError K}
    (h : Agrees D column a x) : Agrees D column (a.map Sql.Expr.grouped) x := by
  cases h with
  | error err => exact .error err
  | later err => exact .later err
  | value h => exact .value (by rwa [Sql.Expr.valueIn_grouped])
  | noValue h => exact .noValue (by rwa [Sql.Expr.valueIn_grouped])

end Formula.Agrees

/-! ### The two ways -/

variable {expr? : String → Option Expr}

variable (D column expr?) in
/-- Each name stands for the value of its expression. -/
def valueOf? (name : String) : Option K :=
  (expr? name).bind (Sql.Expr.valueIn D column)

mutual

theorem Operand.agrees_eval : ∀ (o : Operand),
    (∀ name ∈ o.fields, ∀ e, expr? name = some e → ∃ v, e.valueIn D column = some v) →
      Formula.Agrees D column (o.eval expr?) (o.evalIn D (valueOf? D column expr?))
  | .field name, h => by
    rw [Operand.evalIn_field, Operand.eval, valueOf?]
    cases found : expr? name with
    | none => exact .error _
    | some e =>
      obtain ⟨v, hv⟩ := h name (List.mem_singleton_self name) e found
      rw [Option.bind_some, hv]
      exact .value hv
  | .number x, _ => by
    rw [Operand.evalIn_number, Operand.eval]
    exact .value rfl
  | .group f, h => by
    have inner := Formula.Agrees.group (Formula.agrees_eval f h)
    rw [Operand.evalIn_group, Operand.eval]
    cases result : f.eval expr? <;> rwa [result] at inner

/-- **A formula over expressions agrees with the formula over numbers**, if the names in it stand
for expressions that have values. -/
theorem Formula.agrees_eval : ∀ (f : Formula),
    (∀ name ∈ f.fields, ∀ e, expr? name = some e → ∃ v, e.valueIn D column = some v) →
      Formula.Agrees D column (f.eval expr?) (f.evalIn D (valueOf? D column expr?))
  | .pair x op y, h => by
    rw [Formula.fields, List.forall_mem_append] at h
    rw [Formula.evalIn_pair, Formula.eval]
    exact .bind op (Operand.agrees_eval x h.1) (Operand.agrees_eval y h.2)
  | .step f op y, h => by
    rw [Formula.fields, List.forall_mem_append] at h
    rw [Formula.evalIn_step, Formula.eval]
    exact .bind op (Formula.agrees_eval f h.1) (Operand.agrees_eval y h.2)

end

/-- **Evaluating a formula and reading the tree of its expression give the same number.** Where the
tree has none, and where there is no tree, the formula has no number either. -/
theorem Formula.evalIn_eq_ok_iff_valueIn (D : NumberDomain K) (column : String → String → K)
    (expr? : String → Option Expr) (f : Formula)
    (h : ∀ name ∈ f.fields, ∀ e, expr? name = some e → ∃ v, e.valueIn D column = some v) :
    (∀ e, f.eval expr? = .ok e →
      (∀ v, e.valueIn D column = some v ↔ f.evalIn D (valueOf? D column expr?) = .ok v) ∧
        (e.valueIn D column = none ↔
          f.evalIn D (valueOf? D column expr?) = .error .divisionByZero)) ∧
      ∀ err, f.eval expr? = .error err →
        f.evalIn D (valueOf? D column expr?) = .error err ∨
          f.evalIn D (valueOf? D column expr?) = .error .divisionByZero := by
  have agrees := f.agrees_eval h
  generalize f.evalIn D (valueOf? D column expr?) = result at agrees
  constructor
  · intro e he
    rw [he] at agrees
    cases agrees with
    | value found => simp [found]
    | noValue missing => simp [missing]
  · intro err herr
    rw [herr] at agrees
    cases agrees with
    | error => exact .inl rfl
    | later => exact .inr rfl

/-- A margin per unit, for two units and for none. -/
theorem Formula.evalIn_eq_ok_iff_valueIn_margin :
    let f : Formula := .step (.pair (.field "Revenue") .sub (.field "Costs")) .div (.field "Units")
    let expr? (name : String) : Option Expr :=
      if name ∈ ["Revenue", "Costs", "Units"] then some (.column "sales" name) else none
    let column (units : ℚ) (_ name : String) : ℚ :=
      if name = "Revenue" then 7 else if name = "Costs" then 2 else units
    ∃ e, f.eval expr? = .ok e ∧
      (∀ units, ∀ name ∈ f.fields, ∀ e, expr? name = some e →
        ∃ v, e.valueIn .rationals (column units) = some v) ∧
      f.evalIn .rationals (valueOf? .rationals (column 2) expr?) = .ok (5 / 2) ∧
      f.evalIn .rationals (valueOf? .rationals (column 0) expr?) = .error .divisionByZero := by
  intro f expr? column
  have valued : ∀ units, ∀ name ∈ f.fields, ∀ e, expr? name = some e →
      ∃ v, e.valueIn .rationals (column units) = some v := by
    intro units name _ e found
    obtain ⟨-, found⟩ := Option.ite_none_right_eq_some.mp found
    obtain rfl := Option.some.inj found
    exact ⟨_, rfl⟩
  have both (units : ℚ) :=
    (evalIn_eq_ok_iff_valueIn .rationals (column units) expr? f (valued units)).1 _ rfl
  exact ⟨_, rfl, valued, ((both 2).1 _).mp (by decide +kernel), (both 0).2.mp (by decide +kernel)⟩

end StarSchema
