import StarSchema.Proofs.Formula.Value

/-!
# The names that a formula reads

The fields of a formula are all that its value depends on, and they are looked up in the order in
which they are listed. An evaluation need not come to the end of the list: it stops at the first
name that stands for nothing, and at a division by zero, which may come earlier. So a formula with
an unknown name always fails, but not always because of that name; when it does, the name is the
first unknown one.

All of this holds wherever the operations fail for no other reason than a division by zero. What an
evaluation that looks up a list of names can come to is one relation (`LooksUp`), which an operation
carries over from its operands to their lists one after the other.

Main definitions: `FailsByZeroOnly`, `firstUnknown?`, `LooksUp`, `Formula.DependsOnFields`.

Main results: `Formula.eval_congr`, `Formula.looksUp_eval`, `Formula.dependsOnFields`.
-/

namespace StarSchema

section

variable {α : Type} {lookup lookup' : String → Option α}

/-! ### Names in order -/

/-- The first of the names that stands for nothing. -/
def firstUnknown? (lookup : String → Option α) (names : List String) : Option String :=
  names.find? fun name => (lookup name).isNone

theorem firstUnknown?_append (names names' : List String) :
    firstUnknown? lookup (names ++ names') =
      (firstUnknown? lookup names).or (firstUnknown? lookup names') :=
  List.find?_append

theorem firstUnknown?_eq_none_iff {names : List String} :
    firstUnknown? lookup names = none ↔ ∀ name ∈ names, ∃ x, lookup name = some x := by
  simp only [firstUnknown?, List.find?_eq_none, Option.isNone_iff_eq_none,
    ← Option.isSome_iff_exists, Option.ne_none_iff_isSome]

variable (lookup) in
/-- What an evaluation that looks up these names in this order can come to: a value if it knows them
all, the first that it does not know, or a division by zero on the way. -/
inductive LooksUp (names : List String) : Except EvaluationError α → Prop where
  | value (v : α) (known : firstUnknown? lookup names = none) : LooksUp names (.ok v)
  | unknown {name : String} (first : firstUnknown? lookup names = some name) :
    LooksUp names (.error (.unknownOperand name))
  | divisionByZero : LooksUp names (.error .divisionByZero)

variable [Arithmetic α]

/-! ### Lookups that agree -/

mutual

theorem Operand.eval_congr : ∀ o : Operand,
    (∀ name ∈ o.fields, lookup name = lookup' name) → o.eval lookup = o.eval lookup'
  | .field name, h => by
    rw [Operand.eval, Operand.eval, h name (List.mem_singleton_self name)]
  | .number x, _ => by rw [Operand.eval, Operand.eval]
  | .group f, h => by rw [Operand.eval, Operand.eval, Formula.eval_congr f h]

/-- **Lookups that agree on the fields** of a formula give it the same value, or the same error. -/
theorem Formula.eval_congr : ∀ f : Formula,
    (∀ name ∈ f.fields, lookup name = lookup' name) → f.eval lookup = f.eval lookup'
  | .pair x op y, h => by
    rw [Formula.fields, List.forall_mem_append] at h
    rw [Formula.eval, Formula.eval, Operand.eval_congr x h.1, Operand.eval_congr y h.2]
  | .step f op y, h => by
    rw [Formula.fields, List.forall_mem_append] at h
    rw [Formula.eval, Formula.eval, Formula.eval_congr f h.1, Operand.eval_congr y h.2]

end

/-! ### Evaluation in order -/

variable (α) in
/-- The operations of the domain fail by a division by zero only. -/
def FailsByZeroOnly : Prop :=
  ∀ {op : Operation} {x y : α} {e : EvaluationError},
    Arithmetic.apply op x y = .error e → e = .divisionByZero

/-- An operation looks up the names on its left and then those on its right. -/
theorem LooksUp.operation (fails : FailsByZeroOnly α) (op : Operation) {names names' : List String}
    {left right : Except EvaluationError α} (hleft : LooksUp lookup names left)
    (hright : LooksUp lookup names' right) :
    LooksUp lookup (names ++ names') (do Arithmetic.apply op (← left) (← right)) := by
  cases hleft with
  | value v known =>
    cases hright with
    | value w known' =>
      show LooksUp lookup (names ++ names') (Arithmetic.apply op v w)
      cases result : Arithmetic.apply op v w with
      | ok z => exact .value z (by rw [firstUnknown?_append, known, known', Option.or_none])
      | error e =>
        obtain rfl := fails result
        exact .divisionByZero
    | unknown first => exact .unknown (by rw [firstUnknown?_append, known, first, Option.none_or])
    | divisionByZero => exact .divisionByZero
  -- What is on the right is not looked at any more.
  | unknown first => exact .unknown (by rw [firstUnknown?_append, first, Option.some_or])
  | divisionByZero => exact .divisionByZero

mutual

theorem Operand.looksUp_eval (fails : FailsByZeroOnly α) : ∀ o : Operand,
    LooksUp lookup o.fields (o.eval lookup)
  | .field name => by
    rw [Operand.eval, Operand.fields]
    cases found : lookup name with
    | none => exact .unknown (by simp [firstUnknown?, found])
    | some x => exact .value x (by simp [firstUnknown?, found])
  | .number x => by
    rw [Operand.eval]
    exact .value _ rfl
  | .group f => by
    have inner := Formula.looksUp_eval fails f
    rw [Operand.eval, Operand.fields]
    cases result : f.eval lookup with
    | ok v =>
      rw [result] at inner
      cases inner with
      | value _ known => exact .value _ known
    | error e => rwa [result] at inner

/-- **A formula looks up its fields in order.** -/
theorem Formula.looksUp_eval (fails : FailsByZeroOnly α) : ∀ f : Formula,
    LooksUp lookup f.fields (f.eval lookup)
  | .pair x op y => by
    rw [Formula.eval, Formula.fields]
    exact .operation fails op (Operand.looksUp_eval fails x) (Operand.looksUp_eval fails y)
  | .step f op y => by
    rw [Formula.eval, Formula.fields]
    exact .operation fails op (Formula.looksUp_eval fails f) (Operand.looksUp_eval fails y)

end

end

/-! ### What a formula depends on -/

/-- In a domain, the formula depends on its lookup through its fields: on nothing else, on each of
them for a value, and on the first unknown one for an error that names one. -/
structure Formula.DependsOnFields (f : Formula) (α : Type) [Arithmetic α] : Prop where
  only : ∀ lookup lookup' : String → Option α,
    (∀ name ∈ f.fields, lookup name = lookup' name) → f.eval lookup = f.eval lookup'
  known : ∀ (lookup : String → Option α) (v : α), f.eval lookup = .ok v →
    ∀ name ∈ f.fields, ∃ x, lookup name = some x
  first : ∀ (lookup : String → Option α) (name : String),
    f.eval lookup = .error (.unknownOperand name) → firstUnknown? lookup f.fields = some name
  fails : ∀ (lookup : String → Option α), (∃ name ∈ f.fields, lookup name = none) →
    ∃ e, f.eval lookup = .error e

theorem Formula.dependsOnFields_of_failsByZeroOnly {α : Type} [Arithmetic α]
    (zero : FailsByZeroOnly α) (f : Formula) : f.DependsOnFields α := by
  have known (lookup : String → Option α) (v : α) (h : f.eval lookup = .ok v) :
      ∀ name ∈ f.fields, ∃ x, lookup name = some x := by
    have looksUp : LooksUp lookup f.fields (f.eval lookup) := f.looksUp_eval zero
    rw [h] at looksUp
    cases looksUp with
    | value _ known => exact firstUnknown?_eq_none_iff.mp known
  refine ⟨fun _ _ => f.eval_congr, known, fun lookup name h => ?_, ?_⟩
  · have looksUp : LooksUp lookup f.fields (f.eval lookup) := f.looksUp_eval zero
    rw [h] at looksUp
    cases looksUp with
    | unknown first => exact first
  · rintro lookup ⟨name, mem, unknown⟩
    cases result : f.eval lookup with
    | error e => exact ⟨e, rfl⟩
    | ok v =>
      obtain ⟨x, found⟩ := known lookup v result name mem
      rw [unknown] at found
      cases found

theorem Binary64.failsByZeroOnly : FailsByZeroOnly Binary64 := by
  intro op x y e h
  cases op with
  | add | sub | mul => cases h
  | div =>
    change (if y.isZero = true then Except.error EvaluationError.divisionByZero
      else .ok (x.div y)) = .error e at h
    split at h
    · exact (Except.error.inj h).symm
    · cases h

theorem Sql.Expr.failsByZeroOnly : FailsByZeroOnly Sql.Expr := by
  intro op left right e h
  change (if op = .div ∧ right.isLiteralZero = true then
      Except.error EvaluationError.divisionByZero
    else .ok (Sql.Expr.binary op.binaryOp left.grouped right)) = .error e at h
  split at h
  · exact (Except.error.inj h).symm
  · cases h

/-- **The fields of a formula are what it depends on**, over numbers and over expressions. -/
theorem Formula.dependsOnFields (f : Formula) :
    f.DependsOnFields Binary64 ∧ f.DependsOnFields Sql.Expr :=
  ⟨dependsOnFields_of_failsByZeroOnly Binary64.failsByZeroOnly f,
    dependsOnFields_of_failsByZeroOnly Sql.Expr.failsByZeroOnly f⟩

/-- Revenue by units, and something more. -/
def Formula.ratio : Formula :=
  .step (.pair (.field "Revenue") .div (.field "Units")) .add
    (.group (.pair (.field "Extra") .mul (.number .one)))

/-- With all names known there is a value. Of two unknown names the error has the first, and a
division by zero comes before a name behind it, over numbers and over expressions. -/
theorem Formula.dependsOnFields_ratio :
    let known (name : String) : Option Binary64 := if name = "Other" then none else some .one
    let revenue (name : String) : Option Binary64 := if name = "Revenue" then some .one else none
    let zero (name : String) : Option Sql.Expr :=
      if name = "Extra" then none else some (.float (.zero false))
    ((∃ v, ratio.eval known = .ok v) ∧ ∀ name ∈ ratio.fields, ∃ x, known name = some x) ∧
      (ratio.eval revenue = .error (.unknownOperand "Units") ∧
        firstUnknown? revenue ratio.fields = some "Units") ∧
      ratio.eval zero = .error .divisionByZero ∧ ∃ e, ratio.eval zero = .error e := by
  intro known revenue zero
  obtain ⟨numbers, expressions⟩ := ratio.dependsOnFields
  obtain ⟨v, value⟩ : ∃ v, ratio.eval known = .ok v := exists_eq_ok_of_isOk (by decide +kernel)
  have unknown : ratio.eval revenue = .error (.unknownOperand "Units") := by decide +kernel
  exact ⟨⟨⟨v, value⟩, numbers.known known v value⟩,
    ⟨unknown, numbers.first revenue "Units" unknown⟩, rfl,
    expressions.fails zero ⟨"Extra", by decide, rfl⟩⟩

end StarSchema
