import StarSchema.Proofs.Sql.Precedence
import StarSchema.Proofs.Star.Fields

/-!
# Which expressions of a star keep their trees

Labels, join conditions, conditions on a field and chains of conditions have operators only where
their levels keep them together. A formula puts no parentheses around a name, and what the name
stands for may be an operation that binds no more tightly than the operator before it. This is the
only way in which an expression of a star comes to be read as another tree.

Main definitions: `Formula.KeepsTree`, `Star.KeepsTrees`, `Star.Parenthesised`.

Main results: `Star.parenthesised_of_built`, `Star.wellParenthesised_compose`,
`View.wellParenthesised_compose`.
-/

namespace StarSchema

open Sql (Expr)

variable {e f : Expr}

/-! ### The parts of a query -/

theorem Sql.Expr.wellParenthesised_binary {op : Sql.BinaryOp} :
    (Expr.binary op e f).WellParenthesised ↔
      op.Admits e f ∧ e.WellParenthesised ∧ f.WellParenthesised := by
  rw [WellParenthesised]

theorem Sql.Expr.wellParenthesised_paren : e.paren.WellParenthesised ↔ e.WellParenthesised := by
  rw [WellParenthesised]

@[simp]
theorem Sql.Expr.wellParenthesised_column (t c : String) : (Expr.column t c).WellParenthesised := by
  rw [WellParenthesised]
  trivial

@[simp]
theorem Sql.Expr.wellParenthesised_literal (l : Sql.Literal) :
    (Expr.literal l).WellParenthesised := by
  rw [WellParenthesised]
  trivial

/-- A comparison may stand between operands that bind more tightly. -/
theorem admits_of_level_eq_one {op : Sql.BinaryOp} (h : op.level = 1) (he : 1 < e.level)
    (hf : 1 < f.level) : op.Admits e f where
  level_le := h ▸ Nat.le_of_lt he
  level_lt := h ▸ hf
  comparison _ := he
  concat concat := by
    subst concat
    cases h

theorem level_ofValue (v : Value) : (Expr.ofValue v).level = 5 := by
  cases v <;> rfl

theorem wellParenthesised_ofValue (v : Value) : (Expr.ofValue v).WellParenthesised := by
  cases v <;> exact Expr.wellParenthesised_literal _

theorem level_of_test {op : Operator} {cmp : Sql.BinaryOp}
    (h : op.test = .compare cmp ∨ op.test = .compareDay cmp) : cmp.level = 1 := by
  cases op <;> rcases h with h | h <;> cases h <;> rfl

/-- **A condition keeps its tree exactly if its subject does.** -/
theorem wellParenthesised_predicate_iff (op : Operator) (he : 1 < e.level) (v : Value) :
    (op.predicate e v).level = 1 ∧
      ((op.predicate e v).WellParenthesised ↔ e.WellParenthesised) := by
  have value : 1 < (Expr.ofValue v).level := by
    rw [level_ofValue]
    decide
  unfold Operator.predicate
  split
  · next cmp test =>
    have level := level_of_test (.inl test)
    refine ⟨level, ?_⟩
    rw [Expr.wellParenthesised_binary]
    exact ⟨fun h => h.2.1, fun h =>
      ⟨admits_of_level_eq_one level he value, h, wellParenthesised_ofValue v⟩⟩
  · next cmp test =>
    have level := level_of_test (.inr test)
    refine ⟨level, ?_⟩
    rw [Expr.wellParenthesised_binary, Expr.WellParenthesised]
    exact ⟨fun h => h.2.1, fun h =>
      ⟨admits_of_level_eq_one level (by decide : 1 < 5) value, h, wellParenthesised_ofValue v⟩⟩
  · refine ⟨rfl, ?_⟩
    rw [Expr.WellParenthesised]
    exact ⟨fun h => h.2.2.1, fun h =>
      ⟨he, (by decide : 1 < 5), h, Expr.wellParenthesised_literal _⟩⟩

/-- An aggregate keeps its tree exactly if what it aggregates does. -/
theorem wellParenthesised_aggregate_iff (a : Aggregate) :
    (a.apply e).WellParenthesised ↔ e.WellParenthesised := by
  have call (function : String) :
      (Expr.call function [e]).WellParenthesised ↔ e.WellParenthesised := by
    rw [Expr.WellParenthesised, Expr.WellParenthesisedArgs, Expr.WellParenthesisedArgs, and_true]
  cases a <;> exact call _

/-- A chain of conditions keeps its tree exactly if each condition does. -/
theorem wellParenthesised_conjunction?_iff {es : List Expr} (levels : ∀ x ∈ es, x.level = 1)
    (h : Expr.conjunction? es = some e) :
    e.WellParenthesised ↔ ∀ x ∈ es, x.WellParenthesised := by
  cases es with
  | nil => cases h
  | cons x xs =>
    cases h
    rw [List.forall_mem_cons]
    replace levels := (List.forall_mem_cons.mp levels).2
    induction xs generalizing x with
    | nil => simp
    | cons y ys ih =>
      obtain ⟨level, levels⟩ := List.forall_mem_cons.mp levels
      have admits : Sql.BinaryOp.Admits .and x y :=
        ⟨Nat.zero_le _, by rw [level]; decide, nofun, nofun⟩
      rw [List.foldl_cons, List.forall_mem_cons]
      refine (ih (x.and y) levels).trans ?_
      rw [Expr.and, Expr.wellParenthesised_binary, and_assoc, and_assoc]
      exact and_iff_right admits

/-- A label is a chain of concatenations, so it keeps its tree. -/
theorem wellParenthesised_label (l : Label) :
    l.expr.WellParenthesised ∧ (l.expr.level = 5 ∨ l.expr.isConcat = true) := by
  have join (x : Expr) (name : String)
      (h : x.WellParenthesised ∧ (x.level = 5 ∨ x.isConcat = true)) :
      (l.join x name).WellParenthesised ∧
        ((l.join x name).level = 5 ∨ (l.join x name).isConcat = true) := by
    have admits {x y : Expr} (hx : x.level = 5 ∨ x.isConcat = true) (hy : y.level = 5) :
        Sql.BinaryOp.Admits .concat x y := by
      refine ⟨?_, hy ▸ by decide, nofun, fun _ => ⟨hx, hy⟩⟩
      rcases hx with atom | chain
      · exact atom ▸ by decide
      · unfold Expr.isConcat at chain
        split at chain
        · exact Nat.le_refl _
        · cases chain
    refine ⟨?_, .inr rfl⟩
    rw [Label.join, Expr.wellParenthesised_binary, Expr.wellParenthesised_binary]
    exact ⟨admits (.inr rfl) rfl, ⟨admits h.2 rfl, h.1, Expr.wellParenthesised_literal _⟩,
      Expr.wellParenthesised_column _ _⟩
  rw [Label.expr]
  cases l.fields with
  | nil => exact ⟨Expr.wellParenthesised_literal _, .inl rfl⟩
  | cons name names =>
    have start : (Expr.column l.table name).WellParenthesised ∧
        ((Expr.column l.table name).level = 5 ∨ (Expr.column l.table name).isConcat = true) :=
      ⟨Expr.wellParenthesised_column _ _, .inl rfl⟩
    dsimp only
    generalize Expr.column l.table name = x at start
    induction names generalizing x with
    | nil => exact start
    | cons name names ih => exact ih (l.join x name) (join x name start)

theorem wellParenthesised_join (j : StarJoin) (fact : String) :
    (j.toJoin fact).on.WellParenthesised :=
  Expr.wellParenthesised_binary.mpr
    ⟨admits_of_level_eq_one rfl (by decide : 1 < 5) (by decide : 1 < 5),
      Expr.wellParenthesised_column _ _, Expr.wellParenthesised_column _ _⟩

/-! ### Formulas -/

/-- The operator binds less tightly than the operand that stands behind it: a group is in
parentheses, and a name stands for what it names. -/
def Operation.IsLooserThan (op : Operation) (expr? : String → Option Expr) : Operand → Prop
  | .field name => ∀ e ∈ expr? name, op.level < e.level
  | _ => True

mutual

def Operand.KeepsTree (expr? : String → Option Expr) : Operand → Prop
  | .field name => ∀ e ∈ expr? name, e.WellParenthesised
  | .number _ => True
  | .group f => f.KeepsTree expr?

/-- Every name in the formula stands for an expression that keeps its tree, and on the right of an
operator only for one that binds more tightly. -/
def Formula.KeepsTree (expr? : String → Option Expr) : Formula → Prop
  | .pair x op y => x.KeepsTree expr? ∧ y.KeepsTree expr? ∧ op.IsLooserThan expr? y
  | .step f op y => f.KeepsTree expr? ∧ y.KeepsTree expr? ∧ op.IsLooserThan expr? y

end

theorem Operation.level_lt_five (op : Operation) : op.level < 5 :=
  op.binaryOp.level_lt_five

theorem one_lt_level_of_computed (h : e.Computed) : 1 < e.level := by
  cases h with
  | operation op =>
    cases op
    · exact (by decide : 1 < 3)
    · exact (by decide : 1 < 3)
    · exact (by decide : 1 < 4)
    · exact (by decide : 1 < 4)
  | _ => exact (by decide : 1 < 5)

theorem level_grouped (h : e.Computed) : e.grouped.level = 5 := by
  cases h <;> rfl

theorem wellParenthesised_grouped_iff : e.grouped.WellParenthesised ↔ e.WellParenthesised := by
  cases e with
  | binary op left right => rw [Expr.grouped, Expr.wellParenthesised_paren]
  | _ => rfl

/-- Parentheses on the left leave the operator to the right operand. -/
theorem admits_grouped_iff {left right : Expr} (h : left.Computed) (op : Operation) :
    op.binaryOp.Admits left.grouped right ↔ op.level < right.level := by
  refine ⟨fun admits => admits.level_lt, fun looser => ⟨?_, looser, fun _ => ?_, fun concat => ?_⟩⟩
  · rw [level_grouped h]
    exact Nat.le_of_lt op.level_lt_five
  · rw [level_grouped h]
    decide
  · cases op <;> cases concat

section

variable {expr? : String → Option Expr}

/-- An operator is looser than an operand just if it is looser than the operand's expression. -/
theorem isLooserThan_iff {op : Operation} {y : Operand} {right : Expr}
    (names : ∀ name e, expr? name = some e → e.Computed) (finite : y.isFinite = true)
    (h : y.eval expr? = .ok right) : op.IsLooserThan expr? y ↔ op.level < right.level := by
  cases y with
  | field name =>
    rw [Operation.IsLooserThan, Operand.eval_field_eq_ok_iff.mp h]
    simp
  | number x =>
    obtain rfl := Operand.eval_number_eq_ok_iff.mp h
    exact iff_of_true trivial op.level_lt_five
  | group f =>
    obtain ⟨e, found, rfl⟩ := Operand.eval_group_eq_ok_iff.mp h
    refine iff_of_true trivial ?_
    rw [Operand.isFinite] at finite
    exact (level_grouped (Formula.computed_eval names f finite found)).symm ▸ op.level_lt_five

mutual

theorem Operand.wellParenthesised_eval_iff (names : ∀ name e, expr? name = some e → e.Computed) :
    ∀ (x : Operand) {e : Expr}, x.isFinite = true → x.eval expr? = .ok e →
      (e.WellParenthesised ↔ x.KeepsTree expr?)
  | .field name, e, _, h => by
    rw [Operand.KeepsTree, Operand.eval_field_eq_ok_iff.mp h]
    simp
  | .number x, e, _, h => by
    obtain rfl := Operand.eval_number_eq_ok_iff.mp h
    rw [Operand.KeepsTree]
    exact iff_of_true (Expr.wellParenthesised_literal _) trivial
  | .group f, e, finite, h => by
    obtain ⟨e', found, rfl⟩ := Operand.eval_group_eq_ok_iff.mp h
    rw [Operand.KeepsTree, ← Formula.wellParenthesised_eval_iff names f finite found]
    exact wellParenthesised_grouped_iff

/-- The expression of a formula keeps its tree exactly if the formula does. -/
theorem Formula.wellParenthesised_eval_iff (names : ∀ name e, expr? name = some e → e.Computed) :
    ∀ (f : Formula) {e : Expr}, f.isFinite = true → f.eval expr? = .ok e →
      (e.WellParenthesised ↔ f.KeepsTree expr?)
  | .pair x op y, e, finite, h => by
    rw [Formula.isFinite, Bool.and_eq_true] at finite
    obtain ⟨left, right, hleft, hright, h⟩ := Formula.eval_pair_eq_ok_iff.mp h
    obtain ⟨-, rfl⟩ := apply_eq_ok_iff.mp h
    rw [Formula.KeepsTree, Expr.wellParenthesised_binary,
      admits_grouped_iff (Operand.computed_eval names x finite.1 hleft),
      wellParenthesised_grouped_iff, Operand.wellParenthesised_eval_iff names x finite.1 hleft,
      Operand.wellParenthesised_eval_iff names y finite.2 hright,
      isLooserThan_iff names finite.2 hright]
    exact and_comm.trans and_assoc
  | .step f op y, e, finite, h => by
    rw [Formula.isFinite, Bool.and_eq_true] at finite
    obtain ⟨left, right, hleft, hright, h⟩ := Formula.eval_step_eq_ok_iff.mp h
    obtain ⟨-, rfl⟩ := apply_eq_ok_iff.mp h
    rw [Formula.KeepsTree, Expr.wellParenthesised_binary,
      admits_grouped_iff (Formula.computed_eval names f finite.1 hleft),
      wellParenthesised_grouped_iff, Formula.wellParenthesised_eval_iff names f finite.1 hleft,
      Operand.wellParenthesised_eval_iff names y finite.2 hright,
      isLooserThan_iff names finite.2 hright]
    exact and_comm.trans and_assoc

end

end

/-! ### Stars and views -/

namespace Star

/-- The formula of every calculated field keeps its tree. -/
def KeepsTrees (s : Star) : Prop :=
  ∀ earlier c later, s.calculated = earlier ++ c :: later →
    c.formula.KeepsTree (operand? s.fact earlier)

/-- Which parts of the queries over a star keep their trees: labels and join conditions do, a
calculated field does exactly if its formula does, a filter's condition and an aggregate do exactly
if what they are about does, and a chain of conditions does exactly if each condition does. -/
structure Parenthesised (s : Star) : Prop where
  label : ∀ j ∈ s.joins, j.dimension.label.expr.WellParenthesised
  join : ∀ j ∈ s.joins, (j.toJoin s.name).on.WellParenthesised
  calculated : ∀ earlier c later, s.calculated = earlier ++ c :: later →
    (c.expr.WellParenthesised ↔ c.formula.KeepsTree (operand? s.fact earlier))
  predicate : ∀ f ∈ s.filters, ∀ e ∈ f.predicate?,
    (e.WellParenthesised ↔ f.subject.WellParenthesised)
  chain : ∀ e ∈ Expr.conjunction? s.predicates,
    (e.WellParenthesised ↔ ∀ p ∈ s.predicates, p.WellParenthesised)
  aggregate : ∀ x ∈ s.fields, ∀ a : Aggregate,
    ((a.apply x.column.expr).WellParenthesised ↔ x.column.expr.WellParenthesised)
  orderKey : ∀ o k, s.sortKey o = .ok k → ∃ x ∈ s.fields, x.column.expr = k.expr

variable {dimensions : List Dimension} {s : Star}

theorem wellParenthesised_calculated_iff (hs : s.Built dimensions)
    {earlier later : List CalculatedField} {c : CalculatedField}
    (split : s.calculated = earlier ++ c :: later) :
    c.expr.WellParenthesised ↔ c.formula.KeepsTree (operand? s.fact earlier) := by
  obtain ⟨finite, expr⟩ := hs.composed earlier c later split
  have before : Composed s.fact earlier := Composed.prefix (split ▸ hs.composed)
  refine Formula.wellParenthesised_eval_iff ?_ c.formula finite expr
  exact forall_operand? (fun _ _ => .column _ _) (computed_of_composed before)

/-- The formulas of a star keep their trees exactly if the expressions of its calculated fields
do. -/
theorem keepsTrees_iff (hs : s.Built dimensions) :
    s.KeepsTrees ↔ ∀ c ∈ s.calculated, c.expr.WellParenthesised := by
  refine ⟨fun keeps c hc => ?_, fun all earlier c later split => ?_⟩
  · obtain ⟨earlier, later, split⟩ := List.append_of_mem hc
    exact (wellParenthesised_calculated_iff hs split).mpr (keeps earlier c later split)
  · refine (wellParenthesised_calculated_iff hs split).mp (all c ?_)
    rw [split]
    exact List.mem_append_right earlier List.mem_cons_self

/-- The fields of a star bind more tightly than a comparison. -/
theorem one_lt_level_field (hs : s.Built dimensions) :
    ∀ x ∈ s.fields, 1 < x.column.expr.level := by
  rw [forall_mem_fields_iff]
  refine ⟨fun _ _ => (by decide : 1 < 5), fun j _ => ?_, fun c hc => ?_⟩
  · rcases (wellParenthesised_label j.dimension.label).2 with atom | chain
    · exact Nat.lt_of_lt_of_eq (by decide) atom.symm
    · show 1 < j.dimension.label.expr.level
      unfold Expr.isConcat at chain
      split at chain
      · next same =>
        rw [same]
        exact (by decide : 1 < 2)
      · cases chain
  · exact one_lt_level_of_computed (computed_of_composed hs.composed c hc)

theorem predicate_of_mem (hs : s.Built dimensions) {f : Filter} (hf : f ∈ s.filters) {e : Expr}
    (he : e ∈ f.predicate?) :
    e.level = 1 ∧ (e.WellParenthesised ↔ f.subject.WellParenthesised) := by
  obtain ⟨x, hx, subject⟩ := hs.subject f hf
  unfold Filter.predicate? at he
  split at he
  · cases he
  · obtain ⟨v, -, rfl⟩ := Option.map_eq_some_iff.mp he
    exact wellParenthesised_predicate_iff f.operator (subject ▸ one_lt_level_field hs x hx) v

theorem level_predicates (hs : s.Built dimensions) : ∀ p ∈ s.predicates, p.level = 1 := by
  intro p hp
  obtain ⟨f, hf, he⟩ := List.mem_filterMap.mp hp
  exact (predicate_of_mem hs hf he).1

theorem parenthesised_of_built (hs : s.Built dimensions) : s.Parenthesised where
  label j _ := (wellParenthesised_label j.dimension.label).1
  join j _ := wellParenthesised_join j s.name
  calculated _ _ _ split := wellParenthesised_calculated_iff hs split
  predicate f hf _ he := (predicate_of_mem hs hf he).2
  chain _ he := wellParenthesised_conjunction?_iff (level_predicates hs) he
  aggregate _ _ a := wellParenthesised_aggregate_iff a
  orderKey o k hk := by
    obtain ⟨e, found, rfl⟩ := sortKey_eq_ok_iff.mp hk
    exact exists_field_of_orderKey? found

/-- If the formulas keep their trees, then so do all fields, and all conditions on them. -/
theorem wellParenthesised_field (hs : s.Built dimensions) (keeps : s.KeepsTrees) :
    ∀ x ∈ s.fields, x.column.expr.WellParenthesised := by
  rw [forall_mem_fields_iff]
  exact ⟨fun _ _ => Expr.wellParenthesised_column _ _,
    fun j _ => (wellParenthesised_label j.dimension.label).1, (keepsTrees_iff hs).mp keeps⟩

theorem wellParenthesised_condition (hs : s.Built dimensions) (keeps : s.KeepsTrees) {e : Expr}
    (he : e ∈ Expr.conjunction? s.predicates) : e.WellParenthesised := by
  refine (wellParenthesised_conjunction?_iff (level_predicates hs) he).mpr fun p hp => ?_
  obtain ⟨f, hf, hp⟩ := List.mem_filterMap.mp hp
  obtain ⟨x, hx, subject⟩ := hs.subject f hf
  exact (predicate_of_mem hs hf hp).2.mpr (subject ▸ wellParenthesised_field hs keeps x hx)

/-- A condition on a field that does not keep its tree is in the way of the whole chain. -/
theorem exists_condition (hs : s.Built dimensions) {f : Filter} (hf : f ∈ s.filters) {p : Expr}
    (hp : f.predicate? = some p) (regrouped : ¬ f.subject.WellParenthesised) :
    ∃ e, Expr.conjunction? s.predicates = some e ∧ ¬ e.WellParenthesised := by
  have mem : p ∈ s.predicates := List.mem_filterMap.mpr ⟨f, hf, hp⟩
  obtain ⟨e, he⟩ : ∃ e, Expr.conjunction? s.predicates = some e := by
    cases conditions : s.predicates with
    | nil => exact absurd (conditions ▸ mem) List.not_mem_nil
    | cons x xs => exact ⟨_, rfl⟩
  refine ⟨e, he, fun keeps => regrouped ?_⟩
  have all := (wellParenthesised_conjunction?_iff (level_predicates hs) he).mp keeps
  exact (predicate_of_mem hs hf hp).2.mp (all p mem)

theorem wellParenthesised_compose (hs : s.Built dimensions) (keeps : s.KeepsTrees) {q : Sql.Query}
    (h : s.compose = .ok q) : ∀ e ∈ q.exprs, e.WellParenthesised :=
  forall_exprs_compose h (wellParenthesised_field hs keeps)
    (fun j _ => wellParenthesised_join j s.name) fun _ => wellParenthesised_condition hs keeps

end Star

theorem View.wellParenthesised_compose {dimensions : List Dimension} {s : Star} {v : View}
    (hs : s.Built dimensions) (keeps : s.KeepsTrees) (hv : v.Over s) {q : Sql.Query}
    (h : v.compose s = .ok q) : ∀ e ∈ q.exprs, e.WellParenthesised :=
  forall_exprs_compose h hv (Star.wellParenthesised_field hs keeps)
    (fun j _ => wellParenthesised_join j s.name)
    (fun _ => Star.wellParenthesised_condition hs keeps)
    fun a _ => (wellParenthesised_aggregate_iff a).mpr

end StarSchema
