import StarSchema.Proofs.Model.Filters
import StarSchema.Proofs.Model.Scope
import StarSchema.Proofs.Sql.Rereading
import StarSchema.Proofs.Star.Parenthesised

/-!
# Which queries are read as they were composed

A well-parenthesised expression is read back from its text, and the queries of a model consist of
such expressions as long as its formulas keep their trees. A formula in which an operator stands
before the name of an operation that binds no more tightly does not keep its tree, and neither does
a condition on its field.

Main result: `Model.parenthesised_queries`.
-/

namespace StarSchema

variable {engine : PatternEngine}

open Sql (Expr)

/-! ### Where the condition fails

The text of `x - (y - z)` without its parentheses is that of `(x - y) - z`, and the latter is what a
reader takes it for. So it goes with every operator that stands before an operation of its own level
or of a lower one, and one calculated field in another is enough to get there.
-/

section

variable {d : Sql.Dialect} {op op' : Operation} {x y z : Expr}

theorem tokens_operation (op : Operation) (x y : Expr) :
    (Expr.binary op.binaryOp x y).tokens d =
      x.tokens d ++ .space :: op.binaryOp.token :: .space :: y.tokens d := by
  have notConcat : op.binaryOp ≠ .concat := by cases op <;> decide
  rw [Expr.tokens, if_neg fun h => notConcat h.1]

/-- A right operand that binds no more tightly loses its left operand to the operator before it. -/
theorem readExpr?_regrouped (not_looser : op'.level ≤ op.level) (hx : x.WellParenthesised)
    (hy : y.WellParenthesised) (hz : z.WellParenthesised) (rx : x.Readable) (ry : y.Readable)
    (rz : z.Readable) (lx : op.level ≤ x.level) (ly : op.level < y.level)
    (lz : op'.level < z.level) :
    d.readExpr? ((Expr.binary op.binaryOp x (.binary op'.binaryOp y z)).sql d) =
      some ((Expr.binary op'.binaryOp (.binary op.binaryOp x y) z).identified d) := by
  have text : (Expr.binary op.binaryOp x (.binary op'.binaryOp y z)).sql d =
      (Expr.binary op'.binaryOp (.binary op.binaryOp x y) z).sql d := by
    rw [Expr.sql, Expr.sql, tokens_operation, tokens_operation, tokens_operation,
      tokens_operation, List.append_assoc, List.cons_append, List.cons_append, List.cons_append]
  have admits {op : Operation} {x y : Expr} (lx : op.level ≤ x.level) (ly : op.level < y.level) :
      op.binaryOp.Admits x y := by
    refine ⟨lx, ly, fun comparison => ?_, fun concat => ?_⟩
    · cases op <;> cases comparison
    · cases op <;> cases concat
  rw [text]
  refine Expr.readExpr?_sql ?_ ?_ d
  · rw [Expr.wellParenthesised_binary, Expr.wellParenthesised_binary]
    exact ⟨admits not_looser lz, ⟨admits lx ly, hx, hy⟩, hz⟩
  · rw [Expr.Readable, Expr.Readable]
    exact ⟨⟨rx, ry⟩, rz⟩

end

/-- The outer field of a chain, as an expression. -/
def Sql.Expr.chain (op op' : Operation) : Expr :=
  .binary op.binaryOp (.column "sales" "x")
    (.binary op'.binaryOp (.column "sales" "y") (.column "sales" "z"))

theorem wellParenthesised_chain_iff (op op' : Operation) :
    (Expr.chain op op').WellParenthesised ↔ op.level < op'.level := by
  have outer : op.binaryOp.Admits _ _ ↔ op.level < op'.level :=
    @admits_grouped_iff _ (.binary op'.binaryOp (.column "sales" "y") (.column "sales" "z"))
      (.column "sales" "x") op
  have inner : op'.binaryOp.Admits _ _ :=
    (@admits_grouped_iff _ (.column "sales" "z") (.column "sales" "y") op').mpr op'.level_lt_five
  rw [Expr.chain, Expr.wellParenthesised_binary, Expr.wellParenthesised_binary]
  exact (and_iff_left ⟨Expr.wellParenthesised_column _ _, inner,
    Expr.wellParenthesised_column _ _, Expr.wellParenthesised_column _ _⟩).trans outer

/-- If the inner operator binds no more tightly, the text of a chain is read as another tree. -/
theorem readExpr?_chain {op op' : Operation} (not_looser : op'.level ≤ op.level)
    (d : Sql.Dialect) :
    ∃ e, d.readExpr? ((Expr.chain op op').sql d) = some e ∧
      e ≠ (Expr.chain op op').identified d := by
  have readable (c : String) : (Expr.column "sales" c).Readable := by
    rw [Expr.Readable]
    trivial
  refine ⟨_, readExpr?_regrouped not_looser (Expr.wellParenthesised_column _ _)
    (Expr.wellParenthesised_column _ _) (Expr.wellParenthesised_column _ _) (readable "x")
    (readable "y") (readable "z") (Nat.le_of_lt op.level_lt_five) op.level_lt_five
    op'.level_lt_five, ?_⟩
  rw [Expr.chain]
  simp only [Expr.identified]
  intro same
  cases (Expr.binary.inj same).2.1

namespace Star

/-- The lower bound on the outer field of a chain. -/
def outerBound (op op' : Operation) : Filter where
  operator := .ge
  fieldName := "outer"
  dataType := .float
  subject := .chain op op'

/-- A star of the fact of a chain: the outer field puts the inner one behind its operator, and no
other field has a filter of the name of its lower bound. -/
structure IsChain (op op' : Operation) (s : Star) (inner outer : CalculatedField) : Prop where
  built : ofFact [] (.chain op op') = .ok s
  calculated : s.calculated = [inner, outer]
  orderBy : s.fact.table.orderBy = []
  expr : outer.expr = .chain op op'
  displayName : outer.displayName = "outer"
  visible : outer.visible = true
  stored : ∀ x ∈ s.fact.table.fields, ∀ f ∈ x.filters, f.displayName ≠ "outer >="
  inner : ∀ f ∈ inner.filters, f.displayName ≠ "outer >="

theorem chain_expr_outcome (op op' : Operation) :
    (ofFact [] (.chain op op')).toOption.any (fun s =>
      match s.calculated with
      | [inner, outer] =>
        match outer.expr with
        | .binary o (.column "sales" "x")
            (.binary o' (.column "sales" "y") (.column "sales" "z")) =>
          decide (o = op.binaryOp ∧ o' = op'.binaryOp ∧ s.fact.table.orderBy = [] ∧
            outer.displayName = "outer" ∧ outer.visible = true ∧
            (∀ x ∈ s.fact.table.fields, ∀ f ∈ x.filters, f.displayName ≠ "outer >=") ∧
            ∀ f ∈ inner.filters, f.displayName ≠ "outer >=")
        | _ => false
      | _ => false) = true := by
  cases op <;> cases op' <;> decide +kernel

theorem exists_isChain (op op' : Operation) : ∃ s inner outer, IsChain op op' s inner outer := by
  obtain ⟨s, built, outcome⟩ := exists_of_any_toOption (chain_expr_outcome op op')
  split at outcome
  · next inner outer calculated =>
    split at outcome
    · next expr =>
      obtain ⟨rfl, rfl, orderBy, displayName, visible, stored, inner_filters⟩ :=
        of_decide_eq_true outcome
      exact ⟨s, inner, outer,
        { built, calculated, orderBy, expr, displayName, visible, stored, inner := inner_filters }⟩
    · cases outcome
  · cases outcome

variable {op op' : Operation} {s : Star} {inner outer : CalculatedField}

theorem IsChain.filter?_outer (h : IsChain op op' s inner outer) :
    s.filter? "outer >=" = some (outerBound op op') := by
  obtain ⟨-, noDimension⟩ := built_of_ofFact h.built
  have outer_filters :
      outer.filters = [outerBound op op', { outerBound op op' with operator := .le }] := by
    rw [CalculatedField.filters, if_pos h.visible, h.expr, h.displayName]
    rfl
  have filters (f : Filter) : f ∈ s.filters ↔
      (∃ x ∈ s.fact.table.fields, f ∈ x.filters) ∨ f ∈ inner.filters ∨ f ∈ outer.filters := by
    rw [filters_of_ofFact h.built, mem_initialFilters_iff, h.calculated]
    refine (or_iff_right ?_).trans (by simp)
    rintro ⟨j, hj, -⟩
    exact List.not_mem_nil (noDimension.dimension j hj)
  refine @filter?_eq_some s (outerBound op op') ?_ fun g hg named => ?_
  · rw [filters, outer_filters]
    exact .inr (.inr List.mem_cons_self)
  · rcases (filters g).mp hg with ⟨x, hx, hg⟩ | hg | hg
    · exact absurd named (h.stored x hx g hg)
    · exact absurd named (h.inner g hg)
    · rw [outer_filters, List.mem_pair] at hg
      rcases hg with rfl | rfl
      · rfl
      · exact absurd (show "outer <=" = "outer >=" from named) (by decide)

/-- A value for the lower bound gets an expression into the query that does not keep its tree. -/
theorem IsChain.exists_query (h : IsChain op op' s inner outer) (not_looser : op'.level ≤ op.level)
    {input : Input} {v : Value} (given : input.isEmpty = false)
    (converted : convert .float input = .ok (some v)) :
    ∃ s' q e, s.setFilter "outer >=" input = .ok s' ∧ s'.compose = .ok q ∧ q.where? = some e ∧
      ¬ e.WellParenthesised := by
  have set : (outerBound op op').set input =
      .ok { outerBound op op' with input, value? := some v } := by
    rw [Filter.set_eq_map_valueOf, Filter.valueOf, given, outerBound, if_neg Bool.false_ne_true,
      converted]
    rfl
  obtain ⟨s', hset, hg⟩ := setFilter_eq_ok h.filter?_outer set
  have refilled := refilled_setFilter hset
  have condition : Filter.predicate? { outerBound op op' with input, value? := some v } =
      some (Operator.ge.predicate (.chain op op') v) := by
    rw [Filter.predicate?, given]
    rfl
  have regrouped : ¬ (Expr.chain op op').WellParenthesised := by
    rw [wellParenthesised_chain_iff]
    exact Nat.not_lt.mpr not_looser
  obtain ⟨e, he, notWell⟩ :=
    exists_condition (refilled.built (built_of_ofFact h.built).2) hg condition regrouped
  obtain ⟨q, composed, where_⟩ : ∃ q, s'.compose = .ok q ∧
      q.where? = Expr.conjunction? s'.predicates := by
    obtain ⟨filters, rfl, -⟩ := refilled
    exact ⟨_, by rw [compose, h.orderBy]; rfl, rfl⟩
  exact ⟨s', q, e, hset, composed, where_.trans he, notWell⟩

end Star

/-! ### The queries of a model -/

namespace Model

/-- **Which expressions are read back from their texts.** Every well-parenthesised one is, and every
part of the queries of a model is well-parenthesised as far as formulas keep their trees. For each
pair of operators with which a formula does not, there is a star with a condition that is not
well-parenthesised and a field that is read back as another tree. -/
theorem parenthesised_queries (dialect : Sql.Dialect) :
    (∀ e : Expr, e.WellParenthesised → e.Readable →
      dialect.readExpr? (e.sql dialect) = some (e.identified dialect)) ∧
    (∀ {d : ModelDecl} {m : Model}, Model.ofDecl engine d = .ok m →
      ∀ (requests : List FilterRequest) {name : String} {s : Star},
        (m.runFilters requests).star name = .ok s →
        s.Parenthesised ∧
        (s.KeepsTrees →
          (∀ q, (m.runFilters requests).composeStar name = .ok q →
            ∀ e ∈ q.exprs, e.WellParenthesised) ∧
          ∀ {view : String} {v : View}, (m.runFilters requests).view view = .ok v →
            v.fact = name → ∀ q, (m.runFilters requests).composeView view = .ok q →
              ∀ e ∈ q.exprs, e.WellParenthesised)) ∧
    ∀ op op' : Operation, op'.level ≤ op.level →
      ∃ s inner outer, Star.ofFact [] (.chain op op') = .ok s ∧ s.calculated = [inner, outer] ∧
        (∀ {input : Input} {v : Value}, input.isEmpty = false →
          convert .float input = .ok (some v) →
          ∃ s' q e, s.setFilter "outer >=" input = .ok s' ∧ s'.compose = .ok q ∧
            q.where? = some e ∧ ¬ e.WellParenthesised) ∧
        ∃ e, dialect.readExpr? (outer.expr.sql dialect) = some e ∧
          e ≠ outer.expr.identified dialect := by
  refine ⟨fun e parenthesised readable => e.readExpr?_sql parenthesised readable dialect,
    fun {d m} built requests {name s} hs => ?_, fun op op' not_looser => ?_⟩
  · obtain ⟨bound, -⟩ := bound_runFilters (bound_of_ofDecl built) requests
    obtain ⟨-, -, star⟩ := bound.star hs
    refine ⟨Star.parenthesised_of_built star, fun keeps => ⟨fun q hq => ?_, ?_⟩⟩
    · obtain ⟨s', hs', composed⟩ := composeStar_eq_ok_iff.mp hq
      cases hs.symm.trans hs'
      exact Star.wellParenthesised_compose star keeps composed
    · rintro view v hv rfl q hq
      obtain ⟨v', s', hv', hs', composed⟩ := composeView_eq_ok_iff.mp hq
      cases hv.symm.trans hv'
      cases hs.symm.trans hs'
      exact View.wellParenthesised_compose star keeps (bound.view hv hs) composed
  · obtain ⟨s, inner, outer, chain⟩ := Star.exists_isChain op op'
    refine ⟨s, inner, outer, chain.built, chain.calculated,
      chain.exists_query not_looser, ?_⟩
    rw [chain.expr]
    exact readExpr?_chain not_looser dialect

end Model

/-- A condition with a pattern on a concatenation, and one with a difference. -/
def Sql.Expr.titled : Expr :=
  .and
    (.like (.binary .concat (.column "t" "title") (.string " ")) (.string "%one%") likeEscape false)
    (.binary .ge (.binary .minus (.column "t" "price") (.literal (.int 2)))
      (.literal (.bool true)))

theorem Sql.Expr.readable_titled : Expr.titled.Readable := by
  simp [titled, Expr.and, Expr.string, Readable, Literal.Readable]

namespace Model

theorem sales_parenthesised_outcome :
    (Model.ofDecl .plain .sales).toOption.any (fun m =>
      let m' := m.runFilters [.clear "sales"]
      (m'.star "sales").toOption.any
          (fun s => decide (∀ c ∈ s.calculated, c.expr.WellParenthesised)) &&
        (m'.view "margins").toOption.any (fun v => decide (v.fact = "sales")) &&
        (m'.composeStar "sales").isOk && (m'.composeView "margins").isOk) = true := by
  decide +kernel

theorem parenthesised_queries_sales :
    Sql.Dialect.mysql.readExpr? (Expr.titled.sql .mysql) = some (Expr.titled.identified .mysql) ∧
    (∃ m s, Model.ofDecl .plain .sales = .ok m ∧
      (m.runFilters [.clear "sales"]).star "sales" = .ok s ∧
      s.Parenthesised ∧ s.KeepsTrees ∧
      (∃ q, (m.runFilters [.clear "sales"]).composeStar "sales" = .ok q ∧
        ∀ e ∈ q.exprs, e.WellParenthesised) ∧
      ∃ q, (m.runFilters [.clear "sales"]).composeView "margins" = .ok q ∧
        ∀ e ∈ q.exprs, e.WellParenthesised) ∧
    ∃ s inner outer, Star.ofFact [] (.chain .sub .sub) = .ok s ∧ s.calculated = [inner, outer] ∧
      (∃ s' q e, s.setFilter "outer >=" (.int 1) = .ok s' ∧ s'.compose = .ok q ∧
        q.where? = some e ∧ ¬ e.WellParenthesised) ∧
      ∃ e, Sql.Dialect.mysql.readExpr? (outer.expr.sql .mysql) = some e ∧
        e ≠ outer.expr.identified .mysql := by
  obtain ⟨reading, queries, failures⟩ := parenthesised_queries .mysql
  refine ⟨reading _ (by decide) Expr.readable_titled, ?_, ?_⟩
  · obtain ⟨m, built, outcome⟩ := exists_of_any_toOption sales_parenthesised_outcome
    simp only [Bool.and_eq_true] at outcome
    obtain ⟨⟨⟨star, view⟩, composed⟩, composed'⟩ := outcome
    obtain ⟨s, hs, fields⟩ := exists_of_any_toOption star
    obtain ⟨v, hv, fact⟩ := exists_of_any_toOption view
    obtain ⟨q, hq⟩ := exists_eq_ok_of_isOk composed
    obtain ⟨q', hq'⟩ := exists_eq_ok_of_isOk composed'
    obtain ⟨bound, -⟩ := bound_runFilters (bound_of_ofDecl built) [.clear "sales"]
    have keeps := (Star.keepsTrees_iff (bound.star hs).2.2).mpr (of_decide_eq_true fields)
    obtain ⟨parenthesised, whole⟩ := queries built [.clear "sales"] hs
    obtain ⟨stars, views⟩ := whole keeps
    exact ⟨m, s, built, hs, parenthesised, keeps, ⟨q, hq, stars q hq⟩,
      q', hq', views hv (of_decide_eq_true fact) q' hq'⟩
  · obtain ⟨s, inner, outer, built, calculated, condition, reread⟩ :=
      failures .sub .sub (Nat.le_refl _)
    exact ⟨s, inner, outer, built, calculated, condition (v := .float _) rfl rfl, reread⟩

end Model

end StarSchema
