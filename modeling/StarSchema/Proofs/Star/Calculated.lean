import Mathlib.Algebra.Field.Rat
import StarSchema.Proofs.Formula.Text
import StarSchema.Star.Basic

/-!
# What a calculated column means

A calculated field is written into a query as the expression of its formula, in which names of
earlier calculated fields stand for their expressions. The text is read with the value of the
formula as long as no such name is a right operand whose own operations the reader would group with
the operator before it.

Main definitions: `Star.operandValue?`, `Star.calculatedValues`.

Main result: `Star.value_of_calculated_text`.
-/

namespace StarSchema

namespace Star

section

variable {K : Type} [DivisionRing K] [DecidableEq K]

/-- The value of a name in a formula: that of the first field of the fact with this display name,
or else of the first such calculated field that came earlier. -/
def operandValue? (a : Assignment K) (fact : Fact) (values : List (String × Option K))
    (name : String) : Option K :=
  match fact.table.fields.find? (·.displayName == name) with
  | some f => some (a.column f.table f.name)
  | none => (values.find? (·.1 == name)).bind (·.2)

/-- The values of calculated fields, each by the field's own formula, with the names to which they
are given. -/
def calculatedValues (a : Assignment K) (fact : Fact) (cs : List CalculatedField) :
    List (String × Option K) :=
  cs.foldl (fun values c =>
    values ++ [(c.displayName, c.formula.value a (operandValue? a fact values))]) []

theorem calculatedValues_concat (a : Assignment K) (fact : Fact) (cs : List CalculatedField)
    (c : CalculatedField) :
    calculatedValues a fact (cs ++ [c]) = calculatedValues a fact cs ++
      [(c.displayName, c.formula.value a (operandValue? a fact (calculatedValues a fact cs)))] := by
  rw [calculatedValues, List.foldl_append]
  rfl

end

/-! ### The expressions of a star -/

/-- Each calculated field has the expression of its formula, in which names stand for the
expressions of fields before it. -/
def Composed (fact : Fact) (cs : List CalculatedField) : Prop :=
  ∀ earlier c later, cs = earlier ++ c :: later →
    c.formula.isFinite = true ∧ c.formula.eval (operand? fact earlier) = .ok c.expr

theorem Composed.concat {fact : Fact} {cs : List CalculatedField} {c : CalculatedField}
    (h : Composed fact cs) (finite : c.formula.isFinite = true)
    (expr : c.formula.eval (operand? fact cs) = .ok c.expr) : Composed fact (cs ++ [c]) := by
  intro earlier c' later split
  rcases later.eq_nil_or_concat with rfl | ⟨later', x, rfl⟩
  · obtain ⟨rfl, rfl⟩ : cs = earlier ∧ c = c' := by simpa using split
    exact ⟨finite, expr⟩
  · refine h earlier c' later' ?_
    rw [List.concat_eq_append, ← List.cons_append, ← List.append_assoc] at split
    exact List.append_inj_left' split rfl

theorem Composed.prefix {fact : Fact} {cs ds : List CalculatedField}
    (h : Composed fact (cs ++ ds)) : Composed fact cs := by
  intro earlier c later split
  refine h earlier c (later ++ ds) ?_
  rw [split, List.append_assoc, List.cons_append]

theorem isFinite_of_parse {source : String} {f : Formula} (h : Formula.parse source = .ok f) :
    f.isFinite = true := by
  unfold Formula.parse at h
  split at h
  · cases h
  · split at h
    · next finite =>
      cases h
      exact finite
    · cases h

/-- One more calculated field is composed from those before it. -/
theorem composed_addCalculated {fact : Fact} {cs cs' : List CalculatedField} {d : CalculatedDecl}
    (h : Composed fact cs) (added : addCalculated fact cs d = .ok cs') : Composed fact cs' := by
  obtain ⟨c, hc, added⟩ := bind_eq_ok_iff.mp added
  obtain ⟨formula, parsed, hc⟩ := bind_eq_ok_iff.mp (mapError_eq_ok_iff.mp hc)
  obtain ⟨expr, evaluated, hc⟩ := bind_eq_ok_iff.mp hc
  obtain ⟨default?, -, hc⟩ := bind_eq_ok_iff.mp hc
  have hc := pure_eq_ok_iff.mp hc
  rw [← pure_eq_ok_iff.mp added]
  subst hc
  exact h.concat (isFinite_of_parse (mapError_eq_ok_iff.mp parsed))
    (mapError_eq_ok_iff.mp evaluated)

/-- All that a star is made of, if it is built. -/
theorem ofFact_eq_ok_iff {dimensions : List Dimension} {fact : Fact} {s : Star} :
    ofFact dimensions fact = .ok s ↔ ∃ resolved calculated,
      fact.table.foreignKeys.mapM (resolveJoin fact.name dimensions) = .ok resolved ∧
      fact.calculated.foldlM (addCalculated fact) [] = .ok calculated ∧
      { fact, calculated
        joins := resolved.foldl addJoin []
        filters := initialFilters fact (resolved.foldl addJoin []) calculated } = s := by
  simp only [ofFact, bind_eq_ok_iff, pure_eq_ok_iff, exists_and_left]

theorem composed_of_ofFact {dimensions : List Dimension} {fact : Fact} {s : Star}
    (h : ofFact dimensions fact = .ok s) : Composed fact s.calculated := by
  obtain ⟨resolved, calculated, -, folded, rfl⟩ := ofFact_eq_ok_iff.mp h
  have start : Composed fact [] := by
    intro earlier c later split
    simp at split
  exact foldlM_invariant (fun _ _ _ => composed_addCalculated) start folded

/-! ### Names -/

/-- A name stands for the column of a field, or for the expression of a calculated field. -/
theorem operand?_eq (fact : Fact) (cs : List CalculatedField) (name : String) :
    operand? fact cs name =
      match fact.table.fields.find? (·.displayName == name) with
      | some f => some (.column f.table f.name)
      | none => (cs.find? (·.displayName == name)).map (·.expr) := by
  rw [operand?, Column.find?, List.find?_append, List.find?_map, List.find?_map]
  show Option.map _ (Option.or (Option.map _ (fact.table.fields.find? (·.displayName == name)))
    (Option.map _ (cs.find? (·.displayName == name)))) = _
  cases fact.table.fields.find? (·.displayName == name) with
  | some f => rfl
  | none =>
    rw [Option.map_none, Option.none_or, Option.map_map]
    rfl

/-- What holds of the fact's columns and of the calculated fields holds of what names stand for. -/
theorem forall_operand? {P : Sql.Expr → Prop} {fact : Fact} {cs : List CalculatedField}
    (column : ∀ f ∈ fact.table.fields, P (.column f.table f.name))
    (calculated : ∀ c ∈ cs, P c.expr) (name : String) (e : Sql.Expr)
    (h : operand? fact cs name = some e) : P e := by
  rw [operand?_eq] at h
  split at h
  · next f found =>
    cases h
    exact column f (List.mem_of_find?_eq_some found)
  · obtain ⟨c, hc, rfl⟩ := Option.map_eq_some_iff.mp h
    exact calculated c (List.mem_of_find?_eq_some hc)

/-- What holds of the fact's columns, and of a formula's expression if it holds of the expressions
that names stand for, holds of all calculated fields. -/
theorem forall_of_composed {P : Sql.Expr → Prop} {fact : Fact} {cs : List CalculatedField}
    (h : Composed fact cs) (column : ∀ f ∈ fact.table.fields, P (.column f.table f.name))
    (formula : ∀ {expr? : String → Option Sql.Expr}, (∀ name e, expr? name = some e → P e) →
      ∀ (f : Formula) {e : Sql.Expr}, f.isFinite = true → f.eval expr? = .ok e → P e) :
    ∀ c ∈ cs, P c.expr := by
  induction cs using List.reverseRecOn with
  | nil => simp
  | append_singleton cs c ih =>
    have earlier := ih h.prefix
    have ⟨finite, expr⟩ := h cs c [] rfl
    intro c' hc'
    rcases List.mem_append.mp hc' with hc' | hc'
    · exact earlier c' hc'
    · obtain rfl := List.mem_singleton.mp hc'
      exact formula (forall_operand? column earlier) _ finite expr

theorem computed_of_composed {fact : Fact} {cs : List CalculatedField} (h : Composed fact cs) :
    ∀ c ∈ cs, c.expr.Computed :=
  forall_of_composed h (fun _ _ => .column _ _) fun names => Formula.computed_eval names

section

variable {K : Type} [DivisionRing K] [DecidableEq K]

/-- The expression of a name has the value of the name. -/
theorem value_operand? (a : Assignment K) {fact : Fact} {cs : List CalculatedField}
    {name : String} {e : Sql.Expr} (h : operand? fact cs name = some e) :
    e.value a = operandValue? a fact (cs.map fun c => (c.displayName, c.expr.value a)) name := by
  rw [operand?_eq] at h
  rw [operandValue?]
  split at h
  · cases h
    rfl
  · obtain ⟨c, hc, rfl⟩ := Option.map_eq_some_iff.mp h
    rw [List.find?_map]
    show _ = ((cs.find? (·.displayName == name)).map _).bind _
    rw [hc]
    rfl

/-- The expressions of calculated fields have the values of their formulas. -/
theorem calculatedValues_eq_map (a : Assignment K) {fact : Fact} {cs : List CalculatedField}
    (h : Composed fact cs) :
    calculatedValues a fact cs = cs.map fun c => (c.displayName, c.expr.value a) := by
  induction cs using List.reverseRecOn with
  | nil => rfl
  | append_singleton cs c ih =>
    have ⟨_, expr⟩ := h cs c [] rfl
    rw [calculatedValues_concat, ih h.prefix, List.map_append,
      ← Formula.value_eval (fun name e he => value_operand? a he) _ expr]
    rfl

end

/-! ### The text -/

/-- The expression of a calculated field has the value of its formula. -/
theorem value_expr_of_composed {K : Type} [DivisionRing K] [DecidableEq K] {fact : Fact}
    {cs earlier later : List CalculatedField} {c : CalculatedField} (h : Composed fact cs)
    (split : cs = earlier ++ c :: later) (a : Assignment K) :
    c.expr.value a =
      c.formula.value a (operandValue? a fact (calculatedValues a fact earlier)) := by
  have before : Composed fact earlier := Composed.prefix (split ▸ h)
  rw [calculatedValues_eq_map a before]
  exact Formula.value_eval (fun name e he => value_operand? a he) _ (h earlier c later split).2

/-- The text of a calculated field is read with the value of its formula, if the field's expression
may do without the parentheses that it does without. -/
theorem value_of_faithful_text {dimensions : List Dimension} {fact : Fact} {s : Star}
    (built : ofFact dimensions fact = .ok s) {earlier later : List CalculatedField}
    {c : CalculatedField} (split : s.calculated = earlier ++ c :: later)
    (faithful : c.formula.isFaithful (operand? fact earlier) = true) (d : Sql.Dialect) :
    ∃ e, d.readArithmetic? (c.expr.sql d) = some e ∧
      ∀ {K : Type} [DivisionRing K] [DecidableEq K] (a : Assignment K),
        e.value a = c.formula.value a (operandValue? a fact (calculatedValues a fact earlier)) := by
  have composed := composed_of_ofFact built
  have computed := computed_of_composed composed c (by simp [split])
  have ⟨_, expr⟩ := composed earlier c later split
  rw [← c.formula.isFaithful_eval expr] at faithful
  refine ⟨_, Sql.readArithmetic?_sql computed d, fun a => ?_⟩
  rw [Sql.Expr.value_reread_none computed faithful]
  exact value_expr_of_composed composed split a

end Star

/-! ### Where the condition fails

One calculated field in another, as its right operand: for each pair of operators that the
condition excludes, the text of the outer field is read with another value. -/

/-- A fact with the calculated fields `y op' z` and `x op inner`, where `inner` is the first of
them. -/
def FactDecl.chain (op op' : Operation) : FactDecl where
  table :=
    { name := "sales"
      fields :=
        [{ name := "id", dataType? := some .int, isKey := true },
          { name := "x", dataType? := some .float },
          { name := "y", dataType? := some .float },
          { name := "z", dataType? := some .float }] }
  calculated :=
    [{ displayName := "inner"
       formula := String.ofList ("[y]".toList ++ op'.text ++ "[z]".toList) },
      { displayName := "outer"
        formula := String.ofList ("[x]".toList ++ op.text ++ "[inner]".toList) }]

def Fact.chain (op op' : Operation) : Fact :=
  (Fact.ofDecl .plain {} (.chain op op')).toOption.get
    (by cases op <;> cases op' <;> decide +kernel)

/-- A row of the fact. -/
def Assignment.primes : Assignment ℚ where
  number _ := 0
  column _ name := if name = "x" then 2 else if name = "y" then 3 else 5

namespace Star

theorem chain_outcome (op op' : Operation) :
    (ofFact [] (.chain op op')).toOption.any (fun s =>
      match s.calculated with
      | [inner, outer] =>
        outer.formula.isFaithful (operand? (.chain op op') [inner]) == op.keeps op' &&
          (outer.expr.value .primes).isSome &&
          decide ((outer.expr.reread none).value .primes = outer.expr.value .primes) ==
            op.keeps op'
      | _ => false) = true := by
  cases op <;> cases op' <;> decide +kernel

/-- The outer field is faithful just if its operator keeps that of the inner one, and just then its
text is read with its value, in a row that divides nothing by zero. -/
theorem exists_chain (op op' : Operation) : ∃ s inner outer v,
    ofFact [] (.chain op op') = .ok s ∧ s.calculated = [inner, outer] ∧
      outer.formula.isFaithful (operand? (.chain op op') [inner]) = op.keeps op' ∧
      outer.expr.value .primes = some v ∧
      ((outer.expr.reread none).value .primes = some v ↔ op.keeps op' = true) := by
  have outcome := chain_outcome op op'
  cases built : ofFact [] (.chain op op') with
  | error e =>
    rw [built] at outcome
    cases outcome
  | ok s =>
    rw [built] at outcome
    change (match s.calculated with | [inner, outer] => _ | _ => false) = true at outcome
    split at outcome
    · next inner outer calculated =>
      rw [Bool.and_eq_true, Bool.and_eq_true, beq_iff_eq, beq_iff_eq] at outcome
      obtain ⟨⟨faithful, defined⟩, exact_⟩ := outcome
      obtain ⟨v, value⟩ := Option.isSome_iff_exists.mp defined
      rw [value] at exact_
      exact ⟨s, inner, outer, v, rfl, calculated, faithful, value,
        by rw [← exact_, decide_eq_true_eq]⟩
    · cases outcome

/-- **What the text of a calculated field means.** Read with SQL's rules, it has the value of the
field's formula, computed strictly from left to right, if no name of a calculated field is a right
operand of an operator that does not keep its operation. Each of the pairs of operators that this
excludes has a fact where the text is read with another value. -/
theorem value_of_calculated_text (d : Sql.Dialect) :
    (∀ {dimensions : List Dimension} {fact : Fact} {s : Star},
      ofFact dimensions fact = .ok s →
      ∀ {earlier later : List CalculatedField} {c : CalculatedField},
        s.calculated = earlier ++ c :: later →
        c.formula.isFaithful (operand? fact earlier) = true →
        ∃ e, d.readArithmetic? (c.expr.sql d) = some e ∧
          ∀ {K : Type} [DivisionRing K] [DecidableEq K] (a : Assignment K),
            e.value a =
              c.formula.value a (operandValue? a fact (calculatedValues a fact earlier))) ∧
    ∀ op op' : Operation, op.keeps op' = false →
      ∃ s inner outer, ofFact [] (.chain op op') = .ok s ∧ s.calculated = [inner, outer] ∧
        ∃ e, d.readArithmetic? (outer.expr.sql d) = some e ∧
          ∃ (a : Assignment ℚ) (v : ℚ),
            outer.formula.value a (operandValue? a (.chain op op')
              (calculatedValues a (.chain op op') [inner])) = some v ∧
            e.value a ≠ some v := by
  refine ⟨fun built _ _ _ split faithful => value_of_faithful_text built split faithful d, ?_⟩
  intro op op' notKept
  obtain ⟨s, inner, outer, v, built, calculated, -, value, exact_⟩ := exists_chain op op'
  have composed := composed_of_ofFact built
  have computed := computed_of_composed composed outer (by simp [calculated])
  rw [@value_expr_of_composed _ _ _ _ _ [inner] [] _ composed calculated .primes] at value
  refine ⟨s, inner, outer, built, calculated, _, Sql.readArithmetic?_sql computed d, .primes, v,
    value, ?_⟩
  rw [Ne, exact_, notKept]
  exact Bool.false_ne_true

theorem value_of_calculated_text_chain : ∃ s inner outer,
    ofFact [] (.chain .sub .mul) = .ok s ∧ s.calculated = [inner] ++ outer :: [] ∧
      outer.formula.isFaithful (operand? (.chain .sub .mul) [inner]) = true ∧
      (∃ e, Sql.Dialect.mysql.readArithmetic? (outer.expr.sql .mysql) = some e ∧
        ∀ a : Assignment ℚ, e.value a = outer.formula.value a
          (operandValue? a (.chain .sub .mul) (calculatedValues a (.chain .sub .mul) [inner]))) ∧
      Operation.sub.keeps .sub = false ∧
      ∃ s' inner' outer', ofFact [] (.chain .sub .sub) = .ok s' ∧
        s'.calculated = [inner', outer'] ∧
        ∃ e, Sql.Dialect.mysql.readArithmetic? (outer'.expr.sql .mysql) = some e ∧
          ∃ (a : Assignment ℚ) (v : ℚ),
            outer'.formula.value a (operandValue? a (.chain .sub .sub)
              (calculatedValues a (.chain .sub .sub) [inner'])) = some v ∧
            e.value a ≠ some v := by
  obtain ⟨s, inner, outer, -, built, calculated, faithful, -⟩ := exists_chain .sub .mul
  obtain ⟨e, read, value⟩ :=
    @(value_of_calculated_text .mysql).1 _ _ _ built [inner] [] _ calculated faithful
  exact ⟨s, inner, outer, built, calculated, faithful, ⟨e, read, fun a => value a⟩, rfl,
    (value_of_calculated_text .mysql).2 .sub .sub rfl⟩

end Star

end StarSchema
