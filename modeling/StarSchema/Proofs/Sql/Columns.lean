import StarSchema.Formula.Sql
import StarSchema.Sql.Query

/-!
# The expressions of a query and their columns

What a query says about its tables: the tables that it reads, the expressions in its clauses, and
the columns that these name at any depth.

Main definitions: `Expr.columns`, `Query.tableNames`, `Query.exprs`, `Query.Scoped`.

Main results: `Expr.forall_conjunction?`, by which what holds of conditions holds of their
conjunction, and `Query.forall_mem_exprs_iff`.
-/

namespace StarSchema.Sql

/-! ### Expressions -/

mutual

/-- The columns in an expression, each with the name of its table. -/
def Expr.columns : Expr → List (String × String)
  | .column t c => [(t, c)]
  | .literal _ => []
  | .binary _ left right => left.columns ++ right.columns
  | .call _ args => Expr.argColumns args
  | .like subject pattern _ _ => subject.columns ++ pattern.columns
  | .dateOf e => e.columns
  | .paren e => e.columns

def Expr.argColumns : List Expr → List (String × String)
  | [] => []
  | e :: es => e.columns ++ Expr.argColumns es

end

namespace Expr

@[simp]
theorem columns_column (t c : String) : (column t c).columns = [(t, c)] := by
  rw [columns]

@[simp]
theorem columns_literal (l : Literal) : (literal l).columns = [] := by
  rw [columns]

@[simp]
theorem columns_string (s : String) : (string s).columns = [] :=
  columns_literal _

@[simp]
theorem columns_float (x : Binary64) : (float x).columns = [] :=
  columns_literal _

@[simp]
theorem columns_binary (op : BinaryOp) (left right : Expr) :
    (binary op left right).columns = left.columns ++ right.columns := by
  rw [columns]

@[simp]
theorem columns_call_singleton (function : String) (e : Expr) :
    (call function [e]).columns = e.columns := by
  rw [columns, argColumns, argColumns, List.append_nil]

@[simp]
theorem columns_like (subject pattern : Expr) (escape : Char) (negated : Bool) :
    (like subject pattern escape negated).columns = subject.columns ++ pattern.columns := by
  rw [columns]

@[simp]
theorem columns_dateOf (e : Expr) : (dateOf e).columns = e.columns := by
  rw [columns]

@[simp]
theorem columns_paren (e : Expr) : (paren e).columns = e.columns := by
  rw [columns]

@[simp]
theorem columns_grouped (e : Expr) : e.grouped.columns = e.columns := by
  cases e with
  | binary op left right => rw [grouped, columns_paren]
  | _ => rfl

@[simp]
theorem columns_ofValue (v : Value) : (ofValue v).columns = [] := by
  cases v <;> exact columns_literal _

/-- What holds of the first condition and is kept by each further one holds of the conjunction. -/
theorem forall_conjunction? {P Q : Expr → Prop} {es : List Expr} {e : Expr}
    (h : conjunction? es = some e) (conditions : ∀ x ∈ es, Q x) (first : ∀ x, Q x → P x)
    (step : ∀ x y, P x → Q y → P (x.and y)) : P e := by
  cases es with
  | nil => cases h
  | cons x xs =>
    cases h
    rw [List.forall_mem_cons] at conditions
    obtain ⟨start, further⟩ := conditions
    replace start := first x start
    induction xs generalizing x with
    | nil => exact start
    | cons y ys ih =>
      rw [List.forall_mem_cons] at further
      exact ih (x.and y) further.2 (step x y start further.1)

end Expr

/-! ### Queries -/

namespace Query

/-- The table that a query selects from and those that it joins. -/
def tableNames (q : Query) : List String :=
  q.from?.toList ++ q.joins.map (·.table)

/-- The expressions in all clauses of a query. -/
def exprs (q : Query) : List Expr :=
  q.select.map (·.expr) ++ q.joins.map (·.on) ++ q.where?.toList ++ q.groupBy ++
    q.orderBy.map (·.expr)

/-- What holds of all expressions of a query holds of those in each clause. -/
theorem forall_mem_exprs_iff {P : Expr → Prop} {q : Query} :
    (∀ e ∈ q.exprs, P e) ↔
      (∀ item ∈ q.select, P item.expr) ∧ (∀ j ∈ q.joins, P j.on) ∧ (∀ e ∈ q.where?, P e) ∧
        (∀ e ∈ q.groupBy, P e) ∧ ∀ k ∈ q.orderBy, P k.expr := by
  simp only [exprs, List.forall_mem_append, List.forall_mem_map, Option.mem_toList,
    Option.mem_def, and_assoc]

/-- Nothing dangles: no two tables of the query share a name, and every column that it mentions is
one that one of its tables has. -/
structure Scoped (has : String → String → Prop) (q : Query) : Prop where
  isSome_from : q.from?.isSome = true
  nodup : q.tableNames.Nodup
  column : ∀ e ∈ q.exprs, ∀ t c, (t, c) ∈ e.columns → t ∈ q.tableNames ∧ has t c

end Query

end StarSchema.Sql
