import StarSchema.Proofs.Sql.Precedence
import StarSchema.Sql.Query

/-!
# Grouped queries

A query with groups gives one row for each group. What it selects or orders by has to have one value
in a group: it is an expression that the rows are grouped by, or an aggregate of the rows, or built
from such. Aggregates are not nested, and they have no place where single rows are still at hand: in
the conditions for joins, in the condition on rows, and in what the rows are grouped by.

Main definitions: `Expr.isAggregate`, `Expr.aggregateDepth`, `Expr.SettledBy`, `Query.IsGrouped`.

Main result: `Query.isGrouped_of_parts`.
-/

namespace StarSchema.Sql

/-! ### Aggregates in an expression -/

/-- The expression is a call of an aggregate, as a whole. -/
def Expr.isAggregate : Expr → Bool
  | .call function _ => aggregateFunctions.contains function
  | _ => false

mutual

/-- How many calls of aggregates stand within one another, at most. -/
def Expr.aggregateDepth : Expr → Nat
  | .column _ _ => 0
  | .literal _ => 0
  | .binary _ left right => max left.aggregateDepth right.aggregateDepth
  | .call function args =>
    Expr.argAggregateDepth args + if aggregateFunctions.contains function then 1 else 0
  | .like subject pattern _ _ => max subject.aggregateDepth pattern.aggregateDepth
  | .dateOf e => e.aggregateDepth
  | .paren e => e.aggregateDepth

def Expr.argAggregateDepth : List Expr → Nat
  | [] => 0
  | e :: es => max e.aggregateDepth (Expr.argAggregateDepth es)

end

namespace Expr

variable {e f : Expr}

@[simp]
theorem aggregateDepth_column (t c : String) : (column t c).aggregateDepth = 0 := by
  rw [aggregateDepth]

@[simp]
theorem aggregateDepth_literal (l : Literal) : (literal l).aggregateDepth = 0 := by
  rw [aggregateDepth]

@[simp]
theorem aggregateDepth_string (s : String) : (string s).aggregateDepth = 0 :=
  aggregateDepth_literal _

@[simp]
theorem aggregateDepth_ofValue (v : Value) : (ofValue v).aggregateDepth = 0 := by
  cases v <;> exact aggregateDepth_literal _

@[simp]
theorem aggregateDepth_binary (op : BinaryOp) (left right : Expr) :
    (binary op left right).aggregateDepth = max left.aggregateDepth right.aggregateDepth := by
  rw [aggregateDepth]

@[simp]
theorem aggregateDepth_like (subject pattern : Expr) (escape : Char) (negated : Bool) :
    (like subject pattern escape negated).aggregateDepth =
      max subject.aggregateDepth pattern.aggregateDepth := by
  rw [aggregateDepth]

@[simp]
theorem aggregateDepth_dateOf (e : Expr) : (dateOf e).aggregateDepth = e.aggregateDepth := by
  rw [aggregateDepth]

@[simp]
theorem aggregateDepth_paren (e : Expr) : (paren e).aggregateDepth = e.aggregateDepth := by
  rw [aggregateDepth]

@[simp]
theorem aggregateDepth_call_singleton (function : String) (e : Expr) :
    (call function [e]).aggregateDepth =
      e.aggregateDepth + if aggregateFunctions.contains function then 1 else 0 := by
  rw [aggregateDepth, argAggregateDepth, argAggregateDepth, Nat.max_zero]

/-- An expression without aggregates is none. -/
theorem isAggregate_of_aggregateDepth (h : e.aggregateDepth = 0) : e.isAggregate = false := by
  cases e with
  | call function args =>
    rw [aggregateDepth] at h
    rw [isAggregate]
    by_contra aggregate
    rw [Bool.not_eq_false] at aggregate
    rw [aggregate] at h
    cases h
  | _ => rfl

/-- What formulas become has no aggregates. -/
theorem Computed.aggregateDepth_eq_zero (h : e.Computed) : e.aggregateDepth = 0 := by
  induction h with
  | column t c => simp
  | float finite => exact aggregateDepth_literal _
  | operation op _ _ _ hleft hright => simp [hleft, hright]
  | paren _ he => simpa using he

/-- Every column of the expression stands in the call of an aggregate or in one of the given
expressions. -/
inductive SettledBy (groups : List Expr) : Expr → Prop where
  | group {e : Expr} (mem : e ∈ groups) : SettledBy groups e
  | aggregate {e : Expr} (call : e.isAggregate = true) : SettledBy groups e
  | literal (l : Literal) : SettledBy groups (.literal l)
  | binary (op : BinaryOp) {left right : Expr} (hleft : left.SettledBy groups)
    (hright : right.SettledBy groups) : SettledBy groups (.binary op left right)
  | call (function : String) {args : List Expr} (hargs : ∀ e ∈ args, SettledBy groups e) :
    SettledBy groups (.call function args)
  | like {subject pattern : Expr} (escape : Char) (negated : Bool)
    (hsubject : subject.SettledBy groups) (hpattern : pattern.SettledBy groups) :
    SettledBy groups (.like subject pattern escape negated)
  | dateOf {e : Expr} (he : e.SettledBy groups) : SettledBy groups (.dateOf e)
  | paren {e : Expr} (he : e.SettledBy groups) : SettledBy groups (.paren e)

end Expr

/-! ### Aggregates in a query -/

namespace Query

/-- The query groups by all that it selects, aggregates apart, and orders by what it selects; and
aggregates stand only where they have a meaning. -/
structure IsGrouped (q : Query) : Prop where
  groupBy : q.groupBy = (q.select.map (·.expr)).filter (!·.isAggregate)
  orderBy : ∀ k ∈ q.orderBy, ∃ item ∈ q.select, k.expr = item.expr
  settled : ∀ e ∈ q.select.map (·.expr) ++ q.orderBy.map (·.expr), e.SettledBy q.groupBy
  unnested : ∀ e ∈ q.select.map (·.expr) ++ q.orderBy.map (·.expr), e.aggregateDepth ≤ 1
  plain : ∀ e ∈ q.groupBy ++ q.joins.map (·.on) ++ q.where?.toList, e.aggregateDepth = 0

/-- **Groups first, then aggregates of what has none.** A query that selects these, groups by the
first and orders by some of them is grouped. -/
theorem isGrouped_of_parts {q : Query} (groups aggregates : List Expr)
    (select : q.select.map (·.expr) = groups ++ aggregates)
    (groupBy : q.groupBy = groups) (orderBy : ∀ k ∈ q.orderBy, k.expr ∈ q.select.map (·.expr))
    (plain : ∀ e ∈ groups, e.aggregateDepth = 0)
    (calls : ∀ e ∈ aggregates, e.isAggregate = true ∧ e.aggregateDepth = 1)
    (joins : ∀ j ∈ q.joins, j.on.aggregateDepth = 0)
    (condition : ∀ e ∈ q.where?, e.aggregateDepth = 0) : q.IsGrouped := by
  have ordered (P : Expr → Prop) (selected : ∀ e ∈ q.select.map (·.expr), P e) :
      ∀ e ∈ q.select.map (·.expr) ++ q.orderBy.map (·.expr), P e := by
    rw [List.forall_mem_append, List.forall_mem_map]
    exact ⟨List.forall_mem_map.mp selected, List.forall_mem_map.mpr fun k hk =>
      selected _ (orderBy k hk)⟩
  refine ⟨?_, ?_, ordered _ ?_, ordered _ ?_, ?_⟩
  · have kept : groups.filter (!·.isAggregate) = groups :=
      List.filter_eq_self.mpr fun e he => by
        rw [Expr.isAggregate_of_aggregateDepth (plain e he), Bool.not_false]
    have dropped : aggregates.filter (!·.isAggregate) = [] :=
      List.filter_eq_nil_iff.mpr fun e he => by simp [(calls e he).1]
    rw [select, groupBy, List.filter_append, kept, dropped, List.append_nil]
  · intro k hk
    obtain ⟨item, mem, same⟩ := List.mem_map.mp (orderBy k hk)
    exact ⟨item, mem, same.symm⟩
  · rw [select, groupBy, List.forall_mem_append]
    exact ⟨fun e he => .group he, fun e he => .aggregate (calls e he).1⟩
  · rw [select, List.forall_mem_append]
    exact ⟨fun e he => (plain e he).trans_le (Nat.zero_le 1), fun e he => (calls e he).2.le⟩
  · simp only [groupBy, List.forall_mem_append, List.forall_mem_map, Option.mem_toList]
    exact ⟨⟨plain, joins⟩, condition⟩

end Query

end StarSchema.Sql
