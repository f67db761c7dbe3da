import StarSchema.Proofs.Traversal
import StarSchema.Star.View

/-!
# Stars and views that compose

Composition looks up one name after the other, and it fails with the first that is not found. What
is said here of each step is what it has found once it succeeds and what it then gives, so that
nothing else has to look into the steps.

Main results: `Star.compose_eq_ok_iff`, `View.ofPlan_eq_ok_iff`, `View.compose_eq_ok_iff`.
-/

namespace StarSchema

variable {s : Star} {o : OrderDecl} {k : Sql.SortKey} {q : Sql.Query}

/-! ### Stars -/

namespace Star

theorem sortKey_eq_ok_iff :
    s.sortKey o = .ok k ↔ ∃ e, s.orderKey? o.field = some e ∧ k = ⟨e, o.direction⟩ := by
  rw [sortKey]
  cases s.orderKey? o.field <;> simp [eq_comm]

/-- A star composes just if there is something to order by for each name. -/
theorem compose_eq_ok_iff :
    s.compose = .ok q ↔
      ∃ orderBy, s.fact.table.orderBy.Forall₂ (fun o k => s.sortKey o = .ok k) orderBy ∧
        q = { s.baseQuery with
              select := s.columns.map (·.selectItem)
              orderBy
              limit? := some s.fact.table.displayRows } := by
  rw [compose, bind_eq_ok_iff]
  simp only [mapM_eq_ok_iff, pure_eq_ok_iff, eq_comm (b := q)]

end Star

/-! ### Views -/

namespace View

variable {v : View} {view name : String} {c : Column}

theorem resolveField_eq_ok_iff : resolveField view s name = .ok c ↔ s.field? name = some c := by
  rw [resolveField]
  cases s.field? name <;> simp

theorem groupColumn_eq_ok_iff :
    groupColumn view s name = .ok c ↔ ∃ x, s.field? name = some x ∧
      c = { displayName := name, dataType := x.dataType, format := x.format, expr := x.expr } := by
  rw [groupColumn, bind_eq_ok_iff]
  simp only [resolveField_eq_ok_iff, pure_eq_ok_iff, eq_comm (b := c)]

theorem aggregateField_eq_ok_iff {p : AggregatePlan} {a : AggregateField} :
    aggregateField view s p = .ok a ↔ ∃ x, s.field? p.base = some x ∧
      a = { displayName := p.displayName, base := p.base, aggregate := p.aggregate
            expr := p.aggregate.apply x.expr } := by
  rw [aggregateField, bind_eq_ok_iff]
  simp only [resolveField_eq_ok_iff, pure_eq_ok_iff, eq_comm (b := a)]

/-- A plan is bound to a star just if all that it names are fields of the star. -/
theorem ofPlan_eq_ok_iff {p : ViewPlan} :
    ofPlan s p = .ok v ↔
      ∃ groupBy aggregates,
        p.groupBy.Forall₂ (fun name c => groupColumn p.name s name = .ok c) groupBy ∧
        p.aggregates.Forall₂ (fun a f => aggregateField p.name s a = .ok f) aggregates ∧
        v = { groupBy, aggregates
              name := p.name
              displayName := p.displayName
              fact := p.fact
              orderBy := p.orderBy } := by
  rw [ofPlan, bind_eq_ok_iff]
  simp only [bind_eq_ok_iff, mapM_eq_ok_iff, pure_eq_ok_iff, eq_comm (b := v), exists_and_left]

theorem sortKey_eq_ok_iff :
    v.sortKey o = .ok k ↔
      ∃ c, Column.find? v.columns o.field = some c ∧ k = ⟨c.expr, o.direction⟩ := by
  rw [sortKey]
  cases Column.find? v.columns o.field <;> simp [eq_comm]

/-- A view composes just if it shows something under each name that it orders by. -/
theorem compose_eq_ok_iff :
    v.compose s = .ok q ↔
      ∃ orderBy, v.orderBy.Forall₂ (fun o k => v.sortKey o = .ok k) orderBy ∧
        q = { s.baseQuery with
              select := v.columns.map (·.selectItem)
              groupBy := v.groupBy.map (·.expr)
              orderBy
              limit? := some s.fact.table.displayRows } := by
  rw [compose, bind_eq_ok_iff]
  simp only [mapM_eq_ok_iff, pure_eq_ok_iff, eq_comm (b := q)]

end View

end StarSchema
