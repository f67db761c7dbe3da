import StarSchema.Proofs.Declaration.Records
import StarSchema.Proofs.Sql.Grouping
import StarSchema.Proofs.Star.Fields

/-!
# A view groups by what it does not aggregate

No field of a star contains an aggregate: stored fields are columns, labels are texts in a row, and
calculated fields are computed row by row, also where one uses another. So the only aggregates in
the query of a view are those that it puts around fields itself, and what is left of its columns is
what it groups by.

Main definition: `ViewDecl.IsShownBy`.

Main results: `View.isGrouped_compose`, `ViewPlan.Records.isShownBy`.
-/

namespace StarSchema

open Sql (Expr)

/-! ### The parts of a query -/

theorem aggregateDepth_label (l : Label) : l.expr.aggregateDepth = 0 := by
  rw [Label.expr]
  cases l.fields with
  | nil => simp
  | cons name names =>
    have start : (Expr.column l.table name).aggregateDepth = 0 := by simp
    dsimp only
    -- each further field keeps the text free of aggregates
    generalize Expr.column l.table name = text at start
    induction names generalizing text with
    | nil => exact start
    | cons name names ih => exact ih _ (by simp [Label.join, start])

theorem aggregateDepth_join (j : StarJoin) (fact : String) :
    (j.toJoin fact).on.aggregateDepth = 0 := by
  simp [StarJoin.toJoin]

theorem aggregateDepth_predicate (op : Operator) (e : Expr) (v : Value) :
    (op.predicate e v).aggregateDepth = e.aggregateDepth := by
  rw [Operator.predicate]
  split <;> simp

theorem aggregateDepth_apply (a : Aggregate) (e : Expr) :
    (a.apply e).isAggregate = true ∧ (a.apply e).aggregateDepth = e.aggregateDepth + 1 := by
  have call (function : String) (known : Sql.aggregateFunctions.contains function = true) :
      (Expr.call function [e]).isAggregate = true ∧
        (Expr.call function [e]).aggregateDepth = e.aggregateDepth + 1 := by
    refine ⟨known, ?_⟩
    rw [Expr.aggregateDepth_call_singleton, if_pos known]
  cases a <;> exact call _ (by decide)

namespace Star

variable {dimensions : List Dimension} {s : Star}

theorem aggregateDepth_field (hs : s.Built dimensions) :
    ∀ x ∈ s.fields, x.column.expr.aggregateDepth = 0 := by
  rw [forall_mem_fields_iff]
  refine ⟨fun f _ => ?_, fun j _ => aggregateDepth_label j.dimension.label, fun c hc => ?_⟩
  · exact Expr.aggregateDepth_column _ _
  · exact (computed_of_composed hs.composed c hc).aggregateDepth_eq_zero

theorem aggregateDepth_condition (hs : s.Built dimensions) :
    ∀ e ∈ Expr.conjunction? s.predicates, e.aggregateDepth = 0 := by
  intro e he
  refine Expr.forall_conjunction? he (Q := fun x => x.aggregateDepth = 0) (fun x hx => ?_)
    (fun _ h => h) fun x y hx hy => by simp [Expr.and, hx, hy]
  obtain ⟨f, hf, condition⟩ := List.mem_filterMap.mp hx
  obtain ⟨y, hy, subject⟩ := hs.subject f hf
  rw [Filter.predicate?] at condition
  split at condition
  · cases condition
  · obtain ⟨v, -, rfl⟩ := Option.map_eq_some_iff.mp condition
    rw [aggregateDepth_predicate, ← subject]
    exact aggregateDepth_field hs y hy

end Star

namespace View

variable {s : Star} {v : View} {q : Sql.Query}

/-- **The query of a view is grouped** by all that the view does not aggregate. -/
theorem isGrouped_compose {dimensions : List Dimension} (h : v.compose s = .ok q) (hv : v.Over s)
    (hs : s.Built dimensions) : q.IsGrouped := by
  obtain ⟨orderBy, ordered, rfl⟩ := compose_eq_ok_iff.mp h
  refine Sql.Query.isGrouped_of_parts (v.groupBy.map (·.expr)) (v.aggregates.map (·.expr)) ?_ rfl
    ?_ ?_ ?_ ?_ (Star.aggregateDepth_condition hs)
  · simp only [columns, List.map_append, List.map_map]
    rfl
  · intro k hk
    obtain ⟨o, -, key⟩ := exists_left_of_forall₂ ordered hk
    obtain ⟨c, found, rfl⟩ := sortKey_eq_ok_iff.mp key
    exact List.mem_map_of_mem (List.mem_map_of_mem (List.mem_of_find?_eq_some found))
  · rw [List.forall_mem_map]
    intro c hc
    obtain ⟨x, hx, same⟩ := hv.groupBy c hc
    rw [same]
    exact Star.aggregateDepth_field hs x hx
  · rw [List.forall_mem_map]
    intro a ha
    obtain ⟨x, hx, same⟩ := hv.aggregates a ha
    rw [same, (aggregateDepth_apply ..).2, Star.aggregateDepth_field hs x hx]
    exact ⟨(aggregateDepth_apply ..).1, rfl⟩
  · exact List.forall_mem_map.mpr fun j _ => aggregateDepth_join j _

end View

/-! ### What is declared of a view -/

/-- The query selects what the view is declared to group by and then what it is declared to
aggregate, each under the name that is declared, and it orders by items of these names. -/
structure ViewDecl.IsShownBy (field? : String → Option Expr) (d : ViewDecl) (q : Sql.Query) :
    Prop where
  select : ∃ groups aggregates, q.select = groups ++ aggregates ∧
    q.groupBy = groups.map (·.expr) ∧
    d.groupBy.Forall₂ (fun name item => item.alias? = some name ∧ field? name = some item.expr)
      groups ∧
    d.aggregates.Forall₂ (fun a item => item.alias? = some a.displayName ∧
      ∃ known : Aggregate, known.IsSpelled a.function ∧
        (field? a.base).map known.apply = some item.expr) aggregates
  orderBy : d.orderBy.Forall₂ (fun o k => k.direction = o.direction ∧
    (q.select.find? (·.alias? == some o.field)).map (·.expr) = some k.expr) q.orderBy

/-- The query of a view shows what its declaration says, of the fields of its star. -/
theorem ViewPlan.Records.isShownBy {d : ViewDecl} {p : ViewPlan} (records : p.Records d)
    {s s' : Star} {v : View} (bound : View.ofPlan s p = .ok v) {q : Sql.Query}
    (h : v.compose s' = .ok q) : d.IsShownBy (fun name => (s.field? name).map (·.expr)) q := by
  obtain ⟨groupBy, aggregates, grouped, aggregated, rfl⟩ := View.ofPlan_eq_ok_iff.mp bound
  obtain ⟨orderBy, ordered, rfl⟩ := View.compose_eq_ok_iff.mp h
  refine ⟨⟨groupBy.map (·.selectItem), aggregates.map (·.column.selectItem), ?_, ?_, ?_, ?_⟩, ?_⟩
  · simp only [View.columns, List.map_append, List.map_map]
    rfl
  · rw [List.map_map]
    rfl
  · rw [List.forall₂_map_right_iff, ← records.groupBy]
    refine grouped.imp fun name c hc => ?_
    obtain ⟨x, found, rfl⟩ := View.groupColumn_eq_ok_iff.mp hc
    rw [found]
    exact ⟨rfl, rfl⟩
  · rw [List.forall₂_map_right_iff]
    refine forall₂_trans ?_ records.aggregates aggregated
    rintro a x y ⟨named, base, spelled⟩ hy
    obtain ⟨c, found, rfl⟩ := View.aggregateField_eq_ok_iff.mp hy
    rw [← named, ← base, found]
    exact ⟨rfl, x.aggregate, spelled, rfl⟩
  · rw [← records.orderBy]
    refine ordered.imp fun o k key => ?_
    obtain ⟨c, found, rfl⟩ := View.sortKey_eq_ok_iff.mp key
    have first : ((fun item : Sql.SelectItem => item.alias? == some o.field) ∘ Column.selectItem) =
        fun c => c.displayName == o.field := by
      funext c
      simp [Column.selectItem]
    refine ⟨rfl, ?_⟩
    rw [List.find?_map, first]
    exact congrArg (Option.map (·.expr)) (congrArg (Option.map Column.selectItem) found)

end StarSchema
