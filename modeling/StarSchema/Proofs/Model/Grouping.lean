import StarSchema.Proofs.Model.Views
import StarSchema.Proofs.Star.Grouping

/-!
# Views of a model are grouped

Every view that a model composes gives a grouped query, whatever kinds of fields it groups by,
aggregates and orders by, and whatever the filters of its star hold. What the query shows is what
the declaration of the view says.

Main result: `Model.grouped_views`.
-/

namespace StarSchema

variable {engine : PatternEngine}

namespace Model

variable {d : ModelDecl} {m : Model}

/-- **A view gives a grouped query of what it is declared to show.** In a model that loads, after
any requests to filters, the query of a view selects the fields that the view groups by and then a
call for each aggregate, as declared and in order. It groups by all that it selects but for the
aggregates, orders by what it selects, and has no aggregate within another, in a condition, or in
what it groups by. -/
theorem grouped_views (h : Model.ofDecl engine d = .ok m) (requests : List FilterRequest)
    {name : String} {q : Sql.Query} (composed : (m.runFilters requests).composeView name = .ok q) :
    q.IsGrouped ∧ ∃ vd s, d.view? name = some vd ∧ m.star vd.fact = .ok s ∧
      vd.IsShownBy (fun field => (s.field? field).map (·.expr)) q := by
  obtain ⟨vd, p, s, v, last, records, star, bound, shown⟩ := exists_decl_of_composeView h composed
  refine ⟨?_, vd, s, last, star, records.isShownBy bound shown⟩
  obtain ⟨v, s', found, standing, composed⟩ := composeView_eq_ok_iff.mp composed
  have hm := (bound_runFilters (bound_of_ofDecl h) requests).1
  exact View.isGrouped_compose composed (hm.view found standing) (hm.star standing).2.2

/-- The sum of a calculated field by a label, ordered by the sum. -/
theorem grouped_views_sales : ∃ m q, Model.ofDecl .plain .sales = .ok m ∧
    (m.runFilters [.set "products" "Product" (.str "x"), .clear "sales"]).composeView
      "margins" = .ok q ∧ q.IsGrouped ∧ q.select.length = 2 ∧ q.groupBy.length = 1 := by
  obtain ⟨m, built, outcome⟩ := exists_of_any_toOption sales_outcome
  obtain ⟨q, composed⟩ := exists_eq_ok_of_isOk (Bool.and_eq_true_iff.mp outcome).2
  obtain ⟨grouped, vd, s, last, -, shown⟩ := grouped_views built _ composed
  obtain ⟨groups, aggregates, select, groupBy, declared, called⟩ := shown.select
  cases last
  have one := declared.length_eq
  have other := called.length_eq
  refine ⟨m, q, built, composed, grouped, ?_, ?_⟩
  · rw [select, List.length_append, ← one, ← other]
    rfl
  · rw [groupBy, List.length_map, ← one]
    rfl

end Model

end StarSchema
