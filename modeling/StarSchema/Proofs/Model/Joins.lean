import StarSchema.Proofs.Model.Declared
import StarSchema.Proofs.Model.Requests
import StarSchema.Proofs.Star.Joins

/-!
# Joins of the stars of a model

In a model that loads no two tables share a name, so no star joins a dimension that has the name of
its fact. So the joins of every query, of a star or of a view over it, give one row for each row of
the fact, whatever its filters hold.

Main result: `Model.joinedRows_composed`.
-/

namespace StarSchema

variable {engine : PatternEngine}

open Sql (Database)

namespace Model

variable {d : ModelDecl} {m : Model} {name : String} {s : Star}

theorem ofFact_of_star (h : Model.ofDecl engine d = .ok m) (hs : m.star name = .ok s) :
    Star.ofFact m.catalog.dimensions s.fact = .ok s := by
  obtain ⟨rfl, fact, -⟩ := (bound_of_ofDecl h).star hs
  exact mapError_eq_ok_iff.mp ((star_of_mem_facts h fact).symm.trans hs)

theorem nodup_names_of_star (h : Model.ofDecl engine d = .ok m) (hs : m.star name = .ok s) :
    (s.name :: s.joins.map (·.dimension.name)).Nodup := by
  obtain ⟨rfl, fact, built⟩ := (bound_of_ofDecl h).star hs
  have names := Star.nodup_tables (catalog_of_ofDecl h) built fact
  rwa [Star.tables, List.map_cons, List.map_map] at names

/-- **Joins of a model neither lose nor repeat rows of a fact**, where the keys of the joined
dimensions hold no value twice: after any requests to filters, every query that the model composes
for a star or for a view over it has the rows of the star. -/
theorem joinedRows_composed (h : Model.ofDecl engine d = .ok m) (hs : m.star name = .ok s)
    {V : Type} [DecidableEq V] (db : Database V)
    (keys : ∀ j ∈ s.joins, db.IsKey j.dimension.name j.dimension.table.key.name)
    (requests : List FilterRequest) :
    let m' := m.runFilters requests
    (∀ q, m'.composeStar name = .ok q → q.joinedRows db = (db name).map (s.joinedRow db)) ∧
    ∀ view v q, m'.view view = .ok v → v.fact = name → m'.composeView view = .ok q →
      q.joinedRows db = (db name).map (s.joinedRow db) := by
  intro m'
  obtain ⟨rfl, -, -⟩ := (bound_of_ofDecl h).star hs
  obtain ⟨other, distinct⟩ := List.nodup_cons.mp (nodup_names_of_star h hs)
  have later {s' : Star} (found : m'.star s.name = .ok s') {where? : Option Sql.Expr}
      {q : Sql.Query} (reads : s'.ReadsRows where? q) :
      q.joinedRows db = (db s.name).map (s.joinedRow db) := by
    rw [star_runFilters, hs] at found
    cases found
    exact Star.joinedRows_eq_of_readsRows other distinct keys reads
  refine ⟨fun q hq => ?_, fun view v q shown named hq => ?_⟩
  · obtain ⟨s', found, composed⟩ := composeStar_eq_ok_iff.mp hq
    exact later found (Star.readsRows_compose composed)
  · obtain ⟨v', s', shown', found, composed⟩ := composeView_eq_ok_iff.mp hq
    have same : v = v' := Except.ok.inj (shown.symm.trans shown')
    subst same
    exact later (named ▸ found) (View.readsRows_compose composed)

end Model

end StarSchema
