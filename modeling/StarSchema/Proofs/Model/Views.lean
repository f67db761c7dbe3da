import StarSchema.Proofs.Model.Registry

/-!
# From the query of a view back to its declaration

A view is asked for by its name, and of the views that are declared by that name the last one
answers. So each query that a model composes for a view can be traced back to one declaration, to
the star of its fact as it was built, and to the requests that the filters of the star have seen
since.

Main definition: `ModelDecl.view?`.

Main result: `Model.exists_decl_of_composeView`.
-/

namespace StarSchema

variable {engine : PatternEngine}

/-- The view that a name stands for: the last one that is declared by it. -/
def ModelDecl.view? (d : ModelDecl) (name : String) : Option ViewDecl :=
  d.views.reverse.find? (·.name == name)

/-- What is found from the end of a list has none of its key after it. -/
theorem exists_last_of_find?_reverse {α : Type} {key : α → String} {xs : List α} {name : String}
    {x : α} (h : xs.reverse.find? (key · == name) = some x) :
    key x = name ∧ ∃ before after, xs = before ++ x :: after ∧ key x ∉ after.map key := by
  obtain ⟨named, later, earlier, split, others⟩ := List.find?_eq_some_iff_append.mp h
  have named : key x = name := by simpa using named
  refine ⟨named, earlier.reverse, later.reverse, ?_, ?_⟩
  · rw [← List.reverse_reverse xs, split]
    simp
  · intro mem
    obtain ⟨y, hy, same⟩ := List.mem_map.mp mem
    simpa [same, named] using others y (List.mem_reverse.mp hy)

namespace Model

variable {d : ModelDecl} {m : Model} {name : String}

theorem exists_decl_of_view {v : View} (h : Model.ofDecl engine d = .ok m)
    (found : m.view name = .ok v) :
    ∃ vd, d.view? name = some vd ∧ vd.name = name ∧ m.Resolves vd := by
  have registered := List.mem_map_of_mem (f := Prod.fst) (mem_of_lookup (view_eq_ok_iff.mp found))
  have declared : name ∈ d.views.reverse.map (·.name) := by
    rw [List.map_reverse, List.mem_reverse]
    exact (perm_names_views h).mem_iff.mp registered
  obtain ⟨vd, last⟩ := Option.isSome_iff_exists.mp (isSome_find?_key_iff.mpr declared)
  obtain ⟨named, before, after, split, only⟩ := exists_last_of_find?_reverse last
  exact ⟨vd, last, named, resolves_of_last h split only⟩

/-- The query of a view comes from the last declaration by its name: the plan of that declaration is
bound to the new star of its fact, and the query is composed with the star as its filters are by
now. -/
theorem exists_decl_of_composeView (h : Model.ofDecl engine d = .ok m)
    {requests : List FilterRequest} {q : Sql.Query}
    (composed : (m.runFilters requests).composeView name = .ok q) :
    ∃ vd p s v, d.view? name = some vd ∧ p.Records vd ∧ m.star vd.fact = .ok s ∧
      View.ofPlan s p = .ok v ∧
      v.compose (s.run (requests.filterMap (·.onStar? vd.fact))) = .ok q := by
  obtain ⟨v, s', shown, standing, composed⟩ := composeView_eq_ok_iff.mp composed
  rw [view_runFilters] at shown
  obtain ⟨vd, last, named, p, f, records, isFact, view⟩ := exists_decl_of_view h shown
  rw [named, shown, eq_comm, mapError_eq_ok_iff, bind_eq_ok_iff] at view
  obtain ⟨s, built, bound⟩ := view
  have hf := List.mem_of_find?_eq_some isFact
  have factName : f.name = vd.fact := by simpa using List.find?_some isFact
  have star : m.star vd.fact = .ok s := by
    rw [← factName, star_of_mem_facts h hf, mapError_eq_ok_iff]
    exact mapError_eq_ok_iff.mp built
  have fact : v.fact = vd.fact := (View.names_of_ofPlan bound).2.1.trans records.fact
  rw [star_runFilters, fact, star] at standing
  cases standing
  exact ⟨vd, p, s, v, last, records, star, bound, composed⟩

end Model

end StarSchema
