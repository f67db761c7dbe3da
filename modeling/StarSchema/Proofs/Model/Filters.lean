import StarSchema.Proofs.Catalog.Names
import StarSchema.Proofs.Star.Fields

/-!
# A model while its filters change

Requests set and clear the filters of stars. Whether a request is refused or not, it changes nothing
but the values that filters hold: the tables, the fields of stars and the fields of views are those
of the declaration.

Main definitions: `FilterRequest`, `Model.runFilters`, `Model.Bound`.

Main results: `Model.bound_of_ofDecl`, `Model.bound_runFilters`.
-/

namespace StarSchema

variable {engine : PatternEngine}

/-- What is asked of the filters of a model. -/
inductive FilterRequest where
  | set (star filter : String) (input : Input)
  | clear (star : String)

def FilterRequest.operation : FilterRequest → InPlace RequestError Model Unit
  | .set star filter input => Model.onStar star (Star.assignFilter filter input)
  | .clear star => Model.onStar star (modify Star.clearFilters)

namespace Model

/-- The model as some requests leave it, whether they are refused or not. -/
def runFilters (m : Model) (requests : List FilterRequest) : Model :=
  requests.foldl (fun m r => r.operation.after m) m

/-- Every star is built over a fact of the model, and every view is over the star that it is
composed with. -/
structure Bound (m : Model) : Prop where
  star : ∀ {name s}, m.star name = .ok s →
    s.name = name ∧ s.fact ∈ m.catalog.facts ∧ s.Built m.catalog.dimensions
  view : ∀ {name v s}, m.view name = .ok v → m.star v.fact = .ok s → v.Over s

variable {d : ModelDecl} {m : Model}

/-! ### A new model -/

theorem mem_of_lookup {α : Type} {xs : List (String × α)} {name : String} {x : α}
    (h : xs.lookup name = some x) : (name, x) ∈ xs := by
  obtain ⟨before, after, rfl, -⟩ := List.lookup_eq_some_iff.mp h
  exact List.mem_append_right _ List.mem_cons_self

theorem star_eq_ok_iff {name : String} {s : Star} :
    m.star name = .ok s ↔ m.stars.lookup name = some (.ok s) := by
  unfold star
  cases m.stars.lookup name with
  | none => simp
  | some found => rw [mapError_eq_ok_iff, Option.some.injEq]

theorem view_eq_ok_iff {name : String} {v : View} :
    m.view name = .ok v ↔ m.views.lookup name = some (.ok v) := by
  unfold view
  cases m.views.lookup name with
  | none => simp
  | some found => rw [mapError_eq_ok_iff, Option.some.injEq]

theorem composeStar_eq_ok_iff {name : String} {q : Sql.Query} :
    m.composeStar name = .ok q ↔ ∃ s, m.star name = .ok s ∧ s.compose = .ok q := by
  rw [composeStar, bind_eq_ok_iff]
  simp only [mapError_eq_ok_iff]

theorem composeView_eq_ok_iff {name : String} {q : Sql.Query} :
    m.composeView name = .ok q ↔
      ∃ v s, m.view name = .ok v ∧ m.star v.fact = .ok s ∧ v.compose s = .ok q := by
  rw [composeView]
  simp only [bind_eq_ok_iff, mapError_eq_ok_iff, exists_and_left]

theorem bindView_eq_ok {stars : List (String × Except CompositionError Star)} {p : ViewPlan}
    {v : View} (h : bindView stars p = .ok v) :
    ∃ s, stars.lookup p.fact = some (.ok s) ∧ View.ofPlan s p = .ok v := by
  unfold bindView at h
  split at h
  · next s found => exact ⟨s, found, h⟩
  · cases h
  · cases h

theorem bound_of_ofDecl (h : Model.ofDecl engine d = .ok m) : m.Bound := by
  obtain ⟨-, stars, ⟨plans, -, views⟩, -⟩ := ofDecl_eq_ok h
  refine ⟨fun {name s} found => ?_, fun {name v s} hv hs => ?_⟩
  · have found := mem_of_lookup (star_eq_ok_iff.mp found)
    rw [stars] at found
    obtain ⟨f, hf, same⟩ := List.mem_map.mp found
    obtain ⟨rfl, hs⟩ := Prod.mk.inj same
    obtain ⟨rfl, built⟩ := Star.built_of_ofFact hs
    exact ⟨rfl, hf, built⟩
  · have found := mem_of_lookup (view_eq_ok_iff.mp hv)
    rw [views] at found
    obtain ⟨p, -, same⟩ := List.mem_map.mp (List.mem_reverse.mp found)
    obtain ⟨t, ht, planned⟩ := bindView_eq_ok (Prod.mk.inj same).2
    obtain ⟨fact, ofStar⟩ := View.over_of_ofPlan planned
    rw [star_eq_ok_iff, fact] at hs
    have same : some (Except.ok t) = some (.ok s) := ht.symm.trans hs
    cases same
    exact ofStar

/-! ### One request -/

/-- An operation on a star does what it does to the star, if there is one. -/
theorem after_onStar (m : Model) (name : String) (op : InPlace RequestError Star Unit) :
    (onStar name op).after m =
      match m.star name with
      | .ok s => m.replaceStar name (op.after s)
      | .error _ => m := by
  have reads : (onStar name op).run.run m = StateT.run (ExceptT.run do
      let star ← liftExcept (m.star name)
      op.onPart star (m.replaceStar name) id) m := rfl
  rw [InPlace.after, reads]
  cases m.star name with
  | error e => rfl
  | ok s => exact op.after_onPart s (m.replaceStar name) id m

theorem lookup_replaceStar (m : Model) (name : String) (s : Star) (x : String) :
    (m.replaceStar name s).stars.lookup x =
      if x = name then (m.stars.lookup x).map fun _ => .ok s else m.stars.lookup x := by
  rw [replaceStar]
  dsimp only
  induction m.stars with
  | nil =>
    rw [List.map_nil, List.lookup_nil]
    split <;> rfl
  | cons entry stars ih =>
    obtain ⟨n, t⟩ := entry
    rw [List.map_cons]
    by_cases here : x = n
    · subst here
      by_cases replaced : x = name
      · simp [replaced]
      · simp [replaced]
    · have elsewhere : (x == n) = false := beq_eq_false_iff_ne.mpr here
      have skip (u : Except CompositionError Star) (rest) :
          ((n, u) :: rest).lookup x = rest.lookup x := by
        rw [List.lookup_cons, elsewhere]
      rw [skip, ← ih]
      by_cases replaced : n = name
      · exact (congrArg (List.lookup x) (by rw [if_pos replaced])).trans (skip (.ok s) _)
      · exact (congrArg (List.lookup x) (by rw [if_neg replaced])).trans (skip t _)

/-- The star that is replaced is the new one, and every other star is as before. -/
theorem star_replaceStar {name : String} {s s' t : Star} {x : String}
    (hs : m.star name = .ok s) (h : (m.replaceStar name s').star x = .ok t) :
    (x = name ∧ t = s') ∨ (x ≠ name ∧ m.star x = .ok t) := by
  rw [star_eq_ok_iff, lookup_replaceStar] at h
  by_cases replaced : x = name
  · subst replaced
    rw [if_pos rfl, star_eq_ok_iff.mp hs] at h
    cases h
    exact .inl ⟨rfl, rfl⟩
  · rw [if_neg replaced] at h
    exact .inr ⟨replaced, star_eq_ok_iff.mpr h⟩

/-- Other values in the filters of a star keep the model bound. -/
theorem Bound.replaceStar (hm : m.Bound) {name : String} {s s' : Star} (hs : m.star name = .ok s)
    (refilled : s.Refilled s') : (m.replaceStar name s').Bound := by
  obtain ⟨named, fact, built⟩ := hm.star hs
  refine ⟨fun {x t} found => ?_, fun {n v t} hv found => ?_⟩
  · rcases star_replaceStar hs found with ⟨rfl, rfl⟩ | ⟨-, found⟩
    · obtain ⟨filters, same, -⟩ := id refilled
      refine ⟨?_, ?_, refilled.built built⟩
      · rw [same]
        exact named
      · rw [same]
        exact fact
    · exact hm.star found
  · rcases star_replaceStar hs found with ⟨rfl, rfl⟩ | ⟨-, found⟩
    · exact (hm.view hv hs).refilled refilled
    · exact hm.view hv found

theorem Bound.after_onStar (hm : m.Bound) (name : String) {op : InPlace RequestError Star Unit}
    (refills : ∀ s : Star, s.Refilled (op.after s)) :
    ((onStar name op).after m).Bound ∧ ((onStar name op).after m).catalog = m.catalog := by
  rw [Model.after_onStar]
  cases hs : m.star name with
  | error e => exact ⟨hm, rfl⟩
  | ok s => exact ⟨hm.replaceStar hs (refills s), rfl⟩

/-- All that a request does is to put other values into the filters of one star. -/
theorem Bound.after_operation (hm : m.Bound) (r : FilterRequest) :
    (r.operation.after m).Bound ∧ (r.operation.after m).catalog = m.catalog := by
  cases r with
  | set name filter input =>
    exact hm.after_onStar name fun s => s.refilled_assignFilter filter input
  | clear name => exact hm.after_onStar name fun s => s.refilled_clearFilters

/-! ### Any number of requests -/

theorem bound_runFilters (hm : m.Bound) (requests : List FilterRequest) :
    (m.runFilters requests).Bound ∧ (m.runFilters requests).catalog = m.catalog := by
  induction requests generalizing m with
  | nil => exact ⟨hm, rfl⟩
  | cons r requests ih =>
    obtain ⟨bound, catalog⟩ := hm.after_operation r
    obtain ⟨bound', catalog'⟩ := ih bound
    exact ⟨bound', catalog'.trans catalog⟩

end Model

end StarSchema
