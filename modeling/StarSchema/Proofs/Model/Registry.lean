import Mathlib.Data.List.Dedup
import StarSchema.Proofs.Model.Isolation
import StarSchema.Proofs.Star.Requirements

/-!
# What is declared is found again

A model keeps its tables, stars and views by their names. No two tables of a declaration share a
name, so each of them is found under its own name with all that its declaration says, and there are
as many as are declared. Nothing of the kind is checked for views: of several views of one name, the
last that is declared stays.

Main definitions: `Model.Registers`, `Model.Resolves`.

Main result: `Model.declared_is_registered`.
-/

namespace StarSchema

variable {engine : PatternEngine}

/-! ### Lists without repetitions -/

theorem nodup_eraseDups (names : List String) : names.eraseDups.Nodup := by
  induction names using List.reverseRecOn with
  | nil => exact List.nodup_nil
  | append_singleton names name ih =>
    rw [List.eraseDups_append]
    by_cases mem : name ∈ names
    · have none : [name].removeAll names = [] := by simp [List.removeAll, mem]
      rwa [none, List.eraseDups_nil, List.append_nil]
    · have one : [name].removeAll names = [name] := by simp [List.removeAll, mem]
      rw [one, List.eraseDups_cons, List.filter_nil, List.eraseDups_nil, List.nodup_append]
      refine ⟨ih, List.nodup_singleton name, ?_⟩
      rintro x hx y hy rfl
      exact mem (List.mem_singleton.mp hy ▸ List.mem_eraseDups.mp hx)

namespace Model

variable {names : List String}

theorem mem_sortedNames_iff {name : String} : name ∈ sortedNames names ↔ name ∈ names := by
  rw [sortedNames, List.mem_eraseDups, (List.mergeSort_perm ..).mem_iff]

/-- None of the names is left out just if no two are the same. -/
theorem length_sortedNames_eq_iff : (sortedNames names).length = names.length ↔ names.Nodup := by
  have distinct : (sortedNames names).Nodup := nodup_eraseDups _
  have perm : (sortedNames names).Perm names.dedup :=
    (List.perm_ext_iff_of_nodup distinct (List.nodup_dedup names)).mpr fun _ =>
      mem_sortedNames_iff.trans List.mem_dedup.symm
  rw [perm.length_eq, (List.dedup_sublist names).length_eq, List.dedup_eq_self]

end Model

/-- From the end of what a traversal collects, the part of the last item of a name is found. -/
theorem exists_find?_reverse_of_mapM {ε α β : Type} {f : α → Except ε β} {key : β → String}
    {name : α → String} {before after : List α} {x : α} {ys : List β}
    (h : (before ++ x :: after).mapM f = .ok ys) (named : ∀ x y, f x = .ok y → key y = name x)
    (last : name x ∉ after.map name) :
    ∃ y, f x = .ok y ∧ ys.reverse.find? (key · == name x) = some y := by
  rw [List.mapM_append, List.mapM_cons] at h
  obtain ⟨earlier, -, h⟩ := bind_eq_ok_iff.mp h
  obtain ⟨rest, hrest, h⟩ := bind_eq_ok_iff.mp h
  obtain ⟨y, hy, hrest⟩ := bind_eq_ok_iff.mp hrest
  obtain ⟨later, hlater, hrest⟩ := bind_eq_ok_iff.mp hrest
  obtain rfl := pure_eq_ok_iff.mp hrest
  obtain rfl := pure_eq_ok_iff.mp h
  have absent : later.reverse.find? (key · == name x) = none := by
    rw [← map_eq_map_of_mapM_eq_ok named hlater] at last
    rw [List.find?_eq_none]
    intro z hz same
    exact last (List.mem_map.mpr ⟨z, List.mem_reverse.mp hz, beq_iff_eq.mp same⟩)
  have found : (key y == name x) = true := beq_iff_eq.mpr (named x y hy)
  refine ⟨y, hy, ?_⟩
  rw [List.reverse_append, List.reverse_cons, List.append_assoc, List.find?_append, absent,
    List.singleton_append, List.find?_cons, found]
  rfl

/-! ### Models -/

namespace Model

/-- The tables of the declaration, each in its role, are those of the model, and each fact has the
star that it gives. -/
structure Registers (engine : PatternEngine) (m : Model) (d : ModelDecl) : Prop where
  distinct : d.tableNames.Nodup
  dimension : ∀ x ∈ d.dimensions, ∃ y, m.catalog.dimension? x.table.name = some y ∧
    y.Records engine d.settings x
  lookup : ∀ x ∈ d.lookups, ∃ y, m.catalog.lookup? x.table.name = some y ∧
    y.Records engine d.settings x
  fact : ∀ x ∈ d.facts, ∃ y, m.catalog.fact? x.table.name = some y ∧ y.Records engine d.settings x ∧
    m.star x.table.name = (Star.ofFact m.catalog.dimensions y).mapError .composition
  dimensions : m.dimensionNames.length = d.dimensions.length
  lookups : m.catalog.lookups.length = d.lookups.length
  stars : m.starNames.length = d.facts.length

/-- The view of the name is the declared one, bound to the star over its fact, or the failure to
bind it. -/
def Resolves (m : Model) (v : ViewDecl) : Prop :=
  ∃ p f, p.Records v ∧ m.catalog.fact? v.fact = some f ∧
    m.view v.name = ((Star.ofFact m.catalog.dimensions f).mapError
      (fun e => { e with entity := v.name }) >>= (View.ofPlan · p)).mapError .composition

variable {d : ModelDecl} {m : Model}

theorem registers_of_ofDecl (h : Model.ofDecl engine d = .ok m) : m.Registers engine d := by
  have hc := catalog_of_ofDecl h
  have names : m.catalog.DistinctNames := distinctNames_of_ofDecl h
  obtain ⟨distinct, dimensions, lookups, facts⟩ := Catalog.ofDecl_eq_ok hc
  have counted := (mapM_eq_ok_iff.mp dimensions).length_eq
  have counted' := (mapM_eq_ok_iff.mp facts).length_eq
  refine
    { distinct
      dimension := fun x hx => ?_
      lookup := fun x hx => ?_
      fact := fun x hx => ?_
      dimensions := ?_
      lookups := (mapM_eq_ok_iff.mp lookups).length_eq.symm
      stars := ?_ }
  · obtain ⟨y, built, found⟩ := Catalog.exists_find?_of_ofDecl hc hx
    exact ⟨y, found, Dimension.records_of_ofDecl built⟩
  · obtain ⟨y, built, found⟩ :=
      Catalog.exists_find?_of_mapM lookups names.of_append_left.of_append_right hx
    exact ⟨y, Lookup.name_of_ofDecl built ▸ found, Lookup.records_of_ofDecl built⟩
  · obtain ⟨y, built, found⟩ := Catalog.exists_find?_of_mapM facts names.of_append_right hx
    have star := star_of_mem_facts h (List.mem_of_find?_eq_some found)
    rw [Fact.name_of_ofDecl built] at found star
    exact ⟨y, found, Fact.records_of_ofDecl built, star⟩
  · rw [dimensionNames, length_sortedNames_eq_iff.mpr names.of_append_left.of_append_left,
      List.length_map, counted]
  · have keys : m.stars.map Prod.fst = m.catalog.facts.map (·.name) := by
      rw [(ofDecl_eq_ok h).2.1, List.map_map]
      rfl
    rw [starNames, keys, length_sortedNames_eq_iff.mpr names.of_append_right, List.length_map,
      counted']

theorem resolves_of_last (h : Model.ofDecl engine d = .ok m) {before after : List ViewDecl}
    {v : ViewDecl} (split : d.views = before ++ v :: after) (last : v.name ∉ after.map (·.name)) :
    m.Resolves v := by
  obtain ⟨-, -, ⟨plans, planned, views⟩, -⟩ := ofDecl_eq_ok h
  rw [split] at planned
  have named (w : ViewDecl) (p : ViewPlan) (plan : ViewPlan.ofDecl m.catalog.facts w = .ok p) :
      p.name = w.name := (ViewPlan.records_of_ofDecl plan).name
  obtain ⟨p, plan, found⟩ := exists_find?_reverse_of_mapM planned named last
  have records := ViewPlan.records_of_ofDecl plan
  obtain ⟨f, hf, isFact⟩ := (ViewPlan.reflects_of_ofDecl plan).hasFact
  have distinct := (distinctNames_of_ofDecl h).of_append_right
  refine ⟨p, f, records, (Catalog.find?_key_eq_some_iff distinct).mpr ⟨hf, isFact⟩, ?_⟩
  have star := lookup_stars_of_mem_facts h hf
  rw [isFact, ← records.fact] at star
  rw [view, views, ← List.map_reverse, lookup_map_key, found, ← records.name]
  show (bindView m.stars p).mapError _ = _
  rw [bindView, star]
  cases Star.ofFact m.catalog.dimensions f <;> rfl

/-- A view that is found shows what is declared. -/
theorem Resolves.names_columns {v : ViewDecl} {view : View} (h : m.Resolves v)
    (found : m.view v.name = .ok view) :
    view.columns.map (·.displayName) = v.groupBy ++ v.aggregates.map (·.displayName) := by
  obtain ⟨p, f, records, -, resolved⟩ := h
  rw [found] at resolved
  obtain ⟨s, -, bound⟩ := bind_eq_ok_iff.mp (mapError_eq_ok_iff.mp resolved.symm)
  rw [(View.names_of_ofPlan bound).2.2.2, records.groupBy,
    map_eq_map_of_forall₂ (fun _ _ same => same.1) records.aggregates]

theorem perm_names_views (h : Model.ofDecl engine d = .ok m) :
    (m.views.map Prod.fst).Perm (d.views.map (·.name)) := by
  obtain ⟨-, -, ⟨plans, planned, views⟩, -⟩ := ofDecl_eq_ok h
  have names := map_eq_map_of_mapM_eq_ok (fun _ _ plan => (ViewPlan.records_of_ofDecl plan).name)
    planned
  rw [views, List.map_reverse, List.map_map, ← names]
  exact List.reverse_perm _

/-- **Nothing that is declared is lost, but for views of one name.** If a model loads, each table of
its declaration is found in its role, under its own name and as it is declared, and there are as
many as are declared. The view of a name is the last one that is declared by it, bound to the star
over its fact. There are as many views as are declared just if no two of them share a name. -/
theorem declared_is_registered (h : Model.ofDecl engine d = .ok m) :
    m.Registers engine d ∧
      (∀ before v after, d.views = before ++ v :: after → v.name ∉ after.map (·.name) →
        m.Resolves v) ∧
      (∀ name, name ∈ m.viewNames ↔ name ∈ d.views.map (·.name)) ∧
      (m.viewNames.length = d.views.length ↔ (d.views.map (·.name)).Nodup) := by
  have names := perm_names_views h
  refine ⟨registers_of_ofDecl h, fun before v after => resolves_of_last h, fun name => ?_, ?_⟩
  · rw [viewNames, mem_sortedNames_iff, names.mem_iff]
  · rw [viewNames, ← names.nodup_iff, ← length_sortedNames_eq_iff, names.length_eq, List.length_map]

end Model

/-! ### Two views of one name -/

/-- Sales by price, and then by cost. -/
def ModelDecl.overlapping : ModelDecl :=
  { ModelDecl.sales with
    views :=
      [{ name := "totals", fact := "sales", groupBy := ["price"] },
        { name := "totals", fact := "sales", groupBy := ["cost"] }] }

namespace Model

theorem overlapping_outcome : (Model.ofDecl .plain .overlapping).toOption.any (fun m =>
    (m.view "totals").isOk) = true := by
  decide +kernel

theorem declared_is_registered_overlapping : ∃ m, Model.ofDecl .plain .overlapping = .ok m ∧
    m.Registers .plain .overlapping ∧ m.viewNames.length ≠ ModelDecl.overlapping.views.length ∧
    m.Resolves { name := "totals", fact := "sales", groupBy := ["cost"] } ∧
    ¬ m.Resolves { name := "totals", fact := "sales", groupBy := ["price"] } := by
  obtain ⟨m, built, outcome⟩ := exists_of_any_toOption overlapping_outcome
  obtain ⟨view, found⟩ := exists_eq_ok_of_isOk outcome
  obtain ⟨tables, last, -, count⟩ := declared_is_registered built
  have second := last [_] _ [] rfl List.not_mem_nil
  refine ⟨m, built, tables, fun same => absurd (count.mp same) (by decide), second, fun first => ?_⟩
  exact absurd ((first.names_columns found).symm.trans (second.names_columns found)) (by decide)

end Model

end StarSchema
