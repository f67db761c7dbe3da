import StarSchema.Proofs.Model.Declared
import StarSchema.Proofs.Model.Requests
import StarSchema.Proofs.Star.Joins
import StarSchema.Proofs.Star.Requirements

/-!
# When a model composes its stars and views

A model that loads may still have stars and views that cannot be composed. Which ones can be told
from the declaration: a star, its query and the query of a view each have a list of requirements on
the names and formulas that are declared, they are composed just if all of these are met, and
otherwise the failure blames the first that is not, in the name of the star or view that was asked
for. Values in filters have no part in it.

Main definitions: `ModelDecl.starRequirements`, `ModelDecl.orderRequirements`,
`ModelDecl.viewRequirements`.

Main result: `Model.settled_compositions`.
-/

namespace StarSchema

variable {engine : PatternEngine}

/-! ### Requirements on declarations -/

namespace ModelDecl

variable (d : ModelDecl) (fd : FactDecl)

/-- The display names of the labels of the dimensions that foreign keys of a fact refer to. -/
def labelNames : List String :=
  (d.dimensions.filter (·.table.name ∈ fd.table.foreignKeys.map Prod.snd)).map (·.label.displayName)

/-- The display names of the fields of the star of a fact. -/
def starNames : List String :=
  fd.table.fields.map (·.shownName) ++ d.labelNames fd ++ fd.calculated.map (·.displayName)

/-- A star requires that its foreign keys refer to dimensions and that the formulas of its
calculated fields are sound, in order. -/
def starRequirements : List Requirement :=
  fd.table.foreignKeys.map (Star.keyRequirement (d.dimensions.map (·.table.name))) ++
    Star.calculatedRequirements (fd.table.fields.map (·.shownName)) fd.calculated

/-- Its query requires that each name to order by is that of a label, of a stored field or of any
field of the star. -/
def orderRequirements : List Requirement :=
  fd.table.orderBy.map fun o =>
    ⟨o.field, o.field ∈ d.labelNames fd ∨ o.field ∈ fd.table.fields.map (·.name) ∨
      o.field ∈ d.starNames fd⟩

/-- A view requires that it groups by fields of the star and aggregates fields of the star, and that
it orders by its own columns. -/
def viewRequirements (vd : ViewDecl) : List Requirement :=
  (vd.groupBy ++ vd.aggregates.map (·.base)).map (fun name => ⟨name, name ∈ d.starNames fd⟩) ++
    vd.orderBy.map fun o =>
      ⟨o.field, o.field ∈ vd.groupBy ++ vd.aggregates.map (·.displayName)⟩

end ModelDecl

/-! ### Stars -/

namespace Catalog

variable {d : ModelDecl} {c : Catalog} {fd : FactDecl} {f : Fact} {s : Star}

theorem checks_ofFact (h : Catalog.ofDecl engine d = .ok c) (hf : f.Reflects fd) :
    Checks fd.table.name (d.starRequirements fd) (Star.ofFact c.dimensions f) := by
  have checked := Star.checks_ofFact c.dimensions hf.defaults
  have keys : f.table.foreignKeys.map (fun k =>
      Star.keyRequirement (c.dimensions.map (·.name)) (k.field.name, k.dimension)) =
        fd.table.foreignKeys.map (Star.keyRequirement (d.dimensions.map (·.table.name))) := by
    rw [← hf.table.foreignKeys, List.map_map, ← names_dimensions h]
    rfl
  rw [keys, hf.table.shown, hf.calculated] at checked
  rw [ModelDecl.starRequirements, ← hf.table.name]
  exact checked

/-- The dimensions that are referred to have their labels in the star, each once. -/
theorem perm_names_labels (h : Catalog.ofDecl engine d = .ok c) (hf : f.Reflects fd)
    (hs : Star.ofFact c.dimensions f = .ok s) :
    (s.labels.map (·.displayName)).Perm (d.labelNames fd) := by
  obtain ⟨rfl, built⟩ := Star.built_of_ofFact hs
  have referred :
      s.fact.table.foreignKeys.map (·.dimension) = fd.table.foreignKeys.map Prod.snd := by
    rw [← hf.table.foreignKeys, List.map_map]
    rfl
  have joined := Star.mem_names_joins_iff hs
  rw [referred] at joined
  have distinct : (c.dimensions.map (·.name)).Nodup :=
    (distinctNames_of_ofDecl h).of_append_left.of_append_left
  have once : (s.joins.map (·.dimension)).Nodup := by
    refine List.Nodup.of_map (·.name) ?_
    rw [List.map_map]
    exact built.distinct
  have perm : (s.joins.map (·.dimension)).Perm
      (c.dimensions.filter (·.name ∈ fd.table.foreignKeys.map Prod.snd)) := by
    refine (List.perm_ext_iff_of_nodup once (distinct.of_map.filter _)).mpr fun x => ?_
    rw [List.mem_filter, decide_eq_true_eq, ← joined, List.mem_map, List.mem_map]
    constructor
    · rintro ⟨j, hj, rfl⟩
      exact ⟨built.dimension j hj, j, hj, rfl⟩
    · rintro ⟨hx, j, hj, same⟩
      exact ⟨j, hj, List.inj_on_of_nodup_map distinct (built.dimension j hj) hx same⟩
  have labels : (c.dimensions.filter (·.name ∈ fd.table.foreignKeys.map Prod.snd)).map
      (·.label.displayName) = d.labelNames fd := by
    have reflects := (mapM_eq_ok_iff.mp (ofDecl_eq_ok h).2.1).imp fun _ _ =>
      Dimension.reflects_of_ofDecl
    refine map_eq_map_of_forall₂ (fun _ _ h => h.label) (List.rel_filter ?_ reflects)
    intro x y same
    simp only [same.name]
  rw [← labels, Star.labels, List.map_map]
  have named := perm.map (·.label.displayName)
  rwa [List.map_map] at named

theorem perm_names_fields (h : Catalog.ofDecl engine d = .ok c) (hf : f.Reflects fd)
    (hs : Star.ofFact c.dimensions f = .ok s) :
    (s.fields.map (·.column.displayName)).Perm (d.starNames fd) := by
  have labels := perm_names_labels h hf hs
  have calculated := map_eq_map_of_forall₂ (fun _ _ h => h.displayName) (Star.records_of_ofFact hs)
  obtain ⟨rfl, -⟩ := Star.built_of_ofFact hs
  have names : s.fields.map (·.column.displayName) =
      s.fact.table.fields.map (·.displayName) ++ s.labels.map (·.displayName) ++
        s.calculated.map (·.displayName) := by
    rw [Star.fields, List.map_append, List.map_append, List.map_map, List.map_map, List.map_map]
    rfl
  rw [names, hf.table.shown, calculated, hf.calculated, ModelDecl.starNames]
  exact (labels.append_left _).append_right _

/-- The query of a star, whatever its filters hold. -/
theorem checks_compose (h : Catalog.ofDecl engine d = .ok c) (hf : f.Reflects fd)
    (hs : Star.ofFact c.dimensions f = .ok s) (requests : List StarRequest) :
    Checks fd.table.name (d.orderRequirements fd) (s.run requests).compose := by
  have checked := s.checks_compose
  have labels (name : String) := (perm_names_labels h hf hs).mem_iff (a := name)
  have names (name : String) := (perm_names_fields h hf hs).mem_iff (a := name)
  obtain ⟨rfl, -⟩ := Star.built_of_ofFact hs
  have named : s.name = fd.table.name := hf.table.name
  simp only [Star.IsOrderKey, labels, names, hf.table.fields, hf.table.orderBy] at checked
  rw [Star.run_eq_mapFilters, Star.compose_mapFilters, ← named]
  exact checked.map _

/-! ### Views -/

/-- A view over a star that is built, whatever its filters hold. -/
theorem checks_composeView (h : Catalog.ofDecl engine d = .ok c) (hf : f.Reflects fd)
    (hs : Star.ofFact c.dimensions f = .ok s) {vd : ViewDecl} {p : ViewPlan}
    (hp : p.Reflects c.facts vd) (requests : List StarRequest) :
    Checks vd.name (d.viewRequirements fd vd)
      (View.ofPlan s p >>= fun v => v.compose (s.run requests)) := by
  have names (name : String) := (perm_names_fields h hf hs).mem_iff (a := name)
  have planned := View.checks_ofPlan s p
  simp only [names, hp.groupBy, hp.bases, hp.name] at planned
  refine planned.bind fun v hv => ?_
  obtain ⟨named, -, ordered, columns⟩ := View.names_of_ofPlan hv
  have composed := v.checks_compose s
  rw [columns, ordered, hp.groupBy, hp.aggregates, hp.orderBy, named, hp.name] at composed
  rw [Star.run_eq_mapFilters, View.compose_mapFilters]
  exact composed.map _

end Catalog

/-! ### Models -/

namespace Model

variable {d : ModelDecl} {m : Model}

/-- The star over a fact after requests, or its failure. -/
theorem star_runFilters_of_mem_facts (h : Model.ofDecl engine d = .ok m) {f : Fact}
    (hf : f ∈ m.catalog.facts) (requests : List FilterRequest) :
    (m.runFilters requests).star f.name =
      ((Star.ofFact m.catalog.dimensions f).map
        (·.run (requests.filterMap (·.onStar? f.name)))).mapError .composition := by
  rw [star_runFilters, star_of_mem_facts h hf, mapError_map]

/-- The query of a star after requests, or its failure. -/
theorem composeStar_of_mem_facts (h : Model.ofDecl engine d = .ok m) {f : Fact}
    (hf : f ∈ m.catalog.facts) (requests : List FilterRequest) :
    (m.runFilters requests).composeStar f.name =
      (Star.ofFact m.catalog.dimensions f >>= fun s =>
        (s.run (requests.filterMap (·.onStar? f.name))).compose).mapError .composition := by
  rw [composeStar_of_star (star_runFilters_of_mem_facts h hf requests)]
  cases Star.ofFact m.catalog.dimensions f <;> rfl

/-- The query of a view after requests, or its failure, which is one of the view even if the star
fails. -/
theorem composeView_of_mem_views (h : Model.ofDecl engine d = .ok m) {vd : ViewDecl}
    (hv : vd ∈ d.views) (only : ∀ w ∈ d.views, w.name = vd.name → w = vd) {p : ViewPlan}
    (plan : ViewPlan.ofDecl m.catalog.facts vd = .ok p) {f : Fact} (hf : f ∈ m.catalog.facts)
    (named : f.name = p.fact) (requests : List FilterRequest) :
    (m.runFilters requests).composeView vd.name =
      ((Star.ofFact m.catalog.dimensions f).mapError (fun e => { e with entity := p.name }) >>=
        fun s => View.ofPlan s p >>= fun v =>
          v.compose (s.run (requests.filterMap (·.onStar? f.name)))).mapError .composition := by
  obtain ⟨p', plan', view⟩ := view_of_mem_views h hv only
  obtain rfl := Except.ok.inj (plan.symm.trans plan')
  rw [composeView, view_runFilters, view, bindView, ← named, lookup_stars_of_mem_facts h hf]
  have star := star_runFilters_of_mem_facts h hf requests
  cases hs : Star.ofFact m.catalog.dimensions f with
  | error e => rfl
  | ok s =>
    rw [hs] at star
    show ((View.ofPlan s p).mapError RequestError.composition >>= _) =
      (View.ofPlan s p >>= fun v => v.compose _).mapError _
    rw [mapError_bind]
    cases hv : View.ofPlan s p with
    | error e => rfl
    | ok v =>
      show ((m.runFilters requests).star v.fact >>= fun s => (v.compose s).mapError _) = _
      rw [(View.names_of_ofPlan hv).2.1, ← named, star]
      rfl

/-- **When stars and views are composed.** In a model that loads, after any requests to filters, the
star of a fact, its query, and the query of a view whose name no other view has are there just if
the requirements on the names and formulas that are declared for them are met. Every failure blames
the field of the first requirement that is not met, and names the star or view that was asked for,
the view also where its star failed. -/
theorem settled_compositions (h : Model.ofDecl engine d = .ok m) (requests : List FilterRequest) :
    let m' := m.runFilters requests
    (∀ fd ∈ d.facts,
      Settled fd.table.name (d.starRequirements fd) (m'.star fd.table.name) ∧
        Settled fd.table.name (d.starRequirements fd ++ d.orderRequirements fd)
          (m'.composeStar fd.table.name)) ∧
    ∀ vd ∈ d.views, (∀ w ∈ d.views, w.name = vd.name → w = vd) →
      (∃ fd ∈ d.facts, fd.table.name = vd.fact) ∧
        ∀ fd ∈ d.facts, fd.table.name = vd.fact →
          Settled vd.name (d.starRequirements fd ++ d.viewRequirements fd vd)
            (m'.composeView vd.name) := by
  intro m'
  have hc := catalog_of_ofDecl h
  refine ⟨fun fd hfd => ?_, fun vd hvd only => ?_⟩
  · obtain ⟨f, hf, declared⟩ := Catalog.exists_fact_of_ofDecl hc hfd
    have reflects := Fact.reflects_of_ofDecl declared
    have built := Catalog.checks_ofFact hc reflects
    have named : f.name = fd.table.name := reflects.table.name
    refine ⟨?_, ?_⟩
    · rw [← named, star_runFilters_of_mem_facts h hf, named]
      exact (built.map _).settled
    · rw [← named, composeStar_of_mem_facts h hf, named]
      exact (built.bind fun s hs => Catalog.checks_compose hc reflects hs _).settled
  · obtain ⟨p, plan, -⟩ := view_of_mem_views h hvd only
    have reflectsPlan := ViewPlan.reflects_of_ofDecl plan
    refine ⟨?_, fun fd hfd ofFact => ?_⟩
    · obtain ⟨f, hf, ofFact⟩ := reflectsPlan.hasFact
      obtain ⟨fd, hfd, declared⟩ := exists_of_mem_mapM (Catalog.ofDecl_eq_ok hc).2.2.2 hf
      exact ⟨fd, hfd, (Fact.name_of_ofDecl declared).symm.trans ofFact⟩
    · obtain ⟨f, hf, declared⟩ := Catalog.exists_fact_of_ofDecl hc hfd
      have reflects := Fact.reflects_of_ofDecl declared
      have named : f.name = p.fact :=
        reflects.table.name.trans (ofFact.trans reflectsPlan.fact.symm)
      have built := (Catalog.checks_ofFact hc reflects).mapError p.name
      rw [composeView_of_mem_views h hvd only plan hf named]
      rw [reflectsPlan.name] at built ⊢
      exact (built.bind fun s hs => Catalog.checks_composeView hc reflects
        (mapError_eq_ok_iff.mp hs) reflectsPlan _).settled

end Model

/-! ### Sales and returns -/

def FactDecl.sales : FactDecl :=
  ModelDecl.sales.facts.head (List.cons_ne_nil _ _)

/-- Returns to a store that no dimension knows, with a rate that divides by zero. -/
def FactDecl.returns : FactDecl where
  table :=
    { name := "returns"
      fields :=
        [{ name := "id", dataType? := some .int, isKey := true },
          { name := "product", dataType? := some .int
            dimension? := some "products", referenced? := some "id" },
          { name := "store", dataType? := some .int
            dimension? := some "stores", referenced? := some "id" },
          { name := "price", dataType? := some .float }] }
  calculated := [{ displayName := "rate", formula := "[price] / 0" }]

def ViewDecl.returned : ViewDecl where
  name := "returned"
  fact := "returns"
  groupBy := ["Product"]

/-- A view that is ordered by a field of its star which it does not show. -/
def ViewDecl.unordered : ViewDecl where
  name := "unordered"
  fact := "sales"
  groupBy := ["Product"]
  orderBy := [{ field := "price" }]

/-- The sales with the returns beside them. -/
def ModelDecl.returns : ModelDecl :=
  { ModelDecl.sales with
    facts := [.returns, .sales]
    views := [.returned, .unordered] }

namespace Model

theorem returns_outcome :
    (Model.ofDecl .plain .returns).toOption.any
      (fun m => ((m.runFilters [.clear "sales"]).composeStar "sales").isOk) = true := by
  decide +kernel

/-- One star is composed. The other lacks a dimension, which is blamed before its formula, also for
a view over it; and a view over the first is ordered by what it does not show. -/
theorem settled_compositions_returns : ∃ m, Model.ofDecl .plain .returns = .ok m ∧
    let m' := m.runFilters [.clear "sales"]
    (m'.composeStar "sales").isOk = true ∧
    (∃ cause, m'.composeStar "returns" =
      .error (.composition ⟨"returns", some "store", cause⟩)) ∧
    (∃ cause, m'.composeView "returned" =
      .error (.composition ⟨"returned", some "store", cause⟩)) ∧
    ∃ cause, m'.composeView "unordered" =
      .error (.composition ⟨"unordered", some "price", cause⟩) := by
  obtain ⟨m, built, composed⟩ := exists_of_any_toOption returns_outcome
  obtain ⟨stars, views⟩ := settled_compositions built [.clear "sales"]
  have hreturns : FactDecl.returns ∈ ModelDecl.returns.facts := List.mem_cons_self
  have hsales : FactDecl.sales ∈ ModelDecl.returns.facts :=
    List.mem_cons_of_mem _ List.mem_cons_self
  have returned := (views .returned List.mem_cons_self (by decide +kernel)).2 _ hreturns rfl
  have unordered := (views .unordered (List.mem_cons_of_mem _ List.mem_cons_self)
    (by decide +kernel)).2 _ hsales rfl
  -- the first key refers to a dimension, and the second does not
  have keys (rest : List Requirement) : ∃ after,
      ModelDecl.returns.starRequirements .returns ++ rest =
        [Star.keyRequirement ["products"] ("product", "products")] ++
          Star.keyRequirement ["products"] ("store", "stores") :: after := ⟨_, rfl⟩
  have known : ∀ r ∈ [Star.keyRequirement ["products"] ("product", "products")], r.met :=
    List.forall_mem_singleton.mpr (List.mem_singleton_self _)
  have unknown : ¬ (Star.keyRequirement ["products"] ("store", "stores")).met := by
    show "stores" ∉ ["products"]
    decide
  refine ⟨m, built, composed, ?_, ?_, ?_⟩
  · obtain ⟨after, split⟩ := keys (ModelDecl.returns.orderRequirements .returns)
    exact (split ▸ (stars _ hreturns).2).exists_error known unknown
  · obtain ⟨after, split⟩ := keys (ModelDecl.returns.viewRequirements .returns .returned)
    exact (split ▸ returned).exists_error known unknown
  · have met := (stars _ hsales).2.isOk_iff.mp composed
    rw [List.forall_mem_append] at met
    have split : ModelDecl.returns.starRequirements .sales ++
        ModelDecl.returns.viewRequirements .sales .unordered =
          (ModelDecl.returns.starRequirements .sales ++
            [⟨"Product", "Product" ∈ ModelDecl.returns.starNames .sales⟩]) ++
          ⟨"price", "price" ∈ ["Product"]⟩ :: [] := by
      rw [List.append_assoc]
      rfl
    refine (split ▸ unordered).exists_error ?_ (by decide)
    rw [List.forall_mem_append, List.forall_mem_singleton]
    exact ⟨met.1, by decide +kernel⟩

end Model

end StarSchema
