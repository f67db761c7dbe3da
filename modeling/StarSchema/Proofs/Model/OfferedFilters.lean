import StarSchema.Proofs.Filter.History
import StarSchema.Proofs.Labels.Outcome
import StarSchema.Proofs.Model.Creation
import StarSchema.Proofs.Model.Joins
import StarSchema.Proofs.Model.Scope

/-!
# The filters that a model offers

Tables offer the filters of their fields, dimensions one for their label, and stars those of all of
their fields. The operators that a declaration names are checked against the type of their field,
and all others are made for it; so every filter that is offered compares values of its own type,
and whatever is done to it, the value that it holds is one of these.

Main definitions: `Filter.Sound`, `Model.Offers`.

Main results: `Filter.Sound.run`, `Model.sound_of_offers`, `Model.filters_hold_last_accepted`.
-/

namespace StarSchema

variable {engine : PatternEngine}

/-- The operator of the filter is one for its type, and a value that it holds is of that type. -/
structure Filter.Sound (f : Filter) : Prop where
  applies : f.operator.appliesTo f.dataType = true
  typed : f.Typed

/-- Setting and clearing a filter keeps it sound. -/
theorem Filter.Sound.run {f : Filter} (hf : f.Sound) (steps : List FilterStep) :
    (f.run steps).Sound := by
  have same := f.sameQuestion_run steps
  refine ⟨?_, typed_run hf.typed steps⟩
  rw [same.operator, same.dataType]
  exact hf.applies

/-! ### New filters -/

theorem FieldDecl.applies_of_resolveOperators {x : FieldDecl} {t : DataType} {ops : List Operator}
    (h : x.resolveOperators t = .ok ops) : ∀ op ∈ ops, op.appliesTo t = true := by
  rw [resolveOperators] at h
  split at h
  · cases h
  · next checked =>
    cases h
    intro op hop
    simpa using List.find?_eq_none.mp checked op hop

theorem Field.sound_filters {table : String} {x : FieldDecl} {f : Field}
    (h : Field.ofDecl engine table x = .ok f) : ∀ g ∈ f.filters, g.Sound := by
  have applies : ∀ op ∈ f.operators, op.appliesTo f.dataType = true := by
    obtain ⟨t, -, h⟩ := bind_eq_ok_iff.mp h
    obtain ⟨default?, -, h⟩ := bind_eq_ok_iff.mp h
    obtain ⟨validator?, -, h⟩ := bind_eq_ok_iff.mp h
    obtain ⟨operators, operated, h⟩ := bind_eq_ok_iff.mp h
    obtain ⟨reference?, -, h⟩ := bind_eq_ok_iff.mp h
    rw [← pure_eq_ok_iff.mp h]
    exact FieldDecl.applies_of_resolveOperators operated
  intro g hg
  unfold Field.filters at hg
  split at hg
  · cases hg
  · obtain ⟨op, hop, rfl⟩ := List.mem_map.mp hg
    exact ⟨applies op hop, Filter.typed_of_value?_eq_none rfl⟩

theorem CalculatedField.sound_filters (c : CalculatedField) : ∀ g ∈ c.filters, g.Sound := by
  intro g hg
  unfold CalculatedField.filters at hg
  split at hg
  · obtain ⟨op, hop, rfl⟩ := List.mem_map.mp hg
    have applies : ∀ op ∈ [Operator.ge, .le], op.appliesTo .float = true := by decide
    exact ⟨applies op hop, Filter.typed_of_value?_eq_none rfl⟩
  · cases hg

theorem Label.sound_filter (label : Label) : label.filter.Sound :=
  ⟨rfl, Filter.typed_of_value?_eq_none rfl⟩

theorem Table.IsDeclared.sound_filters {d : ModelDecl} {t : Table} (h : t.IsDeclared d) :
    ∀ f ∈ t.fields, ∀ g ∈ f.filters, g.Sound := by
  obtain ⟨decl, -, engine, settings, built⟩ := h
  intro f hf
  obtain ⟨x, -, hx⟩ := exists_left_of_forall₂ (Table.fields_of_ofDecl built) hf
  exact Field.sound_filters hx

namespace Star

variable {s : Star}

theorem sound_filters_of_ofFact {dimensions : List Dimension} {fact : Fact}
    (h : ofFact dimensions fact = .ok s)
    (stored : ∀ x ∈ s.fact.table.fields, ∀ g ∈ x.filters, g.Sound) : ∀ g ∈ s.filters, g.Sound := by
  intro g hg
  rw [filters_of_ofFact h, mem_initialFilters_iff] at hg
  rcases hg with ⟨j, -, rfl⟩ | ⟨x, hx, hg⟩ | ⟨c, -, hg⟩
  · exact j.dimension.label.sound_filter
  · exact stored x hx g hg
  · exact c.sound_filters g hg

/-- Requests to its filters keep those of a star sound. -/
theorem sound_filters_run (h : ∀ g ∈ s.filters, g.Sound) (requests : List StarRequest) :
    ∀ g ∈ (s.run requests).filters, g.Sound := by
  intro g hg
  rw [run_eq_mapFilters] at hg
  obtain ⟨i, hi, rfl⟩ := List.mem_mapIdx.mp hg
  exact (h _ (List.getElem_mem hi)).run _

end Star

/-! ### Filters of a model -/

/-- Where a model offers filters: at its tables, at its dimensions and at its stars. -/
inductive Model.Offers (m : Model) : Filter → Prop
  | table {t : Table} {f : Filter} (ht : t ∈ m.catalog.tables) (hf : f ∈ t.filters) : Offers m f
  | label {x : Dimension} (hx : x ∈ m.catalog.dimensions) : Offers m x.label.filter
  | star {name : String} {s : Star} {f : Filter} (hs : m.star name = .ok s) (hf : f ∈ s.filters) :
    Offers m f

namespace Model

variable {σ : Type} {d : ModelDecl} {m : Model}

theorem isDeclared_of_mem_catalog_tables (h : Model.ofDecl engine d = .ok m) {t : Table}
    (ht : t ∈ m.catalog.tables) : t.IsDeclared d := by
  have hc := catalog_of_ofDecl h
  rw [m.catalog.perm_tables.mem_iff, List.mem_append, List.mem_append, List.mem_map, List.mem_map,
    List.mem_map] at ht
  rcases ht with ⟨x, hx, rfl⟩ | ⟨x, hx, rfl⟩ | ⟨x, hx, rfl⟩
  · exact (Catalog.dimension_of_ofDecl hc hx).1
  · exact (Catalog.lookup_of_ofDecl hc hx).1
  · exact Catalog.fact_of_ofDecl hc hx

/-- **Every filter that a model offers is sound**, whatever was asked of the model. -/
theorem sound_of_offers (h : Model.ofDecl engine d = .ok m) (exec : Executor σ)
    (requests : List ModelRequest) (state : σ) {f : Filter}
    (hf : (ModelRequest.run exec requests (m, state)).1.Offers f) : f.Sound := by
  have catalog := catalog_run h exec requests state
  cases hf with
  | table ht hf =>
    rw [catalog] at ht
    rw [Table.filters, (Filter.sort_perm _).mem_iff, List.mem_flatMap] at hf
    obtain ⟨x, hx, hf⟩ := hf
    exact (isDeclared_of_mem_catalog_tables h ht).sound_filters x hx f hf
  | label hx => exact Label.sound_filter _
  | @star name s _ hs hf =>
    rw [ModelRequest.star_run] at hs
    obtain ⟨s₀, hs₀, rfl⟩ := map_eq_ok_iff.mp hs
    refine Star.sound_filters_run ?_ _ f hf
    have fact := ((bound_of_ofDecl h).star hs₀).2.1
    have declared := Catalog.fact_of_ofDecl (catalog_of_ofDecl h) fact
    exact Star.sound_filters_of_ofFact (ofFact_of_star h hs₀) declared.sound_filters

end Model

/-- **A filter is its last accepted value.** Take a filter that was unset at first, whatever was
done to it, and the input that it accepted last, which is null if it accepted none since it was
cleared. The filter holds that input, with what it converts to, or with nothing if it is null or the
empty text. It is active just if it stands for a condition, and it stands for one just if the input
is not empty and converts to a value: then the condition is what the operator makes of the subject
and that value. An input is refused just if it is not empty and does not convert, whatever was
accepted before, and then the filter stays as it is.

The operator of a filter that a model offers, at any time, is one for the type of the filter, and
whatever is done to the filter, a value that it holds is of that type. -/
theorem Model.filters_hold_last_accepted :
    (∀ f : Filter, f.Unset → ∀ steps : List FilterStep,
      let g := f.run steps
      let r := f.lastAccepted steps
      (g.input = r ∧
        (r = .null ∨ r = .str "" → g.value? = none) ∧
        (¬(r = .null ∨ r = .str "") → convert f.dataType r = .ok g.value?)) ∧
      (g.isActive = true ↔ ∃ p, g.predicate? = some p) ∧
      (∀ p, g.predicate? = some p ↔ ¬(r = .null ∨ r = .str "") ∧
        ∃ v, convert f.dataType r = .ok (some v) ∧ p = f.operator.predicate f.subject v) ∧
      (∀ x e, g.set x = .error e ↔
        ¬(x = .null ∨ x = .str "") ∧ convert f.dataType x = .error e) ∧
      (∀ x e, g.set x = .error e → g.apply (.set x) = g) ∧
      g.accepted? = f.accepted?) ∧
    ∀ (σ : Type) (exec : Executor σ) (d : ModelDecl) (m : Model) (requests : List ModelRequest)
      (state : σ), Model.ofDecl engine d = .ok m →
      ∀ f, (ModelRequest.run exec requests (m, state)).1.Offers f → ∀ steps : List FilterStep,
        let g := f.run steps
        g.operator.appliesTo g.dataType = true ∧
          ∀ v, g.value? = some v → v.dataType = g.dataType := by
  refine ⟨fun f hf steps => ?_, fun σ exec d m requests state h f hf steps => ?_⟩
  · have holds := Filter.holds_run hf steps
    have same := f.sameQuestion_run steps
    intro g r
    simp only [← Input.isEmpty_iff, Bool.not_eq_true]
    refine ⟨⟨holds.given, holds.absent, ?_⟩, ?_, fun p => ?_, fun x e => ?_,
      fun x e => Filter.apply_of_error, same.accepted?_eq⟩
    · rw [← same.dataType]
      exact holds.converted
    · rw [← g.isSome_predicate?, Option.isSome_iff_exists]
    · rw [← same.dataType, ← same.operator, ← same.subject]
      exact holds.predicate?_eq_some_iff
    · rw [← same.dataType]
      exact Filter.set_eq_error_iff
  · have sound := (sound_of_offers h exec requests state hf).run steps
    exact ⟨sound.applies, fun v hv => (sound.typed v hv).1⟩

/-- A lower bound for a day. -/
def Filter.soldSince : Filter where
  fieldName := "Sold"
  dataType := .date
  operator := .onOrAfter
  subject := .column "sales" "sold"

theorem Model.sales_offers :
    (Model.ofDecl .plain .sales).toOption.any (fun m => m.catalog.dimensions.any fun x =>
      x.name == "products" && (x.label.filter.run [.set (.int 5)]).isActive) = true := by
  decide +kernel

/-- A day that is kept although a word is refused after it, blanks that take its place, and a filter
for a label that is given a number. -/
theorem Model.filters_hold_last_accepted_sales :
    let kept : List FilterStep := [.set (.str "2024-05-01"), .set (.str "yesterday")]
    let blanks : List FilterStep := [.set (.str "2024-05-01"), .set (.str " ")]
    Filter.soldSince.Unset ∧
    ((Filter.soldSince.run kept).input = .str "2024-05-01" ∧
      (Filter.soldSince.run kept).isActive = true) ∧
    ((Filter.soldSince.run blanks).input = .str " " ∧
      (Filter.soldSince.run blanks).predicate? = none) ∧
    ∃ m, Model.ofDecl .plain .sales = .ok m ∧ ∃ x ∈ m.catalog.dimensions, x.name = "products" ∧
      let g := x.label.filter.run [.set (.int 5)]
      g.isActive = true ∧ g.operator.appliesTo g.dataType = true ∧
        ∀ v, g.value? = some v → v.dataType = g.dataType := by
  intro kept blanks
  obtain ⟨history, offered⟩ := filters_hold_last_accepted
  have unset : Filter.soldSince.Unset := ⟨rfl, rfl⟩
  obtain ⟨⟨first, -, -⟩, active, condition, -⟩ := history _ unset kept
  obtain ⟨⟨second, -, -⟩, -, condition', -⟩ := history _ unset blanks
  have last : Filter.soldSince.lastAccepted kept = .str "2024-05-01" := by decide +kernel
  have last' : Filter.soldSince.lastAccepted blanks = .str " " := by decide +kernel
  obtain ⟨m, built, outcome⟩ := exists_of_any_toOption sales_offers
  obtain ⟨x, hx, outcome⟩ := List.any_eq_true.mp outcome
  obtain ⟨named, given⟩ := Bool.and_eq_true_iff.mp outcome
  refine ⟨unset, ⟨first.trans last, active.mpr ?_⟩, ⟨second.trans last', ?_⟩,
    m, built, x, hx, beq_iff_eq.mp named, given, ?_⟩
  · have day : (convert .date (.str "2024-05-01")).toOption.any Option.isSome = true := by
      decide +kernel
    obtain ⟨value?, converted, present⟩ := exists_of_any_toOption day
    obtain ⟨v, rfl⟩ := Option.isSome_iff_exists.mp present
    refine ⟨_, (condition _).mpr ⟨?_, v, ?_, rfl⟩⟩
    · rw [last]
      decide
    · rw [last]
      exact converted
  · refine Option.eq_none_iff_forall_ne_some.mpr fun p hp => ?_
    obtain ⟨-, v, converted, -⟩ := (condition' p).mp hp
    rw [last'] at converted
    cases converted
  · exact offered Unit (fun _ state => (.error (.failed "busy"), state)) _ m [] () built _
      (.label hx) [.set (.int 5)]

end StarSchema
