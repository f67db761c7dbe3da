import StarSchema.Proofs.Filter.History
import StarSchema.Proofs.Star.Fields

/-!
# Filters change the condition of a query and nothing else

The filters of a star are set and cleared any number of times, and some of these requests are
refused. Through all of it the star keeps its layout of filters, and what its query and those of
its views select, join, group and order is what it was at first. Only the condition on rows
changes, and it is made of the values that the filters accepted last.

## Position and name

A request names a filter, and of several filters with one name it means the first. So what a
request does is told by the position of the name in the layout, which no request changes; at each
position a star's run is a run of the filter that stands there.

Main definitions: `StarRequest`, `Star.run`, `Star.stepsAt`, `Star.IsCondition`.

Main results: `Star.run_eq_mapFilters`, `Star.filters_run`, `Star.only_condition_changes`.
-/

namespace StarSchema

open Sql (Expr)

/-- What is asked of the filters of a star. -/
inductive StarRequest where
  | set (filter : String) (input : Input)
  | clear

def StarRequest.operation : StarRequest → InPlace RequestError Star Unit
  | .set filter input => Star.assignFilter filter input
  | .clear => modify Star.clearFilters

/-- What a request asks of the filter at a position of the layout. -/
def StarRequest.stepAt? (layout : List String) (i : Nat) : StarRequest → Option FilterStep
  | .set name input => if layout.idxOf name = i then some (.set input) else none
  | .clear => some .clear

/-- The filter after a step, if there is one. -/
def Filter.applyIfAny (f : Filter) (step? : Option FilterStep) : Filter :=
  step?.elim f f.apply

namespace Star

/-- The star as a request leaves it, unless the request is refused. -/
def answer (s : Star) (r : StarRequest) : Except RequestError Star :=
  r.operation.outcome s

/-- The star as some requests leave it, whether they are refused or not. -/
def run (s : Star) (requests : List StarRequest) : Star :=
  requests.foldl (fun s r => r.operation.after s) s

/-- The names of the filters in order. -/
def layout (s : Star) : List String :=
  s.filters.map (·.displayName)

/-- What some requests ask of the filter at a position. -/
def stepsAt (s : Star) (requests : List StarRequest) (i : Nat) : List FilterStep :=
  requests.filterMap (StarRequest.stepAt? s.layout i)

/-- The star with its filters changed, each as its position says. -/
def mapFilters (s : Star) (change : Nat → Filter → Filter) : Star :=
  { s with filters := s.filters.mapIdx change }

variable {s s' : Star}

/-! ### Changes of filters -/

theorem mapFilters_eq {change : Nat → Filter → Filter} {filters : List Filter}
    (h : ∀ i, filters[i]? = s.filters[i]?.map (change i)) :
    s.mapFilters change = { s with filters } := by
  rw [mapFilters, List.mapIdx_eq_iff.mpr h]

/-- A change at one position. -/
theorem mapFilters_eq_of_position {change : Nat → Filter → Filter} {filters : List Filter} {p : Nat}
    (elsewhere : ∀ i, p ≠ i → ∀ f, change i f = f)
    (here : filters[p]? = s.filters[p]?.map (change p))
    (others : ∀ i, p ≠ i → filters[i]? = s.filters[i]?) :
    s.mapFilters change = { s with filters } := by
  refine mapFilters_eq fun i => ?_
  by_cases same : p = i
  · exact same ▸ here
  · rw [others i same, funext (elsewhere i same), Option.map_id_fun', id]

theorem mapFilters_self (s : Star) : (s.mapFilters fun _ f => f) = s :=
  mapFilters_eq fun i => by rw [Option.map_id_fun', id]

theorem mapFilters_mapFilters (s : Star) (change change' : Nat → Filter → Filter) :
    (s.mapFilters change).mapFilters change' = s.mapFilters fun i f => change' i (change i f) := by
  rw [mapFilters, mapFilters, List.mapIdx_mapIdx]
  rfl

/-- A change that keeps what each filter asks keeps their names. -/
theorem layout_mapFilters (s : Star) {change : Nat → Filter → Filter}
    (same : ∀ i f, Filter.SameQuestion (change i f) f) :
    (s.mapFilters change).layout = s.layout := by
  refine List.ext_getElem? fun i => ?_
  rw [layout, layout, List.getElem?_map, List.getElem?_map]
  show Option.map _ (s.filters.mapIdx change)[i]? = _
  rw [List.getElem?_mapIdx, Option.map_map]
  congr 1
  funext f
  exact (same i f).displayName_eq

/-! ### One request -/

/-- All that a request for a value does, where a filter of the name is found. -/
theorem setFilter_of_filter? {name : String} {f : Filter} (found : s.filter? name = some f)
    (input : Input) :
    s.setFilter name input = ((f.set input).mapError .conversion).map fun g =>
      { s with filters := s.filters.set (s.layout.idxOf name) g } := by
  have position : s.layout.idxOf name = s.filters.findIdx (·.displayName == name) := by
    rw [layout, List.idxOf, List.findIdx_map]
    rfl
  rw [setFilter_eq, found, position]
  rfl

theorem setFilter_of_filter?_eq_none {name : String} (absent : s.filter? name = none)
    (input : Input) :
    s.setFilter name input = .error (.resolution (.unknownFilter s.name name)) := by
  rw [setFilter_eq, absent]

/-- A request is refused if it names no filter, or if the input does not convert to the type of the
filter that it names. -/
theorem setFilter_eq_error_iff {name : String} {input : Input} {e : RequestError} :
    s.setFilter name input = .error e ↔
      s.filter? name = none ∧ e = .resolution (.unknownFilter s.name name) ∨
        ∃ f c, s.filter? name = some f ∧ f.set input = .error c ∧ e = .conversion c := by
  cases found : s.filter? name with
  | none =>
    rw [setFilter_of_filter?_eq_none found]
    simp [eq_comm]
  | some f =>
    rw [setFilter_of_filter? found]
    cases outcome : f.set input with
    | ok g => simp [outcome, Except.mapError, Except.map]
    | error c => simp [outcome, Except.mapError, Except.map, eq_comm]

/-- The filter that a name means stands where the name first stands in the layout. -/
theorem filter?_eq_getElem? (s : Star) (name : String) :
    s.filter? name = s.filters[s.layout.idxOf name]? := by
  rw [filter?, List.find?_eq_getElem?_findIdx, layout, List.idxOf, List.findIdx_map]
  rfl

/-- A request that is refused leaves the star as it was. -/
theorem allOrNothing_operation (s : Star) (r : StarRequest) : r.operation.AllOrNothing s := by
  cases r with
  | set name input => exact s.allOrNothing_assignFilter name input
  | clear => exact fun e refused => nomatch refused

/-- Setting a filter changes the one that stands where its name first stands. -/
theorem after_assignFilter (s : Star) (name : String) (input : Input) :
    (assignFilter name input).after s = s.mapFilters fun i f =>
      f.applyIfAny ((StarRequest.set name input).stepAt? s.layout i) := by
  have elsewhere (i : Nat) (h : s.layout.idxOf name ≠ i) (f : Filter) :
      f.applyIfAny ((StarRequest.set name input).stepAt? s.layout i) = f := by
    rw [StarRequest.stepAt?, if_neg h]
    rfl
  have here (f : Filter) :
      f.applyIfAny ((StarRequest.set name input).stepAt? s.layout (s.layout.idxOf name)) =
        (f.set input).toOption.getD f := by
    rw [StarRequest.stepAt?, if_pos rfl]
    exact f.apply_set input
  have found := s.filter?_eq_getElem? name
  rw [(s.allOrNothing_assignFilter name input).after_eq]
  show (s.setFilter name input).toOption.getD s = _
  cases standing : s.filter? name with
  | none =>
    rw [setFilter_of_filter?_eq_none standing]
    refine (mapFilters_eq_of_position elsewhere ?_ fun _ _ => rfl).symm
    rw [← found, standing]
    rfl
  | some f =>
    rw [standing] at found
    rw [setFilter_of_filter? standing]
    cases outcome : f.set input with
    | ok g =>
      have bound := (List.getElem?_eq_some_iff.mp found.symm).1
      refine (mapFilters_eq_of_position elsewhere ?_ fun i h => List.getElem?_set_ne h).symm
      rw [List.getElem?_set_self bound, ← found, Option.map_some, here, outcome]
      rfl
    | error c =>
      refine (mapFilters_eq_of_position elsewhere ?_ fun _ _ => rfl).symm
      rw [← found, Option.map_some, here, outcome]
      rfl

/-- What a request does, position by position. -/
theorem after_operation (s : Star) (r : StarRequest) :
    r.operation.after s = s.mapFilters fun i f => f.applyIfAny (r.stepAt? s.layout i) := by
  cases r with
  | set name input => exact s.after_assignFilter name input
  | clear => exact (mapFilters_eq fun i => List.getElem?_map ..).symm

/-! ### Any number of requests -/

theorem sameQuestion_applyIfAny (f : Filter) (step? : Option FilterStep) :
    Filter.SameQuestion (f.applyIfAny step?) f := by
  cases step? with
  | none => exact .refl f
  | some step => exact f.sameQuestion_apply step

/-- **A run of a star is a run of each of its filters.** -/
theorem run_eq_mapFilters (s : Star) (requests : List StarRequest) :
    s.run requests = s.mapFilters fun i f => f.run (s.stepsAt requests i) := by
  induction requests generalizing s with
  | nil => exact s.mapFilters_self.symm
  | cons r requests ih =>
    have steps (i : Nat) (f : Filter) : f.run (s.stepsAt (r :: requests) i) =
        (f.applyIfAny (r.stepAt? s.layout i)).run (s.stepsAt requests i) := by
      rw [stepsAt, List.filterMap_cons]
      cases r.stepAt? s.layout i <;> rfl
    have layout := s.layout_mapFilters fun i f => sameQuestion_applyIfAny f (r.stepAt? s.layout i)
    show (r.operation.after s).run requests = _
    rw [after_operation, ih, mapFilters_mapFilters]
    congr 1
    funext i f
    rw [steps, stepsAt, layout]
    rfl

theorem run_concat (s : Star) (requests : List StarRequest) (r : StarRequest) :
    s.run (requests ++ [r]) = r.operation.after (s.run requests) := by
  rw [run, List.foldl_append]
  rfl

theorem layout_run (s : Star) (requests : List StarRequest) :
    (s.run requests).layout = s.layout := by
  rw [run_eq_mapFilters]
  exact s.layout_mapFilters fun i f => f.sameQuestion_run _

/-- A run keeps what each filter asks. -/
theorem sameQuestion_filters_run (s : Star) (requests : List StarRequest) :
    List.Forall₂ Filter.SameQuestion (s.run requests).filters s.filters := by
  rw [run_eq_mapFilters, List.forall₂_iff_get]
  refine ⟨List.length_mapIdx, fun i _ h => ?_⟩
  simp only [mapFilters, List.get_eq_getElem, List.getElem_mapIdx]
  exact Filter.sameQuestion_run _ _

/-- A name means the same question after a run. -/
theorem filter?_run (s : Star) (requests : List StarRequest) (name : String) :
    (s.run requests).filter? name = (s.filter? name).map fun f =>
      f.run (s.stepsAt requests (s.layout.idxOf name)) := by
  rw [filter?_eq_getElem?, filter?_eq_getElem?, layout_run, run_eq_mapFilters]
  exact List.getElem?_mapIdx

/-- Whether a request is refused does not hang on what was asked before. -/
theorem answer_run_eq_error_iff (s : Star) (requests : List StarRequest) {r : StarRequest}
    {e : RequestError} :
    (s.run requests).answer r = .error e ↔ s.answer r = .error e := by
  cases r with
  | clear => exact ⟨fun h => (nomatch h), fun h => (nomatch h)⟩
  | set name input =>
    have sameName : (s.run requests).name = s.name := by rw [run_eq_mapFilters]; rfl
    show setFilter _ name input = _ ↔ s.setFilter name input = _
    rw [setFilter_eq_error_iff, setFilter_eq_error_iff, filter?_run, sameName]
    cases s.filter? name with
    | none => simp
    | some f => simp [(f.sameQuestion_run _).set_eq]

/-! ### Queries -/

/-- Other filter values give a query with another condition. -/
theorem compose_mapFilters (s : Star) (change : Nat → Filter → Filter) :
    (s.mapFilters change).compose = s.compose.map fun q =>
      { q with where? := Expr.conjunction? (s.mapFilters change).predicates } := by
  have ordered : (s.mapFilters change).fact.table.orderBy.mapM (s.mapFilters change).sortKey =
      s.fact.table.orderBy.mapM s.sortKey := rfl
  rw [compose, compose, ordered]
  cases s.fact.table.orderBy.mapM s.sortKey with
  | error e => rfl
  | ok orderBy => rfl

/-- The query reads the rows of the star that meet a condition: its fact, its joins and its cap. -/
structure ReadsRows (s : Star) (where? : Option Expr) (q : Sql.Query) : Prop where
  table : q.from? = some s.name
  joins : q.joins = s.joins.map (·.toJoin s.name)
  condition : q.where? = where?
  cap : q.limit? = some s.fact.table.displayRows

theorem readsRows_compose {q : Sql.Query} (h : s.compose = .ok q) :
    s.ReadsRows (Expr.conjunction? s.predicates) q := by
  obtain ⟨orderBy, -, rfl⟩ := compose_eq_ok_iff.mp h
  exact ⟨rfl, rfl, rfl, rfl⟩

end Star

/-- A view reads the rows of its star. -/
theorem View.readsRows_compose {v : View} {s : Star} {q : Sql.Query} (h : v.compose s = .ok q) :
    s.ReadsRows (Expr.conjunction? s.predicates) q := by
  obtain ⟨orderBy, -, rfl⟩ := compose_eq_ok_iff.mp h
  exact ⟨rfl, rfl, rfl, rfl⟩

theorem View.compose_mapFilters (v : View) (s : Star) (change : Nat → Filter → Filter) :
    v.compose (s.mapFilters change) = (v.compose s).map fun q =>
      { q with where? := Expr.conjunction? (s.mapFilters change).predicates } := by
  rw [View.compose, View.compose]
  cases v.orderBy.mapM v.sortKey with
  | error e => rfl
  | ok orderBy => rfl

/-! ### The condition of the active filters -/

/-- What some conditions make together: nothing without any, a single one itself, and one more
after others the AND of what those make and of it. -/
inductive Sql.Expr.IsConjunction : List Expr → Option Expr → Prop
  | nil : IsConjunction [] none
  | single (e : Expr) : IsConjunction [e] (some e)
  | and {es : List Expr} {e f : Expr} (others : IsConjunction es (some e)) :
      IsConjunction (es ++ [f]) (some (.binary .and e f))

namespace Sql.Expr

theorem conjunction?_append_singleton {es : List Expr} {e : Expr} (h : conjunction? es = some e)
    (f : Expr) : conjunction? (es ++ [f]) = some (.binary .and e f) := by
  cases es with
  | nil => cases h
  | cons d es =>
    cases h
    exact congrArg some List.foldl_append

theorem isConjunction_iff {es : List Expr} {where? : Option Expr} :
    IsConjunction es where? ↔ where? = conjunction? es := by
  constructor
  · intro h
    induction h with
    | nil => rfl
    | single e => rfl
    | and _ ih => exact (conjunction?_append_singleton ih.symm _).symm
  · rintro rfl
    induction es using List.reverseRecOn with
    | nil => exact .nil
    | append_singleton es f ih =>
      cases made : conjunction? es with
      | none =>
        cases es with
        | nil => exact .single f
        | cons d es => cases made
      | some e =>
        rw [conjunction?_append_singleton made]
        exact .and (made ▸ ih)

end Sql.Expr

/-- A filter stands for the condition that its operator makes of its subject and its value. -/
def Filter.StandsFor (f : Filter) (p : Expr) : Prop :=
  ∃ v, f.value? = some v ∧ p = f.operator.predicate f.subject v

namespace Filter

variable {f : Filter}

theorem standsFor_of_predicate? {p : Expr} (h : f.predicate? = some p) : f.StandsFor p := by
  unfold predicate? at h
  split at h
  · cases h
  · obtain ⟨v, hv, made⟩ := Option.map_eq_some_iff.mp h
    exact ⟨v, hv, made.symm⟩

theorem forall₂_standsFor (filters : List Filter) :
    List.Forall₂ StandsFor (filters.filter (·.isActive)) (filters.filterMap predicate?) := by
  induction filters with
  | nil => exact .nil
  | cons f filters ih =>
    have active := f.isSome_predicate?
    cases stands : f.predicate? with
    | none =>
      rw [stands] at active
      rwa [List.filter_cons_of_neg (by simp [← active]), List.filterMap_cons_none stands]
    | some p =>
      rw [stands] at active
      rw [List.filter_cons_of_pos active.symm, List.filterMap_cons_some stands]
      exact .cons (standsFor_of_predicate? stands) ih

end Filter

namespace Star

variable {s : Star}

/-- A filter of a new star has no value. -/
theorem unset_of_ofFact {dimensions : List Dimension} {fact : Fact}
    (h : ofFact dimensions fact = .ok s) : ∀ f ∈ s.filters, f.Unset := by
  intro f hf
  rw [filters_of_ofFact h, mem_initialFilters_iff] at hf
  rcases hf with ⟨j, -, rfl⟩ | ⟨x, -, hf⟩ | ⟨c, -, hf⟩
  · exact ⟨rfl, rfl⟩
  · unfold Field.filters at hf
    split at hf
    · cases hf
    · obtain ⟨op, -, rfl⟩ := List.mem_map.mp hf
      exact ⟨rfl, rfl⟩
  · unfold CalculatedField.filters at hf
    split at hf
    · obtain ⟨op, -, rfl⟩ := List.mem_map.mp hf
      exact ⟨rfl, rfl⟩
    · cases hf

/-- The condition on rows that the filters of a star make: what precisely the active ones stand
for, in the order of the layout, joined from the left. -/
def IsCondition (s : Star) (where? : Option Expr) : Prop :=
  ∃ ps, List.Forall₂ Filter.StandsFor (s.filters.filter (·.isActive)) ps ∧
    Expr.IsConjunction ps where?

theorem isCondition_conjunction? (s : Star) : s.IsCondition (Expr.conjunction? s.predicates) :=
  ⟨s.predicates, Filter.forall₂_standsFor s.filters, Expr.isConjunction_iff.mpr rfl⟩

theorem predicates_eq_nil_iff : s.predicates = [] ↔ ∀ f ∈ s.filters, f.isActive = false := by
  simp only [predicates, List.filterMap_eq_nil_iff, ← Filter.isSome_predicate?,
    Option.isSome_eq_false_iff, Option.isNone_iff_eq_none]

theorem conjunction?_eq_none_iff {es : List Expr} : Expr.conjunction? es = none ↔ es = [] := by
  cases es with
  | nil => exact ⟨fun _ => rfl, fun _ => rfl⟩
  | cons e es => exact ⟨fun h => (nomatch h), fun h => (nomatch h)⟩

/-- The filters of a star that was new at first, from the inputs that they accepted last. -/
theorem filters_run (unset : ∀ f ∈ s.filters, f.Unset) (requests : List StarRequest) :
    (s.run requests).filters = s.filters.mapIdx fun i f =>
      f.apply (.set (f.lastAccepted (s.stepsAt requests i))) := by
  rw [run_eq_mapFilters]
  refine List.mapIdx_eq_iff.mpr fun i => ?_
  rw [List.getElem?_mapIdx]
  cases standing : s.filters[i]? with
  | none => rfl
  | some f =>
    have hf := unset f (List.mem_of_getElem? standing)
    rw [Option.map_some, Option.map_some, Filter.run_eq_apply_lastAccepted hf]

/-- **Every filter holds the input that it accepted last.** -/
theorem holds_filters_run (unset : ∀ f ∈ s.filters, f.Unset) (requests : List StarRequest) :
    List.Forall₂ Filter.Holds (s.run requests).filters
      (s.filters.mapIdx fun i f => f.lastAccepted (s.stepsAt requests i)) := by
  rw [run_eq_mapFilters, List.forall₂_iff_get]
  refine ⟨by simp [mapFilters], fun i hi _ => ?_⟩
  simp only [mapFilters, List.get_eq_getElem, List.getElem_mapIdx]
  exact Filter.holds_run (unset _ (List.getElem_mem _)) _

/-- **Filters change the condition of a query and nothing else.** Take a new star and any requests
to its filters. The layout of the filters and what each of them asks stay. A request is refused
just if it names no filter or its input does not convert, and then it changes nothing. Each filter
is as if it had been given the input that it accepted last and no other, and holds that input. The
query is that of the new star, or its failure, with another condition: none if no filter is active,
and else the AND, from left to right in the order of the layout, of what precisely the active
filters stand for. Views over the star read the same rows as the star, on the same condition. -/
theorem only_condition_changes {dimensions : List Dimension} {fact : Fact} {s : Star}
    (h : ofFact dimensions fact = .ok s) (requests : List StarRequest) :
    let s' := s.run requests
    (List.Forall₂ Filter.SameQuestion s'.filters s.filters ∧ s'.layout = s.layout) ∧
    ((∀ name input e, s'.answer (.set name input) = .error e ↔
        s.filter? name = none ∧ e = .resolution (.unknownFilter s.name name) ∨
          ∃ f c, s.filter? name = some f ∧ f.set input = .error c ∧ e = .conversion c) ∧
      ∀ r e, s'.answer r = .error e → s.run (requests ++ [r]) = s') ∧
    (s'.filters = s.filters.mapIdx (fun i f =>
        f.apply (.set (f.lastAccepted (s.stepsAt requests i)))) ∧
      List.Forall₂ Filter.Holds s'.filters
        (s.filters.mapIdx fun i f => f.lastAccepted (s.stepsAt requests i))) ∧
    (s'.fact = s.fact ∧ s'.joins = s.joins) ∧
    (∀ q, s.compose = .ok q → q.where? = none) ∧
    ∃ where?, s'.IsCondition where? ∧
      (where? = none ↔ ∀ f ∈ s'.filters, f.isActive = false) ∧
      s'.compose = s.compose.map (fun q => { q with where? }) ∧
      (∀ q, s'.compose = .ok q → s'.ReadsRows where? q) ∧
      ∀ (v : View) q, v.compose s' = .ok q → s'.ReadsRows where? q := by
  intro s'
  have unset := unset_of_ofFact h
  have changed : s' = s.mapFilters fun i f => f.run (s.stepsAt requests i) :=
    s.run_eq_mapFilters requests
  refine ⟨⟨s.sameQuestion_filters_run requests, s.layout_run requests⟩, ⟨?_, ?_⟩,
    ⟨filters_run unset requests, holds_filters_run unset requests⟩, ?_, ?_,
    Expr.conjunction? s'.predicates, s'.isCondition_conjunction?, ?_, ?_,
    fun q => readsRows_compose, fun v q => v.readsRows_compose⟩
  · intro name input e
    rw [answer_run_eq_error_iff]
    exact setFilter_eq_error_iff
  · intro r e refused
    rw [run_concat]
    exact s'.allOrNothing_operation r e refused
  · rw [changed]
    exact ⟨rfl, rfl⟩
  · intro q hq
    have inactive : s.predicates = [] := predicates_eq_nil_iff.mpr fun f hf => by
      obtain ⟨input, -⟩ := unset f hf
      rw [Filter.isActive, input]
      rfl
    rw [(readsRows_compose hq).condition, inactive]
    rfl
  · rw [conjunction?_eq_none_iff, predicates_eq_nil_iff]
  · rw [changed]
    exact s.compose_mapFilters _

end Star

/-! ### Sales with a day, a price and a quantity -/

def Fact.priced : Fact :=
  (Fact.ofDecl .plain {}
    { table :=
      { name := "sales"
        fields :=
          [{ name := "id", dataType? := some .int, isKey := true },
            { name := "day", dataType? := some .date, operators? := some [.on] },
            { name := "price", dataType? := some .float, operators? := some [.le, .ge] },
            { name := "quantity", dataType? := some .int, operators? := some [.ge] }]
        orderBy := [{ field := "price" }] } }).toOption.get rfl

/-- A filter of the sales. -/
def Filter.ofSales (name : String) (dataType : DataType) (operator : Operator) : Filter where
  fieldName := name
  dataType
  operator
  subject := .column "sales" name

namespace Star

def priced : Star where
  fact := .priced
  joins := []
  calculated := []
  filters := [.ofSales "day" .date .on, .ofSales "price" .float .le, .ofSales "price" .float .ge,
    .ofSales "quantity" .int .ge]

theorem ofFact_priced : ofFact [] .priced = .ok .priced := by
  have sorted : Filter.sort priced.filters = priced.filters :=
    List.mergeSort_of_pairwise (by decide +kernel)
  have offered : Fact.priced.table.filters = priced.filters := sorted
  have built : ofFact [] .priced =
      .ok { fact := .priced, joins := [], calculated := []
            filters := initialFilters .priced [] [] } := rfl
  have filters : initialFilters .priced [] [] = priced.filters := by
    show Filter.sort (Fact.priced.table.filters ++ []) = _
    rw [List.append_nil, offered, sorted]
  rw [built, filters]
  rfl

/-- Values that are taken away, refused, given to no filter, and replaced. -/
def pricedRequests : List StarRequest :=
  [.set "price >=" (.int 5), .clear, .set "cost >=" (.int 1), .set "quantity >=" (.int 2),
    .set "price >=" (.int 6), .set "day on" (.str " "), .set "price <=" (.int 9),
    .set "price >=" (.str "7"), .set "price >=" (.str "cheap")]

/-- The filters of the sales after these requests. A blank day is a day that is absent. -/
def pricedFilters : List Filter :=
  [{ Filter.ofSales "day" .date .on with input := .str " " },
    { Filter.ofSales "price" .float .le with input := .int 9, value? := some (.float (.ofInt 9)) },
    { Filter.ofSales "price" .float .ge with
      input := .str "7", value? := some (.float (.ofInt 7)) },
    { Filter.ofSales "quantity" .int .ge with input := .int 2, value? := some (.int 2) }]

/-- What a filter accepted last, what that is as a value, and what the filter is then. -/
theorem apply_lastAccepted {f : Filter} {i : Nat} {input : Input} {value? : Option Value}
    (last : f.lastAccepted (priced.stepsAt pricedRequests i) = input)
    (value : f.valueOf input = .ok value?) :
    f.apply (.set (f.lastAccepted (priced.stepsAt pricedRequests i))) =
      { f with input, value? } := by
  rw [last, Filter.apply_of_valueOf value]

theorem filters_run_priced :
    (priced.filters.mapIdx fun i f =>
      f.apply (.set (f.lastAccepted (priced.stepsAt pricedRequests i)))) = pricedFilters := by
  have day : (Filter.ofSales "day" .date .on).valueOf (.str " ") = .ok none := by decide +kernel
  have most : (Filter.ofSales "price" .float .le).valueOf (.int 9) =
      .ok (some (.float (.ofInt 9))) := by decide +kernel
  have least : (Filter.ofSales "price" .float .ge).valueOf (.str "7") =
      .ok (some (.float (.ofInt 7))) := by decide +kernel
  have quantity : (Filter.ofSales "quantity" .int .ge).valueOf (.int 2) = .ok (some (.int 2)) := by
    decide +kernel
  show [Filter.apply _ _, Filter.apply _ _, Filter.apply _ _, Filter.apply _ _] = _
  rw [apply_lastAccepted (by decide +kernel) day, apply_lastAccepted (by decide +kernel) most,
    apply_lastAccepted (by decide +kernel) least, apply_lastAccepted (by decide +kernel) quantity]
  rfl

/-- The last values count, since what comes after them is refused, and three of the four filters are
active. -/
theorem only_condition_changes_priced : ofFact [] .priced = .ok priced ∧
    ∃ q where? c, (Filter.ofSales "price" .float .ge).set (.str "cheap") = .error c ∧
      (priced.run pricedRequests).answer (.set "price >=" (.str "cheap")) =
        .error (.conversion c) ∧
      priced.compose = .ok q ∧ q.where? = none ∧
      where? = some (.binary .and
        (.binary .and
          (.binary .le (.column "sales" "price") (.literal (.float (.ofInt 9))))
          (.binary .ge (.column "sales" "price") (.literal (.float (.ofInt 7)))))
        (.binary .ge (.column "sales" "quantity") (.literal (.int 2)))) ∧
      (priced.run pricedRequests).compose = .ok { q with where? } ∧
      ∃ v q', View.ofPlan priced
          { name := "days", displayName := "days", fact := "sales", groupBy := ["day"]
            aggregates := [], orderBy := [] } = .ok v ∧
        v.compose (priced.run pricedRequests) = .ok q' ∧
        (priced.run pricedRequests).ReadsRows where? q' := by
  obtain ⟨-, ⟨refused, -⟩, ⟨filters, -⟩, -, unconditional, where?, ⟨ps, stand, joined⟩, -, composed,
    -, views⟩ := only_condition_changes ofFact_priced pricedRequests
  obtain ⟨c, hc⟩ : ∃ c, (Filter.ofSales "price" .float .ge).set (.str "cheap") = .error c :=
    ⟨_, rfl⟩
  obtain ⟨q, hq⟩ : ∃ q, priced.compose = .ok q := ⟨_, rfl⟩
  obtain ⟨v, hv⟩ : ∃ v, View.ofPlan priced
      { name := "days", displayName := "days", fact := "sales", groupBy := ["day"]
        aggregates := [], orderBy := [] } = .ok v := ⟨_, rfl⟩
  obtain ⟨q', hq'⟩ : ∃ q', v.compose (priced.run pricedRequests) = .ok q' := by
    cases hv
    exact ⟨_, rfl⟩
  have active : pricedFilters.filter (·.isActive) = pricedFilters.tail := rfl
  rw [filters.trans filters_run_priced, active] at stand
  rcases stand with _ | ⟨⟨_, most, rfl⟩, _ | ⟨⟨_, least, rfl⟩, _ | ⟨⟨_, quantity, rfl⟩, _ | _⟩⟩⟩
  cases most
  cases least
  cases quantity
  refine ⟨ofFact_priced, q, where?, c, hc, ?_, hq, unconditional q hq, ?_, ?_, v, q', hv, hq',
    views v q' hq'⟩
  · exact (refused _ _ _).mpr (.inr ⟨_, c, rfl, hc, rfl⟩)
  · exact Expr.isConjunction_iff.mp joined
  · rw [composed, hq]
    rfl

end Star

end StarSchema
