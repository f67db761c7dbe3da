import StarSchema.Proofs.Filter.Run
import StarSchema.Proofs.Sql.Columns
import StarSchema.Proofs.Star.Calculated
import StarSchema.Proofs.Star.Composition

/-!
# Where the expressions of a query come from

Every expression in the query of a star or of a view is made of the fields of the star: shown, or
ordered by, or grouped by, or aggregated, or compared with a value by a filter. What holds of the
fields and is kept by these steps therefore holds of the whole query.

Main definitions: `Star.Built`, what the construction of a star establishes; `Star.Refilled`, what
the filters can do to it; `View.Over`.

Main results: `Star.built_of_ofFact`, `Star.Refilled.built`, `Star.forall_exprs_compose`,
`View.forall_exprs_compose`.
-/

namespace StarSchema

open Sql (Expr)

namespace Star

/-! ### What a star is built from -/

/-- Each joined dimension is one of the given ones, is referred to by a field of the fact, and is
joined once; each filter asks about a field of the star. -/
structure Built (dimensions : List Dimension) (s : Star) : Prop where
  dimension : ∀ j ∈ s.joins, j.dimension ∈ dimensions
  foreignKey : ∀ j ∈ s.joins, j.foreignKey.field ∈ s.fact.table.fields
  distinct : (s.joins.map (·.dimension.name)).Nodup
  composed : Composed s.fact s.calculated
  subject : ∀ f ∈ s.filters, ∃ x ∈ s.fields, x.column.expr = f.subject

variable {dimensions : List Dimension} {s s' : Star}

theorem field_mem_of_foreignKeys {t : Table} {k : ForeignKey} (h : k ∈ t.foreignKeys) :
    k.field ∈ t.fields := by
  obtain ⟨f, hf, found⟩ := List.mem_filterMap.mp h
  obtain ⟨r, -, rfl⟩ := Option.map_eq_some_iff.mp found
  exact hf

theorem resolveJoin_eq_ok_iff {fact : String} {k : ForeignKey} {j : StarJoin} :
    resolveJoin fact dimensions k = .ok j ↔
      j.foreignKey = k ∧ dimensions.find? (·.name == k.dimension) = some j.dimension := by
  rw [resolveJoin]
  cases dimensions.find? (·.name == k.dimension) with
  | none => simp
  | some dimension =>
    obtain ⟨key, joined⟩ := j
    simp [eq_comm]

/-- Joins are added one at a time, and only such as bring in a new dimension. -/
theorem foldl_addJoin (resolved joins : List StarJoin)
    (distinct : (joins.map (·.dimension.name)).Nodup) :
    ((resolved.foldl addJoin joins).map (·.dimension.name)).Nodup ∧
      ∀ j ∈ resolved.foldl addJoin joins, j ∈ joins ∨ j ∈ resolved := by
  induction resolved generalizing joins with
  | nil => exact ⟨distinct, fun j hj => .inl hj⟩
  | cons j resolved ih =>
    rw [List.foldl_cons]
    by_cases present : joins.any (·.dimension.name == j.dimension.name) = true
    · rw [addJoin, if_pos present]
      obtain ⟨nodup, origin⟩ := ih joins distinct
      exact ⟨nodup, fun x hx => (origin x hx).imp_right (List.mem_cons_of_mem j)⟩
    · rw [addJoin, if_neg present]
      have new : j.dimension.name ∉ joins.map (·.dimension.name) := by
        simpa [List.any_eq_true] using present
      obtain ⟨nodup, origin⟩ := ih (joins ++ [j]) (by
        rw [List.map_append, List.map_singleton]
        exact List.nodup_append.mpr ⟨distinct, List.nodup_singleton _, by
          rintro x hx y hy rfl
          exact new (List.mem_singleton.mp hy ▸ hx)⟩)
      refine ⟨nodup, fun x hx => ?_⟩
      rcases origin x hx with hx | hx
      · rcases List.mem_append.mp hx with hx | hx
        · exact .inl hx
        · exact .inr (List.mem_singleton.mp hx ▸ List.mem_cons_self)
      · exact .inr (List.mem_cons_of_mem j hx)

theorem stored_mem_fields {f : Field} (h : f ∈ s.fact.table.fields) :
    StarField.stored f ∈ s.fields :=
  List.mem_append_left _ (List.mem_append_left _ (List.mem_map_of_mem h))

theorem label_mem_fields {j : StarJoin} (h : j ∈ s.joins) :
    StarField.label j.dimension.label ∈ s.fields :=
  List.mem_append_left _ (List.mem_append_right _ (List.mem_map_of_mem (List.mem_map_of_mem h)))

theorem calculated_mem_fields {c : CalculatedField} (h : c ∈ s.calculated) :
    StarField.calculated c ∈ s.fields :=
  List.mem_append_right _ (List.mem_map_of_mem h)

/-- What holds of the fact's fields, of the labels and of the calculated fields holds of every
field. -/
theorem forall_mem_fields_iff {P : StarField → Prop} :
    (∀ x ∈ s.fields, P x) ↔
      (∀ f ∈ s.fact.table.fields, P (.stored f)) ∧
        (∀ j ∈ s.joins, P (.label j.dimension.label)) ∧
        ∀ c ∈ s.calculated, P (.calculated c) := by
  simp only [fields, labels, List.forall_mem_append, List.forall_mem_map, and_assoc]

/-- A star starts with the filters of its labels, of its fact and of its calculated fields. -/
theorem mem_initialFilters_iff {fact : Fact} {joins : List StarJoin}
    {calculated : List CalculatedField} {f : Filter} :
    f ∈ initialFilters fact joins calculated ↔
      (∃ j ∈ joins, j.dimension.label.filter = f) ∨
        (∃ x ∈ fact.table.fields, f ∈ x.filters) ∨ ∃ c ∈ calculated, f ∈ c.filters := by
  rw [initialFilters, (Filter.sort_perm _).mem_iff, List.mem_append, List.mem_append, List.mem_map,
    Table.filters, (Filter.sort_perm _).mem_iff, List.mem_flatMap, List.mem_flatMap, or_assoc]

/-- A filter asks about a field of the star from the start. -/
theorem subject_of_initialFilters {f : Filter}
    (h : f ∈ initialFilters s.fact s.joins s.calculated) :
    ∃ x ∈ s.fields, x.column.expr = f.subject := by
  rcases mem_initialFilters_iff.mp h with ⟨j, hj, rfl⟩ | ⟨x, hx, hf⟩ | ⟨c, hc, hf⟩
  · exact ⟨_, label_mem_fields hj, rfl⟩
  · refine ⟨_, stored_mem_fields hx, ?_⟩
    unfold Field.filters at hf
    split at hf
    · cases hf
    · obtain ⟨op, -, rfl⟩ := List.mem_map.mp hf
      rfl
  · refine ⟨_, calculated_mem_fields hc, ?_⟩
    unfold CalculatedField.filters at hf
    split at hf
    · obtain ⟨op, -, rfl⟩ := List.mem_map.mp hf
      rfl
    · cases hf

theorem filters_of_ofFact {fact : Fact} (h : ofFact dimensions fact = .ok s) :
    s.filters = initialFilters s.fact s.joins s.calculated := by
  obtain ⟨resolved, calculated, -, -, rfl⟩ := ofFact_eq_ok_iff.mp h
  rfl

theorem built_of_ofFact {fact : Fact} (h : ofFact dimensions fact = .ok s) :
    s.fact = fact ∧ s.Built dimensions := by
  have composed := composed_of_ofFact h
  obtain ⟨resolved, calculated, found, -, rfl⟩ := ofFact_eq_ok_iff.mp h
  obtain ⟨distinct, origin⟩ := foldl_addJoin resolved [] List.nodup_nil
  have resolve (j : StarJoin) (hj : j ∈ resolved.foldl addJoin []) :
      j.dimension ∈ dimensions ∧ j.foreignKey.field ∈ fact.table.fields := by
    obtain hj := (origin j hj).resolve_left List.not_mem_nil
    obtain ⟨k, hk, hkj⟩ := exists_of_mem_mapM found hj
    obtain ⟨rfl, refers⟩ := resolveJoin_eq_ok_iff.mp hkj
    exact ⟨List.mem_of_find?_eq_some refers, field_mem_of_foreignKeys hk⟩
  exact ⟨rfl,
    { dimension := fun j hj => (resolve j hj).1
      foreignKey := fun j hj => (resolve j hj).2
      distinct
      composed
      subject := fun f hf => subject_of_initialFilters hf }⟩

/-! ### What the filters can do to a star -/

/-- The star with other values in its filters, each of which asks what it asked before. -/
def Refilled (s s' : Star) : Prop :=
  ∃ filters, s' = { s with filters } ∧ ∀ f ∈ filters, ∃ g ∈ s.filters, f.SameQuestion g

theorem filter?_eq_some {f : Filter} (hf : f ∈ s.filters)
    (only : ∀ g ∈ s.filters, g.displayName = f.displayName → g = f) :
    s.filter? f.displayName = some f := by
  cases found : s.filter? f.displayName with
  | none => exact absurd (beq_self_eq_true f.displayName) (List.find?_eq_none.mp found f hf)
  | some g =>
    obtain ⟨named, before, after, split, -⟩ := List.find?_eq_some_iff_append.mp found
    have hg : g ∈ s.filters := split ▸ List.mem_append_right before List.mem_cons_self
    rw [only g hg (beq_iff_eq.mp named)]

theorem run_assignFilter (s : Star) (displayName : String) (input : Input) :
    (assignFilter displayName input).run.run s =
      match s.filter? displayName with
      | none => (.error (.resolution (.unknownFilter s.name displayName)), s)
      | some f =>
        ((Filter.assign input).onPart f (s.replaceFilter displayName) .conversion).run.run s := by
  have reads : (assignFilter displayName input).run.run s = StateT.run (ExceptT.run
      (match s.filter? displayName with
      | none => throw (.resolution (.unknownFilter s.name displayName))
      | some f =>
        (Filter.assign input).onPart f (s.replaceFilter displayName) .conversion)) s := rfl
  rw [reads]
  cases s.filter? displayName <;> rfl

/-- A filter that is named is set, and put back in its place. -/
theorem setFilter_eq (s : Star) (displayName : String) (input : Input) :
    s.setFilter displayName input =
      match s.filter? displayName with
      | none => .error (.resolution (.unknownFilter s.name displayName))
      | some f => ((f.set input).mapError .conversion).map (s.replaceFilter displayName) := by
  rw [setFilter, InPlace.outcome, InPlace.after, run_assignFilter]
  cases s.filter? displayName with
  | none => rfl
  | some f => exact (Filter.assign input).outcome_onPart f (s.replaceFilter displayName) _ s

theorem replaceFilter_self {displayName : String} {f : Filter}
    (found : s.filter? displayName = some f) : s.replaceFilter displayName f = s := by
  rw [filter?, List.find?_eq_getElem?_findIdx] at found
  obtain ⟨bound, rfl⟩ := List.getElem?_eq_some_iff.mp found
  rw [replaceFilter, List.set_getElem_self]

theorem allOrNothing_assignFilter (s : Star) (displayName : String) (input : Input) :
    (assignFilter displayName input).AllOrNothing s := by
  rw [InPlace.AllOrNothing, InPlace.outcome, InPlace.after, run_assignFilter]
  cases found : s.filter? displayName with
  | none => exact fun _ _ => rfl
  | some f =>
    exact InPlace.allOrNothing_onPart (f.allOrNothing_assign input) (replaceFilter_self found)

/-- A filter that can be set is set, and its new value is among the filters. -/
theorem setFilter_eq_ok {displayName : String} {input : Input} {f g : Filter}
    (found : s.filter? displayName = some f) (set : f.set input = .ok g) :
    ∃ s', s.setFilter displayName input = .ok s' ∧ g ∈ s'.filters := by
  refine ⟨s.replaceFilter displayName g, ?_, List.mem_set ?_ g⟩
  · rw [setFilter_eq, found]
    dsimp only
    rw [set]
    rfl
  obtain ⟨named, before, after, split, -⟩ := List.find?_eq_some_iff_append.mp found
  exact List.findIdx_lt_length_of_exists
    ⟨f, split ▸ List.mem_append_right before List.mem_cons_self, named⟩

theorem refilled_setFilter {displayName : String} {input : Input}
    (h : s.setFilter displayName input = .ok s') : s.Refilled s' := by
  rw [setFilter_eq] at h
  split at h
  · cases h
  · next f found =>
    obtain ⟨g, hset, rfl⟩ := map_eq_ok_iff.mp h
    refine ⟨_, rfl, fun x hx => ?_⟩
    rcases List.mem_or_eq_of_mem_set hx with hx | rfl
    · exact ⟨x, hx, .refl x⟩
    · exact ⟨f, List.mem_of_find?_eq_some found,
        Filter.sameQuestion_set (mapError_eq_ok_iff.mp hset)⟩

/-- Setting a filter refills the star, also where the value is refused. -/
theorem refilled_assignFilter (s : Star) (displayName : String) (input : Input) :
    s.Refilled ((assignFilter displayName input).after s) := by
  cases result : (assignFilter displayName input).outcome s with
  | error e =>
    rw [s.allOrNothing_assignFilter displayName input e result]
    exact ⟨s.filters, rfl, fun f hf => ⟨f, hf, .refl f⟩⟩
  | ok s' =>
    rw [InPlace.after_of_outcome result]
    exact refilled_setFilter result

theorem refilled_clearFilters (s : Star) : s.Refilled s.clearFilters := by
  refine ⟨_, rfl, fun x hx => ?_⟩
  obtain ⟨f, hf, rfl⟩ := List.mem_map.mp hx
  exact ⟨f, hf, f.sameQuestion_apply .clear⟩

theorem Refilled.fields (h : s.Refilled s') : s'.fields = s.fields := by
  obtain ⟨filters, rfl, -⟩ := h
  rfl

theorem Refilled.built (h : s.Refilled s') (hs : s.Built dimensions) : s'.Built dimensions := by
  obtain ⟨filters, rfl, same⟩ := h
  refine { hs with subject := fun f hf => ?_ }
  obtain ⟨g, hg, question⟩ := same f hf
  rw [question.subject]
  exact hs.subject g hg

/-! ### The query of a star -/

theorem exists_field_of_field? {name : String} {c : Column} (h : s.field? name = some c) :
    ∃ x ∈ s.fields, x.column = c :=
  List.mem_map.mp (List.mem_of_find?_eq_some h)

theorem exists_field_of_orderKey? {name : String} {e : Expr} (h : s.orderKey? name = some e) :
    ∃ x ∈ s.fields, x.column.expr = e := by
  unfold orderKey? at h
  split at h
  · next label _ found =>
    cases h
    obtain ⟨j, hj, rfl⟩ := List.mem_map.mp (List.mem_of_find?_eq_some found)
    exact ⟨_, label_mem_fields hj, rfl⟩
  · next f _ found =>
    cases h
    exact ⟨_, stored_mem_fields (List.mem_of_find?_eq_some found), rfl⟩
  · obtain ⟨c, found, rfl⟩ := Option.map_eq_some_iff.mp h
    obtain ⟨x, hx, rfl⟩ := exists_field_of_field? found
    exact ⟨x, hx, rfl⟩

variable {P : Expr → Prop} {q : Sql.Query}

/-- **What holds of the fields of a star holds of its query**, if it holds of the conditions for
joins and of the condition that the filters make. -/
theorem forall_exprs_compose (h : s.compose = .ok q)
    (field : ∀ x ∈ s.fields, P x.column.expr) (join : ∀ j ∈ s.joins, P (j.toJoin s.name).on)
    (condition : ∀ e ∈ Expr.conjunction? s.predicates, P e) : ∀ e ∈ q.exprs, P e := by
  obtain ⟨orderBy, ordered, rfl⟩ := compose_eq_ok_iff.mp h
  rw [Sql.Query.forall_mem_exprs_iff]
  refine ⟨?_, List.forall_mem_map.mpr join, condition, List.forall_mem_nil _, ?_⟩
  · rw [List.forall_mem_map, columns, List.forall_mem_map]
    exact fun x hx => field x (List.mem_filter.mp hx).1
  · intro k hk
    obtain ⟨o, -, key⟩ := exists_left_of_forall₂ ordered hk
    obtain ⟨e, found, rfl⟩ := sortKey_eq_ok_iff.mp key
    obtain ⟨x, hx, rfl⟩ := exists_field_of_orderKey? found
    exact field x hx

/-- The query of a star is over its fact and the dimensions that it joins. -/
theorem tableNames_compose (h : s.compose = .ok q) :
    q.from? = some s.name ∧ q.tableNames = s.name :: s.joins.map (·.dimension.name) := by
  obtain ⟨orderBy, -, rfl⟩ := compose_eq_ok_iff.mp h
  exact ⟨rfl, congrArg (s.name :: ·) (List.map_map ..)⟩

end Star

/-! ### The query of a view -/

namespace View

/-- The view groups by fields of the star and aggregates fields of it. -/
structure Over (s : Star) (v : View) : Prop where
  groupBy : ∀ c ∈ v.groupBy, ∃ x ∈ s.fields, c.expr = x.column.expr
  aggregates : ∀ a ∈ v.aggregates, ∃ x ∈ s.fields, a.expr = a.aggregate.apply x.column.expr

variable {s s' : Star} {v : View}

theorem over_of_ofPlan {p : ViewPlan} (h : ofPlan s p = .ok v) : v.fact = p.fact ∧ v.Over s := by
  obtain ⟨groupBy, aggregates, grouped, aggregated, rfl⟩ := ofPlan_eq_ok_iff.mp h
  refine ⟨rfl, fun c hc => ?_, fun a ha => ?_⟩
  · obtain ⟨name, -, hc⟩ := exists_left_of_forall₂ grouped hc
    obtain ⟨x, found, rfl⟩ := groupColumn_eq_ok_iff.mp hc
    obtain ⟨y, hy, rfl⟩ := Star.exists_field_of_field? found
    exact ⟨y, hy, rfl⟩
  · obtain ⟨p, -, ha⟩ := exists_left_of_forall₂ aggregated ha
    obtain ⟨x, found, rfl⟩ := aggregateField_eq_ok_iff.mp ha
    obtain ⟨y, hy, rfl⟩ := Star.exists_field_of_field? found
    exact ⟨y, hy, rfl⟩

theorem Over.refilled (h : v.Over s) (refilled : s.Refilled s') : v.Over s' := by
  refine ⟨?_, ?_⟩
  · rw [refilled.fields]
    exact h.groupBy
  · rw [refilled.fields]
    exact h.aggregates

variable {P : Expr → Prop} {q : Sql.Query}

/-- **What holds of the fields of a star holds of the query of a view over it**, if aggregates keep
it. -/
theorem forall_exprs_compose (h : v.compose s = .ok q) (hv : v.Over s)
    (field : ∀ x ∈ s.fields, P x.column.expr) (join : ∀ j ∈ s.joins, P (j.toJoin s.name).on)
    (condition : ∀ e ∈ Expr.conjunction? s.predicates, P e)
    (aggregate : ∀ (a : Aggregate) e, P e → P (a.apply e)) : ∀ e ∈ q.exprs, P e := by
  have group (c : Column) (hc : c ∈ v.groupBy) : P c.expr := by
    obtain ⟨x, hx, same⟩ := hv.groupBy c hc
    exact same ▸ field x hx
  have column : ∀ c ∈ v.columns, P c.expr := by
    rw [columns, List.forall_mem_append, List.forall_mem_map]
    refine ⟨group, fun a ha => ?_⟩
    obtain ⟨x, hx, same⟩ := hv.aggregates a ha
    show P a.expr
    rw [same]
    exact aggregate a.aggregate _ (field x hx)
  obtain ⟨orderBy, ordered, rfl⟩ := compose_eq_ok_iff.mp h
  rw [Sql.Query.forall_mem_exprs_iff]
  refine ⟨List.forall_mem_map.mpr column, List.forall_mem_map.mpr join, condition,
    List.forall_mem_map.mpr group, fun k hk => ?_⟩
  obtain ⟨o, -, key⟩ := exists_left_of_forall₂ ordered hk
  obtain ⟨c, found, rfl⟩ := sortKey_eq_ok_iff.mp key
  exact column c (List.mem_of_find?_eq_some found)

theorem tableNames_compose (h : v.compose s = .ok q) :
    q.from? = some s.name ∧ q.tableNames = s.name :: s.joins.map (·.dimension.name) := by
  obtain ⟨orderBy, -, rfl⟩ := compose_eq_ok_iff.mp h
  exact ⟨rfl, congrArg (s.name :: ·) (List.map_map ..)⟩

end View

end StarSchema
