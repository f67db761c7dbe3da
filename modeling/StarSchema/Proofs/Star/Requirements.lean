import StarSchema.Proofs.Catalog.Names
import StarSchema.Proofs.Formula.Success
import StarSchema.Proofs.Requirement
import StarSchema.Proofs.Star.Calculated
import StarSchema.Proofs.Star.Composition

/-!
# What composition requires of names and formulas

A star requires of its foreign keys that they refer to dimensions that are there, and of its
calculated fields, in order, that their formulas can be read and use only names that are known by
then. Its query requires that the names to order by stand for something. A view requires the like
of the names that it groups by, aggregates and orders by. Each is a check of a list of requirements,
in the order in which composition comes to them.

Main definitions: `CalculatedDecl.IsSound`, `CalculatedField.Records`,
`Star.calculatedRequirements`.

Main results: `Star.checks_ofFact`, `Star.records_of_ofFact`, `Star.checks_compose`,
`View.checks_ofPlan`, `View.checks_compose`.
-/

namespace StarSchema

/-- The formula can be read, uses only known names, and divides by no written-out zero. -/
def CalculatedDecl.IsSound (known : List String) (c : CalculatedDecl) : Prop :=
  ∃ f, Formula.parse c.formula = .ok f ∧ (∀ name ∈ f.fields, name ∈ known) ∧
    f.dividesByZero = false

/-- The field has the name of its declaration, and is shown and filtered as it says. -/
structure CalculatedField.Records (d : CalculatedDecl) (c : CalculatedField) : Prop where
  displayName : c.displayName = d.displayName
  shown : c.shown = d.shown
  visible : c.visible = d.visible

namespace Star

/-! ### Foreign keys -/

/-- Each foreign key has to refer to one of the dimensions. -/
def keyRequirement (dimensions : List String) (key : String × String) : Requirement where
  field := key.1
  met := key.2 ∈ dimensions

theorem checks_resolveJoin (fact : String) (dimensions : List Dimension) (k : ForeignKey) :
    Checks fact [keyRequirement (dimensions.map (·.name)) (k.field.name, k.dimension)]
      (resolveJoin fact dimensions k) := by
  rw [resolveJoin]
  exact .search isSome_find?_key_iff (fun _ found => ⟨_, by rw [found]⟩)
    fun missing => ⟨_, by rw [missing]⟩

/-! ### Calculated fields -/

/-- Each calculated field has to be sound where the known names and those of the calculated fields
before it are known. -/
def calculatedRequirements (known : List String) : List CalculatedDecl → List Requirement
  | [] => []
  | c :: cs =>
    ⟨c.displayName, c.IsSound known⟩ :: calculatedRequirements (known ++ [c.displayName]) cs

theorem exists_ofDecl_iff {operand? : String → Option Sql.Expr} {d : CalculatedDecl}
    (names : ∀ name e, operand? name = some e → e.isLiteralZero = false)
    (default : ∃ default?, d.resolveDefault = .ok default?) {known : List String}
    (stands : ∀ name, (operand? name).isSome = true ↔ name ∈ known) :
    (∃ c, CalculatedField.ofDecl operand? d = .ok c) ↔ d.IsSound known := by
  have evaluates (f : Formula) : (∃ e, f.eval operand? = .ok e) ↔
      (∀ name ∈ f.fields, name ∈ known) ∧ f.dividesByZero = false := by
    rw [Formula.exists_eval_iff names]
    simp only [stands]
  simp only [CalculatedField.ofDecl, bind_eq_ok_iff, mapError_eq_ok_iff, pure_eq_ok_iff]
  constructor
  · rintro ⟨c, f, parsed, e, evaluated, -⟩
    exact ⟨f, parsed, (evaluates f).mp ⟨e, evaluated⟩⟩
  · rintro ⟨f, parsed, sound⟩
    obtain ⟨e, evaluated⟩ := (evaluates f).mpr sound
    obtain ⟨default?, resolved⟩ := default
    exact ⟨_, f, parsed, e, evaluated, default?, resolved, rfl⟩

theorem records_of_addCalculated {fact : Fact} {earlier later : List CalculatedField}
    {d : CalculatedDecl} (h : addCalculated fact earlier d = .ok later) :
    ∃ c, later = earlier ++ [c] ∧ c.Records d ∧ c.expr.isLiteralZero = false := by
  obtain ⟨c, hc, h⟩ := bind_eq_ok_iff.mp h
  obtain ⟨formula, -, hc⟩ := bind_eq_ok_iff.mp (mapError_eq_ok_iff.mp hc)
  obtain ⟨expr, evaluated, hc⟩ := bind_eq_ok_iff.mp hc
  obtain ⟨default?, -, hc⟩ := bind_eq_ok_iff.mp hc
  refine ⟨c, (pure_eq_ok_iff.mp h).symm, ?_⟩
  rw [← pure_eq_ok_iff.mp hc]
  exact ⟨⟨rfl, rfl, rfl⟩, Formula.isLiteralZero_eval (mapError_eq_ok_iff.mp evaluated)⟩

/-- The names that a formula can use. -/
def knownNames (fact : Fact) (earlier : List CalculatedField) : List String :=
  fact.table.fields.map (·.displayName) ++ earlier.map (·.displayName)

theorem checks_addCalculated {fact : Fact} {earlier : List CalculatedField} {d : CalculatedDecl}
    (nonzero : ∀ c ∈ earlier, c.expr.isLiteralZero = false)
    (default : ∃ default?, d.resolveDefault = .ok default?) :
    Checks fact.name [⟨d.displayName, d.IsSound (knownNames fact earlier)⟩]
      (addCalculated fact earlier d) := by
  have stands (name : String) :
      (operand? fact earlier name).isSome = true ↔ name ∈ knownNames fact earlier := by
    rw [operand?, Option.isSome_map, Column.find?, isSome_find?_key_iff, List.map_append,
      List.map_map, List.map_map]
    rfl
  have names : ∀ name e, operand? fact earlier name = some e → e.isLiteralZero = false :=
    forall_operand? (fun f _ => rfl) nonzero
  have succeeds := exists_ofDecl_iff names default stands
  rw [addCalculated]
  cases outcome : CalculatedField.ofDecl (operand? fact earlier) d with
  | ok c => exact List.forall_mem_singleton.mpr (succeeds.mp ⟨c, outcome⟩)
  | error cause =>
    refine ⟨rfl, d.displayName, rfl, .head fun sound => ?_⟩
    obtain ⟨c, hc⟩ := succeeds.mpr sound
    rw [outcome] at hc
    cases hc

theorem checks_foldlM_addCalculated {fact : Fact} {ds : List CalculatedDecl}
    (defaults : ∀ d ∈ ds, ∃ default?, d.resolveDefault = .ok default?)
    {earlier : List CalculatedField} (nonzero : ∀ c ∈ earlier, c.expr.isLiteralZero = false) :
    Checks fact.name (calculatedRequirements (knownNames fact earlier) ds)
      (ds.foldlM (addCalculated fact) earlier) := by
  induction ds generalizing earlier with
  | nil => exact .ok fact.name earlier
  | cons d ds ih =>
    rw [List.forall_mem_cons] at defaults
    rw [List.foldlM_cons]
    refine Checks.bind (checks_addCalculated nonzero defaults.1) (fun later hl => ?_)
    obtain ⟨c, rfl, record, nonzero'⟩ := records_of_addCalculated hl
    have known : knownNames fact earlier ++ [d.displayName] = knownNames fact (earlier ++ [c]) := by
      rw [knownNames, knownNames, List.map_append, List.append_assoc, List.map_singleton,
        record.displayName]
    rw [known]
    refine ih defaults.2 ?_
    rw [List.forall_mem_append, List.forall_mem_singleton]
    exact ⟨nonzero, nonzero'⟩

/-- **What a star requires:** of its foreign keys, then of its calculated fields. -/
theorem checks_ofFact (dimensions : List Dimension) {fact : Fact}
    (defaults : ∀ d ∈ fact.calculated, ∃ default?, d.resolveDefault = .ok default?) :
    Checks fact.name
      (fact.table.foreignKeys.map (fun k =>
          keyRequirement (dimensions.map (·.name)) (k.field.name, k.dimension)) ++
        calculatedRequirements (fact.table.fields.map (·.displayName)) fact.calculated)
      (ofFact dimensions fact) := by
  rw [ofFact]
  refine Checks.bind (.mapM fun k _ => checks_resolveJoin fact.name dimensions k)
    fun resolved _ => ?_
  have known : fact.table.fields.map (·.displayName) = knownNames fact [] :=
    (List.append_nil _).symm
  rw [known]
  exact (checks_foldlM_addCalculated defaults (List.forall_mem_nil _)).bind_ok
    fun calculated _ => ⟨_, rfl⟩

theorem exists_records_of_foldlM {fact : Fact} {ds : List CalculatedDecl}
    {earlier later : List CalculatedField}
    (h : ds.foldlM (addCalculated fact) earlier = .ok later) :
    ∃ cs, later = earlier ++ cs ∧ ds.Forall₂ (fun d c => c.Records d) cs := by
  induction ds generalizing earlier with
  | nil =>
    rw [List.foldlM_nil, pure_eq_ok_iff] at h
    exact ⟨[], by rw [h, List.append_nil], .nil⟩
  | cons d ds ih =>
    rw [List.foldlM_cons, bind_eq_ok_iff] at h
    obtain ⟨next, added, h⟩ := h
    obtain ⟨c, rfl, record, -⟩ := records_of_addCalculated added
    obtain ⟨cs, rfl, records⟩ := ih h
    exact ⟨c :: cs, by rw [List.append_assoc, List.singleton_append], .cons record records⟩

/-- The calculated fields of a star are those that are declared, in order. -/
theorem records_of_ofFact {dimensions : List Dimension} {fact : Fact} {s : Star}
    (h : ofFact dimensions fact = .ok s) :
    fact.calculated.Forall₂ (fun d c => c.Records d) s.calculated := by
  obtain ⟨resolved, calculated, -, folded, rfl⟩ := ofFact_eq_ok_iff.mp h
  obtain ⟨cs, same, records⟩ := exists_records_of_foldlM folded
  rwa [← List.nil_append cs, ← same] at records

/-! ### Order -/

/-- The name stands for something to order by: a label, a field of the fact by its storage name, or
any field of the star. -/
def IsOrderKey (s : Star) (name : String) : Prop :=
  name ∈ s.labels.map (·.displayName) ∨ name ∈ s.fact.table.fields.map (·.name) ∨
    name ∈ s.fields.map (·.column.displayName)

theorem isSome_field?_iff {s : Star} {name : String} :
    (s.field? name).isSome = true ↔ name ∈ s.fields.map (·.column.displayName) := by
  rw [field?, Column.find?, isSome_find?_key_iff, List.map_map]
  rfl

theorem isSome_orderKey?_iff {s : Star} {name : String} :
    (s.orderKey? name).isSome = true ↔ s.IsOrderKey name := by
  have stored : (s.fact.table.field? name).isSome = true ↔
      name ∈ s.fact.table.fields.map (·.name) := isSome_find?_key_iff
  rw [IsOrderKey, ← isSome_find?_key_iff, ← stored, ← isSome_field?_iff, orderKey?]
  cases s.labels.find? (·.displayName == name) with
  | some l => simp
  | none =>
    cases s.fact.table.field? name with
    | some f => simp
    | none => simp

/-- **What the query of a star requires:** something to order by for each name. -/
theorem checks_compose (s : Star) :
    Checks s.name (s.fact.table.orderBy.map fun o => ⟨o.field, s.IsOrderKey o.field⟩)
      s.compose := by
  have key (o : OrderDecl) : Checks s.name [⟨o.field, s.IsOrderKey o.field⟩] (s.sortKey o) := by
    rw [sortKey]
    exact .search isSome_orderKey?_iff (fun _ found => ⟨_, by rw [found]⟩)
      fun missing => ⟨_, by rw [missing]; rfl⟩
  exact (Checks.mapM fun o _ => key o).bind_ok fun orderBy _ => ⟨_, rfl⟩

end Star

/-! ### Views -/

namespace View

theorem checks_resolveField (view : String) (s : Star) (name : String) :
    Checks view [⟨name, name ∈ s.fields.map (·.column.displayName)⟩]
      (resolveField view s name) := by
  rw [resolveField]
  exact .search Star.isSome_field?_iff (fun _ found => ⟨_, by rw [found]⟩)
    fun missing => ⟨_, by rw [missing]; rfl⟩

/-- **What a view requires of its star:** a field for each name to group by, then one for each name
to aggregate. -/
theorem checks_ofPlan (s : Star) (p : ViewPlan) :
    Checks p.name
      ((p.groupBy ++ p.aggregates.map (·.base)).map fun name =>
        ⟨name, name ∈ s.fields.map (·.column.displayName)⟩)
      (ofPlan s p) := by
  rw [List.map_append, List.map_map, ofPlan]
  refine Checks.bind (.mapM fun name _ => ?_) fun groupBy _ => ?_
  · exact (checks_resolveField p.name s name).bind_ok fun c _ => ⟨_, rfl⟩
  · refine (Checks.mapM fun a _ => ?_).bind_ok fun aggregates _ => ⟨_, rfl⟩
    exact (checks_resolveField p.name s a.base).bind_ok fun c _ => ⟨_, rfl⟩

/-- The query of a view requires a column for each name to order by. -/
theorem checks_compose (v : View) (s : Star) :
    Checks v.name (v.orderBy.map fun o => ⟨o.field, o.field ∈ v.columns.map (·.displayName)⟩)
      (v.compose s) := by
  have key (o : OrderDecl) :
      Checks v.name [⟨o.field, o.field ∈ v.columns.map (·.displayName)⟩] (v.sortKey o) := by
    rw [sortKey]
    exact .search isSome_find?_key_iff (fun _ found => ⟨_, by rw [Column.find?, found]⟩)
      fun missing => ⟨_, by rw [Column.find?, missing]; rfl⟩
  exact (Checks.mapM fun o _ => key o).bind_ok fun orderBy _ => ⟨_, rfl⟩

/-- The columns of a view have the names of its plan. -/
theorem names_of_ofPlan {s : Star} {p : ViewPlan} {v : View} (h : ofPlan s p = .ok v) :
    v.name = p.name ∧ v.fact = p.fact ∧ v.orderBy = p.orderBy ∧
      v.columns.map (·.displayName) = p.groupBy ++ p.aggregates.map (·.displayName) := by
  obtain ⟨groupBy, aggregates, grouped, aggregated, rfl⟩ := ofPlan_eq_ok_iff.mp h
  refine ⟨rfl, rfl, rfl, ?_⟩
  have groups : groupBy.map (·.displayName) = p.groupBy.map id := by
    refine map_eq_map_of_forall₂ (fun name c hc => ?_) grouped
    obtain ⟨x, -, rfl⟩ := groupColumn_eq_ok_iff.mp hc
    rfl
  have bases : aggregates.map (·.displayName) = p.aggregates.map (·.displayName) := by
    refine map_eq_map_of_forall₂ (fun a f hf => ?_) aggregated
    obtain ⟨x, -, rfl⟩ := aggregateField_eq_ok_iff.mp hf
    rfl
  rw [columns, List.map_append, List.map_map, groups, List.map_id, ← bases]
  rfl

end View

end StarSchema
