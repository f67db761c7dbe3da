import Mathlib.Logic.Function.Basic
import StarSchema.Proofs.Declaration.Checked
import StarSchema.Proofs.Model.Scope

/-!
# What loads

A model loads exactly if its declaration is valid, and if it does not load, the error names a fault
of the declaration.

What a declaration says by reference has no part in it. To see this, a declaration is reworded:
other formulas, other names where fields of a star are named, and other names for the dimensions
that foreign keys refer to, as long as different dimensions stay different. However it is reworded,
and if nothing that it then refers to exists, it loads if it did before.

Main definitions: `Rewording`, `ModelDecl.reworded`.

Main results: `Model.admits_ofDecl`, `Model.loads_iff_isValid`.
-/

namespace StarSchema

variable {engine : PatternEngine}

/-! ### Loading -/

/-- A catalog is built just if all tables are valid and have different names. -/
theorem Catalog.admits_ofDecl (d : ModelDecl) :
    Admits (d.tableNames.Nodup ∧ (∀ x ∈ d.dimensions, x.IsValid engine) ∧
      (∀ x ∈ d.lookups, x.IsValid engine) ∧ ∀ x ∈ d.facts, x.IsValid engine) (d.Fault engine)
      (Catalog.ofDecl engine d) := by
  have dimensions : Admits (∀ x ∈ d.dimensions, x.IsValid engine) (d.Fault engine)
      (d.dimensions.mapM (Dimension.ofDecl engine d.settings)) :=
    (Admits.mapM fun x _ => Dimension.admits_ofDecl d.settings x).congr Iff.rfl
      fun _ ⟨_, hx, fault⟩ => .dimension hx fault
  have lookups : Admits (∀ x ∈ d.lookups, x.IsValid engine) (d.Fault engine)
      (d.lookups.mapM (Lookup.ofDecl engine d.settings)) :=
    (Admits.mapM fun x _ => Lookup.admits_ofDecl d.settings x).congr Iff.rfl
      fun _ ⟨_, hx, fault⟩ => .lookup hx fault
  have facts : Admits (∀ x ∈ d.facts, x.IsValid engine) (d.Fault engine)
      (d.facts.mapM (Fact.ofDecl engine d.settings)) :=
    (Admits.mapM fun x _ => Fact.admits_ofDecl d.settings x).congr Iff.rfl
      fun _ ⟨_, hx, fault⟩ => .fact hx fault
  rw [Catalog.ofDecl]
  cases repeated : firstRepeated? [] d.tableNames with
  | some name =>
    have twice : ([] ++ d.tableNames).Duplicate name := duplicate_of_firstRepeated? repeated
    exact ⟨fun met => not_nodup_of_duplicate twice met.1, .duplicate twice⟩
  | none =>
    have distinct := (firstRepeated?_eq_none_iff.mp repeated).1
    have tables := dimensions.bind fun ds _ => lookups.bind fun ls _ =>
      facts.bind_ok fun fs _ => ⟨Catalog.mk ds ls fs, rfl⟩
    exact tables.congr ⟨fun met => ⟨distinct, met⟩, And.right⟩ fun _ => id

/-- A model is built just if its declaration is valid. -/
theorem Model.admits_ofDecl (d : ModelDecl) :
    Admits (d.IsValid engine) (d.Fault engine) (Model.ofDecl engine d) := by
  have checked : Admits ((d.tableNames.Nodup ∧ (∀ x ∈ d.dimensions, x.IsValid engine) ∧
      (∀ x ∈ d.lookups, x.IsValid engine) ∧ ∀ x ∈ d.facts, x.IsValid engine) ∧
      ∀ x ∈ d.views, x.IsValid (d.facts.map (·.table.name))) (d.Fault engine)
      (Model.ofDecl engine d) := by
    refine (Catalog.admits_ofDecl d).bind fun c built => ?_
    have names : c.facts.map (·.name) = d.facts.map (·.table.name) :=
      map_eq_map_of_mapM_eq_ok (fun _ _ => Fact.name_of_ofDecl) (Catalog.ofDecl_eq_ok built).2.2.2
    have views : Admits (∀ x ∈ d.views, x.IsValid (d.facts.map (·.table.name))) (d.Fault engine)
        (d.views.mapM (ViewPlan.ofDecl c.facts)) := by
      refine (Admits.mapM fun x _ => ViewPlan.admits_ofDecl c.facts x).congr (by rw [names]) ?_
      rintro e ⟨x, hx, fault⟩
      exact .view hx (names ▸ fault)
    exact views.bind_ok fun _ _ => ⟨_, rfl⟩
  refine checked.congr ⟨?_, ?_⟩ fun _ => id
  · rintro ⟨⟨distinct, dimensions, lookups, facts⟩, views⟩
    exact ⟨distinct, dimensions, lookups, facts, views⟩
  · rintro ⟨distinct, dimensions, lookups, facts, views⟩
    exact ⟨⟨distinct, dimensions, lookups, facts⟩, views⟩

/-! ### Rewording -/

/-- Other words for what a declaration says by reference. -/
structure Rewording where
  formula : String → String
  dimension : String → String
  /-- for the key of the dimension that a foreign key refers to -/
  key : String → String
  /-- for names of display, where fields are named to be ordered, grouped or aggregated -/
  field : String → String

variable (r : Rewording)

def FieldDecl.reworded (d : FieldDecl) : FieldDecl :=
  { d with dimension? := d.dimension?.map r.dimension, referenced? := d.referenced?.map r.key }

def OrderDecl.reworded (d : OrderDecl) : OrderDecl :=
  { d with field := r.field d.field }

def TableDecl.reworded (d : TableDecl) : TableDecl :=
  { d with fields := d.fields.map (·.reworded r), orderBy := d.orderBy.map (·.reworded r) }

def DimensionDecl.reworded (d : DimensionDecl) : DimensionDecl :=
  { d with table := d.table.reworded r }

def LookupDecl.reworded (d : LookupDecl) : LookupDecl :=
  { d with table := d.table.reworded r }

def CalculatedDecl.reworded (d : CalculatedDecl) : CalculatedDecl :=
  { d with formula := r.formula d.formula }

def FactDecl.reworded (d : FactDecl) : FactDecl where
  table := d.table.reworded r
  calculated := d.calculated.map (·.reworded r)

def AggregateDecl.reworded (d : AggregateDecl) : AggregateDecl :=
  { d with base := r.field d.base }

def ViewDecl.reworded (d : ViewDecl) : ViewDecl :=
  { d with
    groupBy := d.groupBy.map r.field
    aggregates := d.aggregates.map (·.reworded r)
    orderBy := d.orderBy.map (·.reworded r) }

def ModelDecl.reworded (d : ModelDecl) : ModelDecl :=
  { d with
    dimensions := d.dimensions.map (·.reworded r)
    facts := d.facts.map (·.reworded r)
    lookups := d.lookups.map (·.reworded r)
    views := d.views.map (·.reworded r) }

variable {r}

theorem FieldDecl.isValid_reworded {d : FieldDecl} :
    (d.reworded r).IsValid engine ↔ d.IsValid engine := by
  have refers : (d.dimension?.map r.dimension).isSome = d.dimension?.isSome := Option.isSome_map
  have named : (d.referenced?.map r.key).isSome = d.referenced?.isSome := Option.isSome_map
  constructor
  · rintro ⟨typed, default, validator, operators, reference⟩
    exact ⟨typed, default, validator, operators, by rwa [← refers, ← named]⟩
  · rintro ⟨typed, default, validator, operators, reference⟩
    exact ⟨typed, default, validator, operators, by rwa [← refers, ← named] at reference⟩

namespace TableDecl

variable {d : TableDecl}

theorem names_reworded : (d.reworded r).fields.map (·.name) = d.fields.map (·.name) :=
  List.map_map ..

theorem isValid_reworded : (d.reworded r).IsValid engine ↔ d.IsValid engine := by
  have names : ((d.reworded r).fields.map (·.name)).Nodup ↔ (d.fields.map (·.name)).Nodup := by
    rw [names_reworded]
  have keys : ((d.reworded r).fields.filter (·.isKey)).length =
      (d.fields.filter (·.isKey)).length := by
    rw [reworded, List.filter_map, List.length_map]
    rfl
  have fields : (∀ f ∈ (d.reworded r).fields, f.IsValid engine) ↔
      ∀ f ∈ d.fields, f.IsValid engine := by
    rw [reworded, List.forall_mem_map]
    exact forall₂_congr fun f _ => FieldDecl.isValid_reworded
  constructor
  · rintro ⟨distinct, keyed, valid⟩
    exact ⟨names.mp distinct, keys ▸ keyed, fields.mp valid⟩
  · rintro ⟨distinct, keyed, valid⟩
    exact ⟨names.mpr distinct, keys ▸ keyed, fields.mpr valid⟩

theorem foreignKeys_reworded :
    (d.reworded r).foreignKeys = d.foreignKeys.map (Prod.map id r.dimension) := by
  rw [foreignKeys, foreignKeys, reworded, List.filterMap_map, List.map_filterMap]
  congr 1
  funext f
  show (f.dimension?.map r.dimension).map (f.name, ·) = (f.dimension?.map _).map _
  rw [Option.map_map, Option.map_map]
  rfl

theorem mem_foreignKeys_reworded {name dimension : String} :
    (name, dimension) ∈ (d.reworded r).foreignKeys ↔
      ∃ old, (name, old) ∈ d.foreignKeys ∧ r.dimension old = dimension := by
  rw [foreignKeys_reworded, List.mem_map]
  simp

end TableDecl

theorem LabelDecl.isOver_reworded {d : LabelDecl} {t : TableDecl} :
    d.IsOver (t.reworded r) ↔ d.IsOver t := by
  rw [IsOver, IsOver, TableDecl.names_reworded]

theorem DimensionDecl.isValid_reworded {d : DimensionDecl} :
    (d.reworded r).IsValid engine ↔ d.IsValid engine :=
  ⟨fun ⟨table, label⟩ =>
    ⟨TableDecl.isValid_reworded.mp table, LabelDecl.isOver_reworded.mp label⟩,
    fun ⟨table, label⟩ =>
    ⟨TableDecl.isValid_reworded.mpr table, LabelDecl.isOver_reworded.mpr label⟩⟩

/-- A lookup table is the only one to look at the names of dimensions: two different names have to
stay different. -/
theorem LookupDecl.isValid_reworded {d : LookupDecl} (hr : r.dimension.Injective) :
    (d.reworded r).IsValid engine ↔ d.IsValid engine := by
  have keys : (∃ near far, (d.proximal, near) ∈ (d.table.reworded r).foreignKeys ∧
      (d.distal, far) ∈ (d.table.reworded r).foreignKeys ∧ near ≠ far) ↔
      ∃ near far, (d.proximal, near) ∈ d.table.foreignKeys ∧
        (d.distal, far) ∈ d.table.foreignKeys ∧ near ≠ far := by
    simp only [TableDecl.mem_foreignKeys_reworded]
    constructor
    · rintro ⟨_, _, ⟨near, hnear, rfl⟩, ⟨far, hfar, rfl⟩, different⟩
      exact ⟨near, far, hnear, hfar, fun same => different (congrArg r.dimension same)⟩
    · rintro ⟨near, far, hnear, hfar, different⟩
      exact ⟨_, _, ⟨near, hnear, rfl⟩, ⟨far, hfar, rfl⟩, hr.ne different⟩
  exact ⟨fun ⟨table, refer, label⟩ =>
    ⟨TableDecl.isValid_reworded.mp table, keys.mp refer, LabelDecl.isOver_reworded.mp label⟩,
    fun ⟨table, refer, label⟩ =>
    ⟨TableDecl.isValid_reworded.mpr table, keys.mpr refer, LabelDecl.isOver_reworded.mpr label⟩⟩

theorem FactDecl.isValid_reworded {d : FactDecl} :
    (d.reworded r).IsValid engine ↔ d.IsValid engine := by
  have defaults : (∀ c ∈ (d.reworded r).calculated,
      ∀ x ∈ c.default?, ∃ v, convert .float x = .ok v) ↔
      ∀ c ∈ d.calculated, ∀ x ∈ c.default?, ∃ v, convert .float x = .ok v := List.forall_mem_map
  exact ⟨fun ⟨table, convertible⟩ =>
    ⟨TableDecl.isValid_reworded.mp table, defaults.mp convertible⟩,
    fun ⟨table, convertible⟩ =>
    ⟨TableDecl.isValid_reworded.mpr table, defaults.mpr convertible⟩⟩

theorem ViewDecl.isValid_reworded {facts : List String} {d : ViewDecl} :
    (d.reworded r).IsValid facts ↔ d.IsValid facts := by
  have aggregates : (∀ a ∈ (d.reworded r).aggregates,
      ∃ known : Aggregate, known.IsSpelled a.function) ↔
      ∀ a ∈ d.aggregates, ∃ known : Aggregate, known.IsSpelled a.function := List.forall_mem_map
  exact ⟨fun ⟨known, fact⟩ => ⟨aggregates.mp known, fact⟩,
    fun ⟨known, fact⟩ => ⟨aggregates.mpr known, fact⟩⟩

namespace ModelDecl

variable {d : ModelDecl}

theorem tableNames_reworded : (d.reworded r).tableNames = d.tableNames := by
  simp only [tableNames, reworded, List.map_map]
  rfl

/-- Other words make no valid declaration invalid, nor the other way. -/
theorem isValid_reworded (hr : r.dimension.Injective) :
    (d.reworded r).IsValid engine ↔ d.IsValid engine := by
  have dimensions : (∀ x ∈ (d.reworded r).dimensions, x.IsValid engine) ↔
      ∀ x ∈ d.dimensions, x.IsValid engine :=
    List.forall_mem_map.trans (forall₂_congr fun _ _ => DimensionDecl.isValid_reworded)
  have lookups : (∀ x ∈ (d.reworded r).lookups, x.IsValid engine) ↔
      ∀ x ∈ d.lookups, x.IsValid engine :=
    List.forall_mem_map.trans (forall₂_congr fun _ _ => LookupDecl.isValid_reworded hr)
  have facts : (∀ x ∈ (d.reworded r).facts, x.IsValid engine) ↔ ∀ x ∈ d.facts, x.IsValid engine :=
    List.forall_mem_map.trans (forall₂_congr fun _ _ => FactDecl.isValid_reworded)
  have factNames : (d.reworded r).facts.map (·.table.name) = d.facts.map (·.table.name) :=
    List.map_map ..
  have views : (∀ x ∈ (d.reworded r).views, x.IsValid ((d.reworded r).facts.map (·.table.name))) ↔
      ∀ x ∈ d.views, x.IsValid (d.facts.map (·.table.name)) := by
    rw [factNames]
    exact List.forall_mem_map.trans (forall₂_congr fun _ _ => ViewDecl.isValid_reworded)
  have names : (d.reworded r).tableNames.Nodup ↔ d.tableNames.Nodup := by
    rw [tableNames_reworded]
  constructor
  · rintro ⟨distinct, hd, hl, hf, hv⟩
    exact ⟨names.mp distinct, dimensions.mp hd, lookups.mp hl, facts.mp hf, views.mp hv⟩
  · rintro ⟨distinct, hd, hl, hf, hv⟩
    exact ⟨names.mpr distinct, dimensions.mpr hd, lookups.mpr hl, facts.mpr hf, views.mpr hv⟩

end ModelDecl

namespace Model

variable {d : ModelDecl}

/-- A model is built, or it is not, as its declaration is valid or not. -/
theorem exists_ofDecl_iff : (∃ m, Model.ofDecl engine d = .ok m) ↔ d.IsValid engine := by
  rw [← (admits_ofDecl d).isOk_iff]
  exact ⟨fun ⟨m, built⟩ => by rw [built]; rfl, exists_eq_ok_of_isOk⟩

/-- **A model loads exactly if its declaration is valid**, whatever library its patterns are compiled
with. If it does not load, the error names a fault of the declaration. Whatever else stands in it
for formulas, for the dimensions and their keys that foreign keys refer to, and for names of
display, the declaration loads if it did before. -/
theorem loads_iff_isValid (d : ModelDecl) :
    ((∃ m, Model.ofDecl engine d = .ok m) ↔ d.IsValid engine) ∧
      (∀ e, Model.ofDecl engine d = .error e → d.Fault engine e) ∧
      ∀ r : Rewording, r.dimension.Injective →
        ((∃ m, Model.ofDecl engine (d.reworded r) = .ok m) ↔
          ∃ m, Model.ofDecl engine d = .ok m) := by
  refine ⟨exists_ofDecl_iff, fun e refused => (admits_ofDecl d).of_error refused, fun r hr => ?_⟩
  rw [exists_ofDecl_iff, exists_ofDecl_iff, ModelDecl.isValid_reworded hr]

end Model

/-! ### Sales in other words -/

/-- No formula can be read, and nothing that is referred to exists. -/
def Rewording.nowhere : Rewording where
  formula _ := "["
  dimension name := name ++ "?"
  key _ := "?"
  field _ := "?"

def ModelDecl.salesTwice : ModelDecl :=
  { ModelDecl.sales with facts := ModelDecl.sales.facts ++ ModelDecl.sales.facts }

/-- Articles with a code that has to match a pattern. -/
def ModelDecl.articles (pattern : String) : ModelDecl where
  dimensions :=
    [{ table :=
        { name := "articles"
          fields :=
            [{ name := "id", dataType? := some .int, isKey := true },
              { name := "code", dataType? := some .str
                validator? := some (.pattern pattern none) }] }
       label := { displayName := "Article", fields := ["code"] } }]

namespace Model

theorem loads_iff_isValid_sales : ModelDecl.sales.IsValid .plain ∧
    (∃ m, Model.ofDecl .plain (ModelDecl.sales.reworded .nowhere) = .ok m) ∧
    ModelDecl.salesTwice.Fault .plain (.duplicateTable "sales") ∧
    (ModelDecl.articles "A1").IsValid .plain ∧ ¬ (ModelDecl.articles "(").IsValid .plain ∧
    (ModelDecl.articles "(").Fault .plain
      (.inField "articles" "code" (.invalidValidator .malformedPattern)) := by
  obtain ⟨valid, -, reworded⟩ := loads_iff_isValid .sales
  obtain ⟨-, faults, -⟩ := loads_iff_isValid .salesTwice
  obtain ⟨matching, -, -⟩ := loads_iff_isValid (.articles "A1")
  obtain ⟨malformed, refusals, -⟩ := loads_iff_isValid (.articles "(")
  obtain ⟨m, built, -⟩ := exists_of_any_toOption sales_outcome
  have different : Rewording.nowhere.dimension.Injective := fun a b same =>
    (String.append_left_inj "?").mp same
  have refused : Model.ofDecl .plain (.articles "(") =
      .error (.inField "articles" "code" (.invalidValidator .malformedPattern)) := rfl
  refine ⟨valid.mp ⟨m, built⟩, (reworded .nowhere different).mpr ⟨m, built⟩, faults _ rfl,
    matching.mp ⟨_, rfl⟩, fun wellFormed => ?_, refusals _ refused⟩
  obtain ⟨m', loaded⟩ := malformed.mpr wellFormed
  exact nomatch refused.symm.trans loaded

end Model

end StarSchema
