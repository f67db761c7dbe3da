import StarSchema.Proofs.Declaration.Records
import StarSchema.Proofs.Model.Filters

/-!
# No dangling columns

Every column in a query that a model composes belongs to a table of the query and is declared as a
field of that table. The law starts at the declarations of tables; from there it is carried to the
labels, to the formulas, to the filters, and to every clause.

Main definitions: `ModelDecl.Declares`, `Sql.Expr.IsOver`.

Main result: `Model.scoped_queries`.
-/

namespace StarSchema

variable {engine : PatternEngine}

open Sql (Expr)

/-! ### Declarations -/

namespace ModelDecl

/-- The declarations of all tables, whatever their roles. -/
def tables (d : ModelDecl) : List TableDecl :=
  d.dimensions.map (·.table) ++ d.lookups.map (·.table) ++ d.facts.map (·.table)

/-- A table of that name is declared with a field of that storage name. -/
def Declares (d : ModelDecl) (table column : String) : Prop :=
  ∃ t ∈ d.tables, t.name = table ∧ ∃ f ∈ t.fields, f.name = column

end ModelDecl

variable {d : ModelDecl} {settings : Settings}

namespace Table

/-- The table is one that the model declares. -/
def IsDeclared (d : ModelDecl) (t : Table) : Prop :=
  ∃ decl ∈ d.tables, ∃ engine settings, Table.ofDecl engine settings decl = .ok t

variable {t : Table}

theorem IsDeclared.field (h : t.IsDeclared d) {f : Field} (hf : f ∈ t.fields) :
    f.table = t.name ∧ d.Declares t.name f.name := by
  obtain ⟨decl, mem, engine, settings, built⟩ := h
  have records := Table.records_of_ofDecl built
  obtain ⟨x, hx, record⟩ := records.exists_decl hf
  exact ⟨record.table.trans records.name.symm, decl, mem, records.name.symm, x, hx,
    record.name.symm⟩

end Table

/-! ### Expressions over tables -/

/-- Every column in the expression is a field of one of the tables. -/
def Sql.Expr.IsOver (tables : List Table) (e : Expr) : Prop :=
  ∀ t c, (t, c) ∈ e.columns → ∃ table ∈ tables, table.name = t ∧ ∃ f ∈ table.fields, f.name = c

section

variable {tables tables' : List Table} {e e' : Expr}

theorem Sql.Expr.IsOver.of_columns_subset (h : e.IsOver tables)
    (columns : ∀ c ∈ e'.columns, c ∈ e.columns) : e'.IsOver tables :=
  fun t c hc => h t c (columns (t, c) hc)

theorem Sql.Expr.IsOver.mono (h : e.IsOver tables) (subset : ∀ t ∈ tables, t ∈ tables') :
    e.IsOver tables' := by
  intro t c hc
  obtain ⟨table, htable, owned⟩ := h t c hc
  exact ⟨table, subset table htable, owned⟩

theorem isOver_of_columns_eq_nil (h : e.columns = []) : e.IsOver tables := by
  intro t c hc
  rw [h] at hc
  cases hc

theorem isOver_binary {op : Sql.BinaryOp} (h : e.IsOver tables) (h' : e'.IsOver tables) :
    (Expr.binary op e e').IsOver tables := by
  intro t c hc
  rw [Expr.columns_binary, List.mem_append] at hc
  exact hc.elim (h t c) (h' t c)

theorem isOver_column {table : Table} {f : Field} (hf : f ∈ table.fields) :
    (Expr.column table.name f.name).IsOver [table] := by
  intro t c hc
  obtain ⟨rfl, rfl⟩ := Prod.mk.inj (List.mem_singleton.mp hc)
  exact ⟨table, List.mem_singleton_self table, rfl, f, hf, rfl⟩

theorem isOver_field {table : Table} (hd : table.IsDeclared d) {f : Field}
    (hf : f ∈ table.fields) : f.column.expr.IsOver [table] := by
  rw [Field.column, (hd.field hf).1]
  exact isOver_column hf

/-- A condition on an expression is about the columns of the expression. -/
theorem isOver_predicate (h : e.IsOver tables) (op : Operator) (v : Value) :
    (op.predicate e v).IsOver tables := by
  refine Expr.IsOver.of_columns_subset h fun c hc => ?_
  unfold Operator.predicate at hc
  split at hc
  · simpa using hc
  · simpa using hc
  · simpa using hc

theorem isOver_aggregate (h : e.IsOver tables) (a : Aggregate) :
    (a.apply e).IsOver tables := by
  refine Expr.IsOver.of_columns_subset h fun c hc => ?_
  cases a with
  | count => rwa [Aggregate.apply, Expr.count, Expr.columns_call_singleton] at hc
  | avg => rwa [Aggregate.apply, Expr.avg, Expr.columns_call_singleton] at hc
  | sum => rwa [Aggregate.apply, Expr.sum, Expr.columns_call_singleton] at hc

/-! ### Labels -/

theorem isOver_resolveLabel {table : Table} {ld : LabelDecl} {label : Label}
    (h : table.resolveLabel ld = .ok label) : label.expr.IsOver [table] := by
  unfold Table.resolveLabel at h
  split at h
  · cases h
  · next unknown =>
    cases h
    have known (name : String) (hname : name ∈ ld.fields) : table.field? name ≠ none := by
      simpa using List.find?_eq_none.mp unknown name hname
    have column (name : String) (hname : name ∈ ld.fields) :
        (Expr.column table.name name).IsOver [table] := by
      intro t c hc
      obtain ⟨rfl, rfl⟩ := Prod.mk.inj (List.mem_singleton.mp hc)
      obtain ⟨f, found⟩ := Option.ne_none_iff_exists'.mp (known _ hname)
      exact ⟨table, List.mem_singleton_self table, rfl, f, List.mem_of_find?_eq_some found,
        by simpa using List.find?_some found⟩
    rw [Label.expr, Label.ofDecl]
    dsimp only
    cases fields : ld.fields with
    | nil => exact isOver_of_columns_eq_nil (Expr.columns_string "")
    | cons name names =>
      rw [fields, List.forall_mem_cons] at column
      obtain ⟨first, others⟩ := column
      dsimp only
      -- the text so far is over the table, and each further field adds a column of it
      generalize Expr.column table.name name = start at first
      clear unknown known fields
      induction names generalizing start with
      | nil => exact first
      | cons name names ih =>
        rw [List.forall_mem_cons] at others
        refine ih others.2 _ (isOver_binary (isOver_binary first ?_) others.1)
        exact isOver_of_columns_eq_nil (Expr.columns_string _)

end

/-! ### Formulas -/

section

variable {tables : List Table} {expr? : String → Option Expr}

theorem isOver_grouped {e : Expr} (h : e.IsOver tables) : e.grouped.IsOver tables :=
  Expr.IsOver.of_columns_subset h fun c hc => by rwa [Expr.columns_grouped] at hc

mutual

theorem Operand.isOver_eval (h : ∀ name e, expr? name = some e → e.IsOver tables) :
    ∀ (x : Operand) {e : Expr}, x.eval expr? = .ok e → e.IsOver tables
  | .field name, e, he => h name e (Operand.eval_field_eq_ok_iff.mp he)
  | .number x, e, he => by
    rw [Operand.eval_number_eq_ok_iff.mp he]
    exact isOver_of_columns_eq_nil (Expr.columns_float x)
  | .group f, e, he => by
    obtain ⟨e', found, rfl⟩ := Operand.eval_group_eq_ok_iff.mp he
    exact isOver_grouped (Formula.isOver_eval h f found)

/-- A formula has no columns but those of the names in it. -/
theorem Formula.isOver_eval (h : ∀ name e, expr? name = some e → e.IsOver tables) :
    ∀ (f : Formula) {e : Expr}, f.eval expr? = .ok e → e.IsOver tables
  | .pair x op y, e, he => by
    obtain ⟨left, right, hleft, hright, he⟩ := Formula.eval_pair_eq_ok_iff.mp he
    obtain ⟨-, rfl⟩ := apply_eq_ok_iff.mp he
    exact isOver_binary (isOver_grouped (Operand.isOver_eval h x hleft))
      (Operand.isOver_eval h y hright)
  | .step f op y, e, he => by
    obtain ⟨left, right, hleft, hright, he⟩ := Formula.eval_step_eq_ok_iff.mp he
    obtain ⟨-, rfl⟩ := apply_eq_ok_iff.mp he
    exact isOver_binary (isOver_grouped (Formula.isOver_eval h f hleft))
      (Operand.isOver_eval h y hright)

end

end

/-! ### The tables of a catalog -/

namespace Catalog

variable {c : Catalog}

theorem dimension_of_ofDecl (h : Catalog.ofDecl engine d = .ok c) {x : Dimension}
    (hx : x ∈ c.dimensions) : x.table.IsDeclared d ∧ x.label.expr.IsOver [x.table] := by
  obtain ⟨decl, mem, built⟩ := exists_of_mem_mapM (ofDecl_eq_ok h).2.1 hx
  obtain ⟨table, htable, built⟩ := bind_eq_ok_iff.mp built
  obtain ⟨label, hlabel, built⟩ := bind_eq_ok_iff.mp built
  rw [← pure_eq_ok_iff.mp built]
  refine ⟨⟨decl.table, ?_, engine, _, htable⟩, isOver_resolveLabel hlabel⟩
  exact List.mem_append_left _ (List.mem_append_left _ (List.mem_map_of_mem mem))

theorem lookup_of_ofDecl (h : Catalog.ofDecl engine d = .ok c) {x : Lookup} (hx : x ∈ c.lookups) :
    x.table.IsDeclared d ∧ x.proximal.field ∈ x.table.fields ∧
      x.distal.field ∈ x.table.fields := by
  obtain ⟨decl, mem, built⟩ := exists_of_mem_mapM (ofDecl_eq_ok h).2.2.1 hx
  obtain ⟨table, htable, built⟩ := bind_eq_ok_iff.mp built
  obtain ⟨proximal, hproximal, built⟩ := bind_eq_ok_iff.mp built
  obtain ⟨distal, hdistal, built⟩ := bind_eq_ok_iff.mp built
  split at built
  · cases built
  · obtain ⟨label, -, built⟩ := bind_eq_ok_iff.mp built
    rw [← pure_eq_ok_iff.mp built]
    refine ⟨⟨decl.table, ?_, engine, _, htable⟩,
      Star.field_mem_of_foreignKeys (Lookup.key_of_resolveKey hproximal).1,
      Star.field_mem_of_foreignKeys (Lookup.key_of_resolveKey hdistal).1⟩
    exact List.mem_append_left _ (List.mem_append_right _ (List.mem_map_of_mem mem))

theorem fact_of_ofDecl (h : Catalog.ofDecl engine d = .ok c) {x : Fact} (hx : x ∈ c.facts) :
    x.table.IsDeclared d := by
  obtain ⟨decl, mem, built⟩ := exists_of_mem_mapM (ofDecl_eq_ok h).2.2.2 hx
  obtain ⟨table, htable, built⟩ := bind_eq_ok_iff.mp built
  obtain ⟨-, -, built⟩ := bind_eq_ok_iff.mp built
  rw [← pure_eq_ok_iff.mp built]
  exact ⟨decl.table, List.mem_append_right _ (List.mem_map_of_mem mem), engine, _, htable⟩

end Catalog

/-! ### Stars -/

namespace Star

variable {c : Catalog} {s : Star}

/-- The fact of a star and the dimensions that it joins. -/
def tables (s : Star) : List Table :=
  s.fact.table :: s.joins.map (·.dimension.table)

theorem fact_mem_tables (s : Star) : ∀ t ∈ [s.fact.table], t ∈ s.tables :=
  List.forall_mem_singleton.mpr List.mem_cons_self

theorem dimension_mem_tables {j : StarJoin} (hj : j ∈ s.joins) :
    ∀ t ∈ [j.dimension.table], t ∈ s.tables :=
  List.forall_mem_singleton.mpr (List.mem_cons_of_mem _ (List.mem_map_of_mem hj))

section

variable (hc : Catalog.ofDecl engine d = .ok c) (hs : s.Built c.dimensions)
  (fact : s.fact ∈ c.facts)

include hc hs fact

theorem isDeclared_of_mem_tables : ∀ t ∈ s.tables, t.IsDeclared d := by
  rw [tables, List.forall_mem_cons, List.forall_mem_map]
  exact ⟨Catalog.fact_of_ofDecl hc fact,
    fun j hj => (Catalog.dimension_of_ofDecl hc (hs.dimension j hj)).1⟩

theorem isOver_field_expr : ∀ x ∈ s.fields, x.column.expr.IsOver s.tables := by
  have declared := Catalog.fact_of_ofDecl hc fact
  have stored (f : Field) (hf : f ∈ s.fact.table.fields) : f.column.expr.IsOver [s.fact.table] :=
    isOver_field declared hf
  rw [forall_mem_fields_iff]
  refine ⟨fun f hf => (stored f hf).mono s.fact_mem_tables, fun j hj => ?_, fun x hx => ?_⟩
  · exact (Catalog.dimension_of_ofDecl hc (hs.dimension j hj)).2.mono (dimension_mem_tables hj)
  · have calculated := forall_of_composed hs.composed stored
      (fun names f _ _ => Formula.isOver_eval names f) x hx
    exact calculated.mono s.fact_mem_tables

omit hc fact in
theorem isOver_join (j : StarJoin) (hj : j ∈ s.joins) : (j.toJoin s.name).on.IsOver s.tables :=
  isOver_binary ((isOver_column (hs.foreignKey j hj)).mono s.fact_mem_tables)
    ((isOver_column j.dimension.table.key_mem_fields).mono (dimension_mem_tables hj))

theorem isOver_condition (e : Expr) (he : e ∈ Expr.conjunction? s.predicates) :
    e.IsOver s.tables := by
  refine Expr.forall_conjunction? he (fun x hx => ?_) (fun _ h => h)
    (fun _ _ h h' => isOver_binary h h')
  obtain ⟨f, hf, condition⟩ := List.mem_filterMap.mp hx
  obtain ⟨y, hy, subject⟩ := hs.subject f hf
  unfold Filter.predicate? at condition
  split at condition
  · cases condition
  · obtain ⟨v, -, rfl⟩ := Option.map_eq_some_iff.mp condition
    exact isOver_predicate (subject ▸ isOver_field_expr hc hs fact y hy) f.operator v

/-- The fact and its dimensions have different names, since no two tables of a model share one. -/
theorem nodup_tables : (s.tables.map (·.name)).Nodup := by
  have distinct := Catalog.distinctNames_of_ofDecl hc
  rw [tables, List.map_cons, List.map_map, List.nodup_cons]
  refine ⟨fun mem => ?_, hs.distinct⟩
  obtain ⟨j, hj, same⟩ := List.mem_map.mp mem
  have dimension : s.fact.name ∈ c.dimensions.map (·.name) ++ c.lookups.map (·.name) :=
    List.mem_append_left _ (List.mem_map.mpr ⟨j.dimension, hs.dimension j hj, same⟩)
  exact List.disjoint_of_nodup_append distinct dimension (List.mem_map_of_mem fact)

end

end Star

/-- A query over declared tables of different names is scoped if its expressions are over these
tables. -/
theorem scoped_of_isOver (tables : List Table) {q : Sql.Query}
    (isSome_from : q.from?.isSome = true) (names : q.tableNames = tables.map (·.name))
    (distinct : (tables.map (·.name)).Nodup) (declared : ∀ t ∈ tables, t.IsDeclared d)
    (exprs : ∀ e ∈ q.exprs, e.IsOver tables) : q.Scoped d.Declares := by
  refine ⟨isSome_from, names ▸ distinct, fun e he t c hc => ?_⟩
  obtain ⟨table, htable, rfl, f, hf, rfl⟩ := exprs e he t c hc
  exact ⟨names ▸ List.mem_map_of_mem htable, ((declared table htable).field hf).2⟩

/-! ### Queries over one table -/

namespace Catalog

variable {c : Catalog}

theorem scoped_labelQuery (hc : Catalog.ofDecl engine d = .ok c) {x : Dimension}
    (hx : x ∈ c.dimensions) : x.labelQuery.Scoped d.Declares := by
  obtain ⟨declared, label⟩ := dimension_of_ofDecl hc hx
  have key := isOver_field declared x.table.key_mem_fields
  refine scoped_of_isOver [x.table] rfl rfl (List.nodup_singleton x.name)
    (List.forall_mem_singleton.mpr declared) ?_
  rw [Sql.Query.forall_mem_exprs_iff]
  simp only [Dimension.labelQuery, List.forall_mem_cons, key, label, List.not_mem_nil,
    Option.mem_def, reduceCtorEq, false_implies, implies_true, and_self]

theorem scoped_pairsQuery (hc : Catalog.ofDecl engine d = .ok c) {x : Lookup}
    (hx : x ∈ c.lookups) : x.pairsQuery.Scoped d.Declares := by
  obtain ⟨declared, hproximal, hdistal⟩ := lookup_of_ofDecl hc hx
  have proximal := isOver_field declared hproximal
  have distal := isOver_field declared hdistal
  refine scoped_of_isOver [x.table] rfl rfl (List.nodup_singleton x.name)
    (List.forall_mem_singleton.mpr declared) ?_
  rw [Sql.Query.forall_mem_exprs_iff]
  simp only [Lookup.pairsQuery, List.map_cons, List.map_nil, List.forall_mem_cons, proximal,
    distal, List.not_mem_nil, Option.mem_def, reduceCtorEq, false_implies, implies_true, and_self]

end Catalog

/-! ### Queries of a model -/

namespace Model

variable {m : Model} {q : Sql.Query} {name : String}

theorem scoped_composeStar (hc : Catalog.ofDecl engine d = .ok m.catalog) (hm : m.Bound)
    (h : m.composeStar name = .ok q) : q.Scoped d.Declares := by
  obtain ⟨s, found, composed⟩ := composeStar_eq_ok_iff.mp h
  obtain ⟨-, fact, built⟩ := hm.star found
  obtain ⟨from_, names⟩ := Star.tableNames_compose composed
  refine scoped_of_isOver s.tables (by rw [from_]; rfl)
    (names.trans (congrArg (s.name :: ·) (List.map_map ..).symm))
    (Star.nodup_tables hc built fact) (Star.isDeclared_of_mem_tables hc built fact) ?_
  exact Star.forall_exprs_compose composed (Star.isOver_field_expr hc built fact)
    (Star.isOver_join built) (Star.isOver_condition hc built fact)

theorem scoped_composeView (hc : Catalog.ofDecl engine d = .ok m.catalog) (hm : m.Bound)
    (h : m.composeView name = .ok q) : q.Scoped d.Declares := by
  obtain ⟨v, s, shown, found, composed⟩ := composeView_eq_ok_iff.mp h
  obtain ⟨-, fact, built⟩ := hm.star found
  obtain ⟨from_, names⟩ := View.tableNames_compose composed
  refine scoped_of_isOver s.tables (by rw [from_]; rfl)
    (names.trans (congrArg (s.name :: ·) (List.map_map ..).symm))
    (Star.nodup_tables hc built fact) (Star.isDeclared_of_mem_tables hc built fact) ?_
  exact View.forall_exprs_compose composed (hm.view shown found)
    (Star.isOver_field_expr hc built fact) (Star.isOver_join built)
    (Star.isOver_condition hc built fact) fun a _ h => isOver_aggregate h a

/-- **No column dangles.** After any requests to its filters, every query that a model composes
for a star or for a view reads tables of different names and mentions only declared fields of
these tables; so do the label query of a dimension and the pairs query of a lookup table. -/
theorem scoped_queries (h : Model.ofDecl engine d = .ok m) (requests : List FilterRequest) :
    (∀ name q, (m.runFilters requests).composeStar name = .ok q → q.Scoped d.Declares) ∧
    (∀ name q, (m.runFilters requests).composeView name = .ok q → q.Scoped d.Declares) ∧
    (∀ x ∈ m.catalog.dimensions, x.labelQuery.Scoped d.Declares) ∧
    ∀ x ∈ m.catalog.lookups, x.pairsQuery.Scoped d.Declares := by
  have hc := catalog_of_ofDecl h
  obtain ⟨bound, catalog⟩ := bound_runFilters (bound_of_ofDecl h) requests
  have hc' : Catalog.ofDecl engine d = .ok (m.runFilters requests).catalog := catalog ▸ hc
  exact ⟨fun _ _ => scoped_composeStar hc' bound, fun _ _ => scoped_composeView hc' bound,
    fun _ => Catalog.scoped_labelQuery hc, fun _ => Catalog.scoped_pairsQuery hc⟩

end Model

/-- Sales of products, with a margin and a view of it. -/
def ModelDecl.sales : ModelDecl where
  dimensions :=
    [{ table :=
        { name := "products"
          fields :=
            [{ name := "id", dataType? := some .int, isKey := true },
              { name := "title", dataType? := some .str }] }
       label := { displayName := "Product", fields := ["title"] } }]
  facts :=
    [{ table :=
        { name := "sales"
          fields :=
            [{ name := "id", dataType? := some .int, isKey := true },
              { name := "product", dataType? := some .int
                dimension? := some "products", referenced? := some "id" },
              { name := "price", dataType? := some .float },
              { name := "cost", dataType? := some .float }]
          orderBy := [{ field := "Product" }] }
       calculated := [{ displayName := "margin", formula := "[price] - [cost]" }] }]
  views :=
    [{ name := "margins"
       fact := "sales"
       groupBy := ["Product"]
       aggregates := [{ displayName := "total", base := "margin", function := "sum" }]
       orderBy := [{ field := "total" }] }]

namespace Model

theorem sales_outcome :
    (Model.ofDecl .plain .sales).toOption.any (fun m =>
      let m' := m.runFilters [.set "products" "Product" (.str "x"), .clear "sales"]
      (m'.composeStar "sales").isOk && (m'.composeView "margins").isOk) = true := by
  decide +kernel

/-- A star and a view over it, after a request that is refused and one that is answered. -/
theorem scoped_queries_sales : ∃ m, Model.ofDecl .plain .sales = .ok m ∧
    (∃ q, (m.runFilters [.set "products" "Product" (.str "x"), .clear "sales"]).composeStar
      "sales" = .ok q ∧ q.Scoped ModelDecl.sales.Declares) ∧
    (∃ q, (m.runFilters [.set "products" "Product" (.str "x"), .clear "sales"]).composeView
      "margins" = .ok q ∧ q.Scoped ModelDecl.sales.Declares) ∧
    ∀ x ∈ m.catalog.dimensions, x.labelQuery.Scoped ModelDecl.sales.Declares := by
  obtain ⟨m, built, outcome⟩ := exists_of_any_toOption sales_outcome
  obtain ⟨star, view⟩ := Bool.and_eq_true_iff.mp outcome
  obtain ⟨q, hq⟩ := exists_eq_ok_of_isOk star
  obtain ⟨q', hq'⟩ := exists_eq_ok_of_isOk view
  obtain ⟨stars, views, labels, -⟩ := scoped_queries built
    [.set "products" "Product" (.str "x"), .clear "sales"]
  exact ⟨m, built, ⟨q, hq, stars _ q hq⟩, ⟨q', hq', views _ q' hq'⟩, labels⟩

end Model

end StarSchema
