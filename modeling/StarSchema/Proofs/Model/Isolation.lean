import StarSchema.Proofs.Model.Declared
import StarSchema.Proofs.Model.Requests

/-!
# Stars are isolated from each other

Two models may differ in everything but one fact: other facts, views, lookup tables and dimensions
may be there or not, may be broken or not, and anything may have been asked of them. As long as the
fact, the cap on its rows and the dimensions that it refers to are declared alike, and the filters
of its star have been asked the same, both models give the same query for it, or the same failure.

Dimensions that are declared alike need not be the same in both models, since the settings of a
model cap the rows of every table that does not say otherwise. But no query of a star reads the cap
of a dimension. So stars are compared without it.

Main definition: `Star.uncapped`.

Main results: `Star.uncapped_ofFact_congr`, `Model.composeStar_isolated`.
-/

namespace StarSchema

variable {engine : PatternEngine}

/-! ### What no query of a star reads -/

/-- The dimension with no cap on its rows of its own. -/
def Dimension.uncapped (x : Dimension) : Dimension :=
  { x with table := { x.table with displayRows := 0 } }

def StarJoin.uncapped (j : StarJoin) : StarJoin :=
  { j with dimension := j.dimension.uncapped }

namespace Star

/-- The star with no caps on the rows of its dimensions. -/
def uncapped (s : Star) : Star :=
  { s with joins := s.joins.map StarJoin.uncapped }

theorem labels_uncapped (s : Star) : s.uncapped.labels = s.labels :=
  List.map_map ..

theorem fields_uncapped (s : Star) : s.uncapped.fields = s.fields := by
  rw [fields, labels_uncapped]
  rfl

/-- The query of a star does not hang on caps of dimensions. -/
theorem compose_uncapped (s : Star) : s.uncapped.compose = s.compose := by
  have joins : s.uncapped.joins.map (·.toJoin s.uncapped.name) = s.joins.map (·.toJoin s.name) :=
    List.map_map ..
  have key : s.uncapped.sortKey = s.sortKey := by
    funext o
    rw [sortKey, sortKey, orderKey?, orderKey?, field?, field?, labels_uncapped, fields_uncapped]
    rfl
  rw [compose, compose, baseQuery, baseQuery, joins, key, columns, columns, fields_uncapped]
  rfl

theorem run_uncapped (s : Star) (requests : List StarRequest) :
    s.uncapped.run requests = (s.run requests).uncapped := by
  rw [run_eq_mapFilters, run_eq_mapFilters]
  rfl

/-! ### What a star takes from the dimensions of a model -/

theorem addJoin_uncapped (joins : List StarJoin) (j : StarJoin) :
    addJoin (joins.map StarJoin.uncapped) j.uncapped = (addJoin joins j).map StarJoin.uncapped := by
  have present : (joins.map StarJoin.uncapped).any
      (·.dimension.name == j.uncapped.dimension.name) =
        joins.any (·.dimension.name == j.dimension.name) := List.any_map
  rw [addJoin, addJoin, present]
  split
  · rfl
  · rw [List.map_append, List.map_singleton]

theorem foldl_addJoin_uncapped (resolved joins : List StarJoin) :
    (resolved.map StarJoin.uncapped).foldl addJoin (joins.map StarJoin.uncapped) =
      (resolved.foldl addJoin joins).map StarJoin.uncapped := by
  induction resolved generalizing joins with
  | nil => rfl
  | cons j resolved ih =>
    rw [List.map_cons, List.foldl_cons, List.foldl_cons, addJoin_uncapped, ih]

/-- A star is made from resolved joins, up to the caps of their dimensions. -/
theorem uncapped_ofFact (dimensions : List Dimension) (fact : Fact) :
    (ofFact dimensions fact).map uncapped =
      ((fact.table.foreignKeys.mapM (resolveJoin fact.name dimensions)).map
          (List.map StarJoin.uncapped)) >>= fun resolved =>
        (fact.calculated.foldlM (addCalculated fact) []).map fun calculated =>
          let joins := resolved.foldl addJoin []
          { fact, joins, calculated, filters := initialFilters fact joins calculated } := by
  rw [ofFact]
  cases fact.table.foreignKeys.mapM (resolveJoin fact.name dimensions) with
  | error e => rfl
  | ok resolved =>
    have joins := foldl_addJoin_uncapped resolved []
    have filters (joins : List StarJoin) (calculated : List CalculatedField) :
        initialFilters fact (joins.map StarJoin.uncapped) calculated =
          initialFilters fact joins calculated := by
      rw [initialFilters, initialFilters, List.map_map]
      rfl
    show (fact.calculated.foldlM (addCalculated fact) [] >>= _).map _ =
      (fact.calculated.foldlM (addCalculated fact) []).map _
    cases fact.calculated.foldlM (addCalculated fact) [] with
    | error e => rfl
    | ok calculated =>
      dsimp only [Except.map]
      rw [List.map_nil] at joins
      rw [joins, filters]
      rfl

/-- **What a star takes from the dimensions of a model** are those that its foreign keys refer
to. -/
theorem uncapped_ofFact_congr {dimensions dimensions' : List Dimension} {fact : Fact}
    (alike : ∀ k ∈ fact.table.foreignKeys,
      (dimensions.find? (·.name == k.dimension)).map Dimension.uncapped =
        (dimensions'.find? (·.name == k.dimension)).map Dimension.uncapped) :
    (ofFact dimensions fact).map uncapped = (ofFact dimensions' fact).map uncapped := by
  rw [uncapped_ofFact, uncapped_ofFact]
  congr 1
  refine map_mapM_congr fun k hk => ?_
  have same := alike k hk
  rw [resolveJoin, resolveJoin]
  cases found : dimensions.find? (·.name == k.dimension) with
  | none =>
    rw [found, Option.map_none, eq_comm, Option.map_eq_none_iff] at same
    rw [same]
  | some x =>
    rw [found, Option.map_some, eq_comm, Option.map_eq_some_iff] at same
    obtain ⟨x', found', same⟩ := same
    rw [found']
    show Except.ok (⟨k, x.uncapped⟩ : StarJoin) = .ok ⟨k, x'.uncapped⟩
    rw [same]

end Star

/-! ### Tables of two models that are declared alike -/

section

variable {settings settings' : Settings}

/-- Two tables of one declaration differ at most in the caps that settings give them. -/
theorem Table.eq_of_ofDecl {d : TableDecl} {t t' : Table}
    (h : Table.ofDecl engine settings d = .ok t)
    (h' : Table.ofDecl engine settings' d = .ok t') :
    t' = { t with displayRows := d.displayRows?.getD settings'.displayRows } := by
  obtain ⟨fields, checked, h⟩ := bind_eq_ok_iff.mp h
  obtain ⟨fields', checked', h'⟩ := bind_eq_ok_iff.mp h'
  obtain rfl := Except.ok.inj (checked.symm.trans checked')
  split at h
  · next key only =>
    split at h'
    · next key' only' =>
      obtain rfl : key = key' := List.singleton_inj.mp (only.symm.trans only')
      rw [← pure_eq_ok_iff.mp h, ← pure_eq_ok_iff.mp h']
    · cases h'
    · cases h'
  · cases h
  · cases h

theorem Dimension.uncapped_eq_of_ofDecl {d : DimensionDecl} {x x' : Dimension}
    (h : Dimension.ofDecl engine settings d = .ok x)
    (h' : Dimension.ofDecl engine settings' d = .ok x') : x.uncapped = x'.uncapped := by
  obtain ⟨table, built, h⟩ := bind_eq_ok_iff.mp h
  obtain ⟨label, labelled, h⟩ := bind_eq_ok_iff.mp h
  obtain ⟨table', built', h'⟩ := bind_eq_ok_iff.mp h'
  obtain ⟨label', labelled', h'⟩ := bind_eq_ok_iff.mp h'
  obtain rfl := Table.eq_of_ofDecl built built'
  obtain rfl : label = label' := Except.ok.inj (labelled.symm.trans labelled')
  rw [← pure_eq_ok_iff.mp h, ← pure_eq_ok_iff.mp h']
  rfl

/-- Two facts of one declaration are the same if settings cap them alike. -/
theorem Fact.eq_of_ofDecl {d : FactDecl} {f f' : Fact} (h : Fact.ofDecl engine settings d = .ok f)
    (h' : Fact.ofDecl engine settings' d = .ok f')
    (rows : d.table.displayRows?.getD settings.displayRows =
      d.table.displayRows?.getD settings'.displayRows) : f = f' := by
  obtain ⟨table, built, h⟩ := bind_eq_ok_iff.mp h
  obtain ⟨-, -, h⟩ := bind_eq_ok_iff.mp h
  obtain ⟨table', built', h'⟩ := bind_eq_ok_iff.mp h'
  obtain ⟨-, -, h'⟩ := bind_eq_ok_iff.mp h'
  have same : table = table' := by
    rw [Table.eq_of_ofDecl built built', ← rows]
    exact Table.eq_of_ofDecl built built
  rw [← pure_eq_ok_iff.mp h, ← pure_eq_ok_iff.mp h', same]

end

/-- A dimension of this name is declared in both models, and alike, or in neither. -/
def ModelDecl.AgreeOn (d d' : ModelDecl) (dimension : String) : Prop :=
  (∃ x ∈ d.dimensions, x ∈ d'.dimensions ∧ x.table.name = dimension) ∨
    dimension ∉ d.dimensions.map (·.table.name) ∧ dimension ∉ d'.dimensions.map (·.table.name)

namespace Catalog

variable {d d' : ModelDecl} {c c' : Catalog}

theorem exists_find?_of_ofDecl (h : Catalog.ofDecl engine d = .ok c) {x : DimensionDecl}
    (hx : x ∈ d.dimensions) : ∃ y, Dimension.ofDecl engine d.settings x = .ok y ∧
      c.dimensions.find? (·.name == x.table.name) = some y := by
  have distinct := (distinctNames_of_ofDecl h).of_append_left.of_append_left
  obtain ⟨y, built, found⟩ := exists_find?_of_mapM (ofDecl_eq_ok h).2.1 distinct hx
  exact ⟨y, built, Dimension.name_of_ofDecl built ▸ found⟩

theorem find?_eq_none_of_ofDecl (h : Catalog.ofDecl engine d = .ok c) {dimension : String}
    (absent : dimension ∉ d.dimensions.map (·.table.name)) :
    c.dimensions.find? (·.name == dimension) = none := by
  rw [← names_dimensions h] at absent
  refine List.find?_eq_none.mpr fun x hx named => absent ?_
  exact List.mem_map.mpr ⟨x, hx, beq_iff_eq.mp named⟩

theorem find?_uncapped_congr (h : Catalog.ofDecl engine d = .ok c)
    (h' : Catalog.ofDecl engine d' = .ok c') {dimension : String} (agree : d.AgreeOn d' dimension) :
    (c.dimensions.find? (·.name == dimension)).map Dimension.uncapped =
      (c'.dimensions.find? (·.name == dimension)).map Dimension.uncapped := by
  rcases agree with ⟨x, hx, hx', rfl⟩ | ⟨absent, absent'⟩
  · obtain ⟨y, built, found⟩ := exists_find?_of_ofDecl h hx
    obtain ⟨y', built', found'⟩ := exists_find?_of_ofDecl h' hx'
    rw [found, found']
    exact congrArg some (Dimension.uncapped_eq_of_ofDecl built built')
  · rw [find?_eq_none_of_ofDecl h absent, find?_eq_none_of_ofDecl h' absent']

end Catalog

/-! ### Two models -/

namespace Model

variable {d d' : ModelDecl} {m m' : Model} {σ σ' : Type}

/-- The query of a star after a run, or its failure. -/
theorem composeStar_run (h : Model.ofDecl engine d = .ok m) {f : Fact} (hf : f ∈ m.catalog.facts)
    (exec : Executor σ) (state : σ) (requests : List ModelRequest) :
    (ModelRequest.run exec requests (m, state)).1.composeStar f.name =
      ((Star.ofFact m.catalog.dimensions f).map Star.uncapped >>= fun s =>
        (s.run (requests.filterMap (·.onStar? f.name))).compose).mapError .composition := by
  have star := ModelRequest.star_run exec requests (m, state) f.name
  rw [star_of_mem_facts h hf, ← mapError_map] at star
  rw [composeStar_of_star star]
  cases Star.ofFact m.catalog.dimensions f with
  | error e => rfl
  | ok s =>
    show (s.run _).compose.mapError _ = (s.uncapped.run _).compose.mapError _
    rw [Star.run_uncapped, Star.compose_uncapped]

/-- Nothing that is asked of a model decides whether a star is composed. -/
theorem isOk_composeStar_run (exec : Executor σ) (requests : List ModelRequest)
    (before : Model × σ) (name : String) :
    ((ModelRequest.run exec requests before).1.composeStar name).isOk =
      (before.1.composeStar name).isOk := by
  rw [composeStar, ModelRequest.star_run, composeStar]
  cases before.1.star name with
  | error e => rfl
  | ok s =>
    show ((s.run _).compose.mapError RequestError.composition).isOk =
      (s.compose.mapError RequestError.composition).isOk
    rw [Star.run_eq_mapFilters, Star.compose_mapFilters]
    cases s.compose <;> rfl

/-- **Stars are isolated from each other.** Take two models that load and declare the same fact,
with the same cap on its rows, and that agree on every dimension that a foreign key of the fact
refers to. After any runs of the two, with any executors, in which the filters of its star are asked
the same, both models give the same query for the fact, or the same failure. -/
theorem composeStar_isolated (h : Model.ofDecl engine d = .ok m)
    (h' : Model.ofDecl engine d' = .ok m') {fd : FactDecl} (hfd : fd ∈ d.facts)
    (hfd' : fd ∈ d'.facts)
    (rows : fd.table.displayRows?.getD d.settings.displayRows =
      fd.table.displayRows?.getD d'.settings.displayRows)
    (dimensions : ∀ key ∈ fd.table.foreignKeys, d.AgreeOn d' key.2) (exec : Executor σ)
    (exec' : Executor σ') (state : σ) (state' : σ') {requests requests' : List ModelRequest}
    (same : requests.filterMap (·.onStar? fd.table.name) =
      requests'.filterMap (·.onStar? fd.table.name)) :
    (ModelRequest.run exec requests (m, state)).1.composeStar fd.table.name =
      (ModelRequest.run exec' requests' (m', state')).1.composeStar fd.table.name := by
  have hc := catalog_of_ofDecl h
  have hc' := catalog_of_ofDecl h'
  obtain ⟨f, hf, built⟩ := Catalog.exists_fact_of_ofDecl hc hfd
  obtain ⟨f', hf', built'⟩ := Catalog.exists_fact_of_ofDecl hc' hfd'
  obtain rfl := Fact.eq_of_ofDecl built built' rows
  have named := Fact.name_of_ofDecl built
  have alike : ∀ k ∈ f.table.foreignKeys,
      (m.catalog.dimensions.find? (·.name == k.dimension)).map Dimension.uncapped =
        (m'.catalog.dimensions.find? (·.name == k.dimension)).map Dimension.uncapped := by
    intro k hk
    refine Catalog.find?_uncapped_congr hc hc' (dimensions k.names ?_)
    rw [← (Fact.reflects_of_ofDecl built).table.foreignKeys]
    exact List.mem_map_of_mem hk
  rw [← named] at same ⊢
  rw [composeStar_run h hf, composeStar_run h' hf', same, Star.uncapped_ofFact_congr alike]

end Model

/-! ### Sales alone and among others -/

/-- Sales with a cap of their own. -/
def FactDecl.cappedSales : FactDecl where
  table :=
    { name := "sales"
      fields :=
        [{ name := "id", dataType? := some .int, isKey := true },
          { name := "product", dataType? := some .int
            dimension? := some "products", referenced? := some "id" },
          { name := "price", dataType? := some .float }]
      orderBy := [{ field := "Product" }]
      displayRows? := some 10 }

/-- Stock in stores, of which there are none, with a share that is no formula. -/
def FactDecl.stock : FactDecl where
  table :=
    { name := "stock"
      fields :=
        [{ name := "id", dataType? := some .int, isKey := true },
          { name := "store", dataType? := some .int
            dimension? := some "stores", referenced? := some "id" }] }
  calculated := [{ displayName := "share", formula := "[id] /" }]

def ModelDecl.salesAlone : ModelDecl :=
  { ModelDecl.sales with
    facts := [.cappedSales]
    views := [] }

/-- The same sales where much else is different, and broken. -/
def ModelDecl.salesAndStock : ModelDecl :=
  { ModelDecl.sales with
    settings := { dialect := .mysql, displayRows := 5 }
    facts := [.stock, .cappedSales]
    views := [{ name := "stocks", fact := "stock", groupBy := ["share"] }] }

namespace Model

/-- An executor that cannot be reached. -/
def offline : Executor Unit :=
  fun _ state => (.error (.failed "offline"), state)

/-- An executor that finds no rows and counts the queries. -/
def counting : Executor Nat :=
  fun _ count => (.ok [], count + 1)

def requestsAlone : List ModelRequest :=
  [.filter (.set "sales" "price >=" (.int 5)), .labels (.foreignKeys "products"),
    .fetchStar "sales"]

def requestsAmong : List ModelRequest :=
  [.filter (.set "stock" "share >=" (.int 1)), .labels (.refresh "products"),
    .filter (.set "sales" "price >=" (.int 5)), .filter (.clear "stock"), .fetchView "stocks"]

theorem salesAlone_outcome :
    (Model.ofDecl .plain .salesAlone).toOption.any (fun m => (m.composeStar "sales").isOk) =
      true := by
  decide +kernel

theorem composeStar_isolated_sales : ∃ m m' q, Model.ofDecl .plain .salesAlone = .ok m ∧
    Model.ofDecl .plain .salesAndStock = .ok m' ∧
    (ModelRequest.run offline requestsAlone (m, ())).1.composeStar "sales" = .ok q ∧
    (ModelRequest.run counting requestsAmong (m', 0)).1.composeStar "sales" = .ok q := by
  obtain ⟨m, built, composed⟩ := exists_of_any_toOption salesAlone_outcome
  obtain ⟨m', built'⟩ : ∃ m', Model.ofDecl .plain .salesAndStock = .ok m' := ⟨_, rfl⟩
  rw [← isOk_composeStar_run offline requestsAlone (m, ())] at composed
  obtain ⟨q, hq⟩ := exists_eq_ok_of_isOk composed
  have agree : ∀ key ∈ FactDecl.cappedSales.table.foreignKeys,
      ModelDecl.salesAlone.AgreeOn .salesAndStock key.2 := by
    intro key hkey
    obtain rfl := List.mem_singleton.mp hkey
    exact .inl ⟨_, List.mem_cons_self, List.mem_cons_self, rfl⟩
  have alone : FactDecl.cappedSales ∈ ModelDecl.salesAlone.facts := List.mem_cons_self
  have among : FactDecl.cappedSales ∈ ModelDecl.salesAndStock.facts :=
    List.mem_cons_of_mem _ List.mem_cons_self
  have isolated : (ModelRequest.run offline requestsAlone (m, ())).1.composeStar "sales" =
      (ModelRequest.run counting requestsAmong (m', 0)).1.composeStar "sales" :=
    composeStar_isolated built built' alone among rfl agree offline counting () 0 rfl
  exact ⟨m, m', q, built, built', hq, isolated ▸ hq⟩

end Model

end StarSchema
