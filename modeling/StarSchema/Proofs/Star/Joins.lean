import Mathlib.Data.List.Find
import StarSchema.Proofs.Sql.Joins
import StarSchema.Proofs.Star.Filters

/-!
# The joins of a star

A star joins its fact with each dimension that a foreign key refers to, once, by the first such key.
Where the keys of these dimensions hold no value twice, the joins give one row for each row of the
fact: the row itself, with the row of each dimension that it refers to, or nulls.

The rows so far are extended by one join after the other. What carries this through the list of
joins is that the row of the fact stays where it was and that no dimension is there already, so that
each condition still reads the cell of the fact and the cell of the dimension just added.

## A dimension with the name of the fact

The last of these needs the fact to be none of the dimensions by name. Where a dimension has the
name of the fact, both sides of the condition are columns of the same table, and the condition says
nothing about the row that is joined (`Star.joinedRows_homonym`). A model that loads has no two
tables of one name.

Main definition: `Star.joinedRow`.

Main results: `Star.find?_joins_of_ofFact`, `Star.joinedRows_eq`, `Star.joinedRows_queries`.
-/

namespace StarSchema

open Sql (Database TableRow JoinedRow)

/-! ### Which dimensions are joined, and by which keys -/

namespace Star

variable {dimensions : List Dimension}

/-- A dimension stays joined as it was joined first. -/
theorem find?_foldl_addJoin (resolved joins : List StarJoin) (name : String) :
    (resolved.foldl addJoin joins).find? (·.dimension.name == name) =
      (joins ++ resolved).find? (·.dimension.name == name) := by
  induction resolved generalizing joins with
  | nil => rw [List.foldl_nil, List.append_nil]
  | cons j resolved ih =>
    rw [List.foldl_cons, ih, addJoin]
    split
    · next present =>
      rw [List.find?_append, List.find?_append, List.find?_cons]
      cases named : j.dimension.name == name with
      | false => rfl
      | true =>
        -- the join that is left out comes after one of the same name
        have found : (joins.find? (·.dimension.name == name)).isSome = true := by
          rw [List.find?_isSome]
          obtain ⟨earlier, mem, same⟩ := List.any_eq_true.mp present
          exact ⟨earlier, mem, by rw [beq_iff_eq] at *; exact same.trans named⟩
        obtain ⟨earlier, found⟩ := Option.isSome_iff_exists.mp found
        rw [found]
        rfl
    · rw [List.append_assoc, List.singleton_append]

/-- **A dimension is joined just if a foreign key of the fact refers to it**, and then by the first
that does. -/
theorem find?_joins_of_ofFact {fact : Fact} {s : Star} (h : ofFact dimensions fact = .ok s)
    (name : String) :
    (s.joins.find? (·.dimension.name == name)).map (·.foreignKey) =
      fact.table.foreignKeys.find? (·.dimension == name) := by
  obtain ⟨resolved, calculated, found, -, rfl⟩ := ofFact_eq_ok_iff.mp h
  have keys : resolved.map (·.foreignKey) = fact.table.foreignKeys :=
    (map_eq_map_of_mapM_eq_ok (fun k j hj => (resolveJoin_eq_ok_iff.mp hj).1) found).trans
      (List.map_id _)
  have named : ∀ j ∈ resolved, j.dimension.name = j.foreignKey.dimension := by
    intro j hj
    obtain ⟨k, -, hk⟩ := exists_of_mem_mapM found hj
    obtain ⟨rfl, refers⟩ := resolveJoin_eq_ok_iff.mp hk
    simpa using List.find?_some refers
  show ((resolved.foldl addJoin []).find? _).map _ = _
  rw [find?_foldl_addJoin, List.nil_append, ← keys, List.find?_map]
  congr 1
  refine List.find?_congr fun j hj => ?_
  rw [named j hj]
  rfl

theorem mem_names_joins_iff {fact : Fact} {s : Star} (h : ofFact dimensions fact = .ok s)
    (name : String) :
    name ∈ s.joins.map (·.dimension.name) ↔ name ∈ fact.table.foreignKeys.map (·.dimension) := by
  have found := congrArg Option.isSome (find?_joins_of_ofFact h name)
  rw [Option.isSome_map, Bool.eq_iff_iff, List.find?_isSome, List.find?_isSome] at found
  simp only [beq_iff_eq] at found
  rw [List.mem_map, List.mem_map, found]

end Star

/-! ### The rows of a star -/

section

variable {V : Type} [DecidableEq V]

/-- The row of a dimension that a row of the fact refers to. -/
def StarJoin.referred (j : StarJoin) (db : Database V) (row : TableRow V) :
    String × Option (TableRow V) :=
  (j.dimension.name,
    db.rowOf? j.dimension.name j.dimension.table.key.name (row j.foreignKey.field.name))

namespace Star

/-- A row of the fact with the rows that it refers to. -/
def joinedRow (s : Star) (db : Database V) (row : TableRow V) : JoinedRow V :=
  (s.name, some row) :: s.joins.map (·.referred db row)

variable {db : Database V}

/-- One more join gives every row its row of one more dimension. -/
theorem extend_toJoin {j : StarJoin} {fact : String}
    (key : db.IsKey j.dimension.name j.dimension.table.key.name) (ne : fact ≠ j.dimension.name)
    {r : JoinedRow V} {row : TableRow V} (source : r.lookup fact = some (some row))
    (fresh : j.dimension.name ∉ r.map Prod.fst) :
    (j.toJoin fact).extend db r = [r ++ [j.referred db row]] :=
  Sql.Join.extend_of_isKey key ne source fresh

/-- Joins one after the other, from rows that have the row of the fact and no dimension that is
still to be joined. -/
theorem foldl_extend {fact : String} {joins : List StarJoin}
    (keys : ∀ j ∈ joins, db.IsKey j.dimension.name j.dimension.table.key.name)
    (other : fact ∉ joins.map (·.dimension.name))
    (distinct : (joins.map (·.dimension.name)).Nodup) (rows : List (TableRow V))
    (sofar : TableRow V → JoinedRow V) (source : ∀ row, (sofar row).lookup fact = some (some row))
    (fresh : ∀ row, ∀ j ∈ joins, j.dimension.name ∉ (sofar row).map Prod.fst) :
    (joins.map (·.toJoin fact)).foldl (fun rows j => rows.flatMap (j.extend db))
        (rows.map sofar) =
      rows.map fun row => sofar row ++ joins.map (·.referred db row) := by
  induction joins generalizing sofar with
  | nil => simp only [List.map_nil, List.foldl_nil, List.append_nil]
  | cons j joins ih =>
    rw [List.forall_mem_cons] at keys
    rw [List.map_cons, List.mem_cons, not_or] at other
    rw [List.map_cons, List.nodup_cons] at distinct
    have one : (rows.map sofar).flatMap ((j.toJoin fact).extend db) =
        rows.map fun row => sofar row ++ [j.referred db row] := by
      rw [List.flatMap_map, ← List.flatMap_pure_eq_map]
      exact congrArg (rows.flatMap ·) (funext fun row =>
        extend_toJoin keys.1 other.1 (source row) (fresh row j List.mem_cons_self))
    rw [List.map_cons, List.foldl_cons, one, ih keys.2 other.2 distinct.2]
    · simp only [List.append_assoc, List.singleton_append, List.map_cons]
    · intro row
      rw [StarJoin.referred, Sql.lookup_concat_of_ne other.1, source]
    · intro row k hk
      rw [List.map_append, List.mem_append, not_or]
      refine ⟨fresh row k (List.mem_cons_of_mem j hk), fun same => distinct.1 ?_⟩
      have same : k.dimension.name = j.dimension.name := List.mem_singleton.mp same
      exact same ▸ List.mem_map_of_mem hk

/-- Whatever reads the fact and the joins of a star has the rows of the star. -/
theorem joinedRows_eq {s : Star} (other : s.name ∉ s.joins.map (·.dimension.name))
    (distinct : (s.joins.map (·.dimension.name)).Nodup)
    (keys : ∀ j ∈ s.joins, db.IsKey j.dimension.name j.dimension.table.key.name) {q : Sql.Query}
    (table : q.from? = some s.name) (joins : q.joins = s.joins.map (·.toJoin s.name)) :
    q.joinedRows db = (db s.name).map (s.joinedRow db) := by
  have start (row : TableRow V) : [(s.name, some row)].lookup s.name = some (some row) :=
    List.lookup_cons_self
  rw [Sql.Query.joinedRows, table, joins]
  refine foldl_extend keys other distinct _ _ start fun row j hj => ?_
  rw [List.map_singleton, List.mem_singleton]
  intro same
  exact other (List.mem_map.mpr ⟨j, hj, same⟩)

/-- Requests to filters change neither the fact nor the joins, so they leave the rows as they
are. -/
theorem joinedRows_eq_of_readsRows {s : Star} (other : s.name ∉ s.joins.map (·.dimension.name))
    (distinct : (s.joins.map (·.dimension.name)).Nodup)
    (keys : ∀ j ∈ s.joins, db.IsKey j.dimension.name j.dimension.table.key.name)
    {requests : List StarRequest} {where? : Option Sql.Expr} {q : Sql.Query}
    (reads : (s.run requests).ReadsRows where? q) :
    q.joinedRows db = (db s.name).map (s.joinedRow db) := by
  rw [run_eq_mapFilters] at reads
  exact joinedRows_eq other distinct keys reads.table reads.joins

/-- **Joins neither lose nor repeat rows of a fact**, unless a dimension that is joined has the name
of the fact. A star joins each dimension that a foreign key of its fact refers to, once, by the
first such key. If the keys of these dimensions hold no value twice, then after any requests to
filters, the tables of the query of the star and of every view over it give one row for each row of
the fact, in order: the row with the row of each dimension whose key is the cell of the foreign key,
or with nulls if the cell is null or there is no such row. -/
theorem joinedRows_queries {dimensions : List Dimension} {fact : Fact} {s : Star}
    (h : ofFact dimensions fact = .ok s) (other : fact.name ∉ s.joins.map (·.dimension.name))
    (db : Database V) (keys : ∀ j ∈ s.joins, db.IsKey j.dimension.name j.dimension.table.key.name)
    (requests : List StarRequest) :
    let s' := s.run requests
    ((s.joins.map (·.dimension.name)).Nodup ∧
      ∀ dimension, (s.joins.find? (·.dimension.name == dimension)).map (·.foreignKey) =
        fact.table.foreignKeys.find? (·.dimension == dimension)) ∧
    (∀ j ∈ s.joins, ∀ cell row,
      db.rowOf? j.dimension.name j.dimension.table.key.name cell = some row ↔
        row ∈ db j.dimension.name ∧
          ∃ v, cell = some v ∧ row j.dimension.table.key.name = some v) ∧
    s.baseQuery.joinedRows db = (db fact.name).map (s.joinedRow db) ∧
    (∀ q, s'.compose = .ok q → q.joinedRows db = (db fact.name).map (s.joinedRow db)) ∧
    ∀ (v : View) q, v.compose s' = .ok q →
      q.joinedRows db = (db fact.name).map (s.joinedRow db) := by
  intro s'
  obtain ⟨rfl, built⟩ := built_of_ofFact h
  exact ⟨⟨built.distinct, find?_joins_of_ofFact h⟩,
    fun j hj cell row => (keys j hj).rowOf?_eq_some_iff,
    joinedRows_eq other built.distinct keys rfl rfl,
    fun q hq => joinedRows_eq_of_readsRows other built.distinct keys (readsRows_compose hq),
    fun v q hq => joinedRows_eq_of_readsRows other built.distinct keys (v.readsRows_compose hq)⟩

end Star

end

/-- Whether keys are kept is told by the names of the joined dimensions and of their keys. -/
theorem Star.isKey_of_names {V : Type} {db : Database V} {s : Star}
    {names : List (String × String)}
    (joined : s.joins.map (fun j => (j.dimension.name, j.dimension.table.key.name)) = names)
    (keys : ∀ x ∈ names, db.IsKey x.1 x.2) :
    ∀ j ∈ s.joins, db.IsKey j.dimension.name j.dimension.table.key.name := by
  rw [← joined, List.forall_mem_map] at keys
  exact keys

/-! ### Sales with a replacement -/

def Dimension.products : Dimension :=
  (Dimension.ofDecl .plain {}
    { table :=
      { name := "products"
        fields :=
          [{ name := "id", dataType? := some .int, isKey := true },
            { name := "title", dataType? := some .str }] }
      label := { displayName := "Product", fields := ["title"] } }).toOption.get rfl

def Dimension.stores : Dimension :=
  (Dimension.ofDecl .plain {}
    { table :=
      { name := "stores"
        fields := [{ name := "number", dataType? := some .int, isKey := true }] }
      label := { displayName := "Store", fields := ["number"] } }).toOption.get rfl

/-- Sales of a product, and perhaps of another in its place. -/
def Fact.replacements : Fact :=
  (Fact.ofDecl .plain {}
    { table :=
      { name := "sales"
        fields :=
          [{ name := "id", dataType? := some .int, isKey := true },
            { name := "product", dataType? := some .int
              dimension? := some "products", referenced? := some "id" },
            { name := "store", dataType? := some .int
              dimension? := some "stores", referenced? := some "number" },
            { name := "replacement", dataType? := some .int
              dimension? := some "products", referenced? := some "id" }] } }).toOption.get rfl

namespace Star

def replacements : Star :=
  (ofFact [.stores, .products] .replacements).toOption.get rfl

def product : TableRow Nat := ([("id", 1), ("title", 10)].lookup ·)

def otherProduct : TableRow Nat := ([("id", 2), ("title", 20)].lookup ·)

def store : TableRow Nat := ([("number", 7)].lookup ·)

/-- A sale of the second product, with the first in its place. -/
def sale : TableRow Nat := ([("id", 1), ("product", 2), ("store", 7), ("replacement", 1)].lookup ·)

/-- A sale without a product, in a store that is not there. -/
def strayedSale : TableRow Nat := ([("id", 2), ("store", 8), ("replacement", 1)].lookup ·)

/-- The same sale stands twice. -/
def salesRows : Database Nat := fun table =>
  if table = "products" then [product, otherProduct]
  else if table = "stores" then [store]
  else if table = "sales" then [sale, strayedSale, sale]
  else []

/-- Two keys to one dimension, a null, a missing row, and a row that stands twice. -/
theorem joinedRows_queries_replacements :
    ofFact [.stores, .products] .replacements = .ok replacements ∧
    Fact.replacements.name ∉ replacements.joins.map (·.dimension.name) ∧
    (∀ j ∈ replacements.joins, salesRows.IsKey j.dimension.name j.dimension.table.key.name) ∧
    ∃ q, (replacements.run [.clear, .set "Product" (.str "x")]).compose = .ok q ∧
      q.joinedRows salesRows =
        [[("sales", some sale), ("products", some otherProduct), ("stores", some store)],
          [("sales", some strayedSale), ("products", none), ("stores", none)],
          [("sales", some sale), ("products", some otherProduct), ("stores", some store)]] := by
  have built : ofFact [.stores, .products] .replacements = .ok replacements := rfl
  have joined : replacements.joins.map (fun j => (j.dimension.name, j.dimension.table.key.name)) =
      [("products", "id"), ("stores", "number")] := by decide +kernel
  have other : Fact.replacements.name ∉ replacements.joins.map (·.dimension.name) := by
    decide +kernel
  have listed : ∀ x ∈ [("products", "id"), ("stores", "number")], salesRows.IsKey x.1 x.2 := by
    simp only [List.forall_mem_cons, Database.IsKey]
    decide
  have keys := isKey_of_names joined listed
  obtain ⟨q, hq⟩ : ∃ q,
      (replacements.run [.clear, .set "Product" (.str "x")]).compose = .ok q := by
    rw [run_eq_mapFilters, compose_mapFilters]
    exact ⟨_, rfl⟩
  obtain ⟨-, -, -, rows, -⟩ := joinedRows_queries built other salesRows keys
    [.clear, .set "Product" (.str "x")]
  refine ⟨built, other, keys, q, hq, ?_⟩
  rw [rows q hq]
  rfl

end Star

/-! ### Sales that follow one another -/

/-- A dimension with the name of the fact that refers to it. -/
def Dimension.sales : Dimension :=
  (Dimension.ofDecl .plain {}
    { table :=
      { name := "sales"
        fields := [{ name := "id", dataType? := some .int, isKey := true }] }
      label := { displayName := "Sale", fields := ["id"] } }).toOption.get rfl

def Fact.successions : Fact :=
  (Fact.ofDecl .plain {}
    { table :=
      { name := "sales"
        fields :=
          [{ name := "id", dataType? := some .int, isKey := true },
            { name := "previous", dataType? := some .int
              dimension? := some "sales", referenced? := some "id" }] } }).toOption.get rfl

namespace Star

def successions : Star :=
  (ofFact [.sales] .successions).toOption.get rfl

/-- Each of two sales follows the first. -/
def successionRows : Database Nat := fun table =>
  if table = "sales" then
    [([("id", 1), ("previous", 1)].lookup ·), ([("id", 2), ("previous", 1)].lookup ·)]
  else []

/-- **A dimension with the name of the fact:** the join compares two cells of a row of the fact. A
row that agrees with itself is repeated for every row of the dimension. -/
theorem joinedRows_homonym :
    ofFact [.sales] .successions = .ok successions ∧
    (∀ j ∈ successions.joins,
      successionRows.IsKey j.dimension.name j.dimension.table.key.name) ∧
    (∃ q, successions.compose = .ok q ∧ (q.joinedRows successionRows).length = 3) ∧
    (successionRows Fact.successions.name).length = 2 := by
  have built : ofFact [.sales] .successions = .ok successions := rfl
  have joined : successions.joins.map (fun j => (j.dimension.name, j.dimension.table.key.name)) =
      [("sales", "id")] := by decide +kernel
  have listed : ∀ x ∈ [("sales", "id")], successionRows.IsKey x.1 x.2 := by
    simp only [List.forall_mem_cons, Database.IsKey]
    decide
  exact ⟨built, isKey_of_names joined listed, ⟨_, rfl, by decide +kernel⟩, by decide +kernel⟩

end Star

end StarSchema
