import StarSchema.Proofs.Sql.Legible
import StarSchema.Proofs.Table.Writing
import StarSchema.Proofs.Value.Finite

/-!
# What is written has been validated

A value is validated before it is written, and between the two the zero of a foreign key becomes
null. So what is written passes the validator of its field, except that a required foreign key is
given zero: zero is present, and what is written for it is not.

Main definitions: `FieldDecl.Writes`, `FieldDecl.IsEmptied`.

Main result: `Table.written_values_pass`.
-/

namespace StarSchema

variable {engine : PatternEngine}

/-! ### Null in a statement -/

namespace Sql

/-- A literal that is written as null stands for it. -/
theorem lexemes_of_sql_eq_null {l : Literal} (plain : l.Plain) {d : Dialect}
    (h : (Expr.literal l).sql d = "NULL") : l.token.lexemes d = [.word "NULL"] := by
  have text : [l.token].flatMap (Token.chars d) = [Token.null].flatMap (Token.chars d) := by
    rw [← String.toList_ofList (l := [l.token].flatMap (Token.chars d))]
    exact congrArg String.toList h
  have read := legible_literal (d := d) plain [] seam_nil
  rw [text, legible_null [] seam_nil, lex_nil, Option.map_some, Option.map_some] at read
  simpa [Token.lexemes] using (Option.some.inj read).symm

theorem sql_ofValue_ne_null {v : Value} (finite : ∀ x, v = .float x → x.isFinite = true)
    (d : Dialect) : (Expr.ofValue v).sql d ≠ "NULL" := by
  intro h
  cases v with
  | bool b =>
    have read := lexemes_of_sql_eq_null (l := .bool b) trivial h
    revert read
    cases d <;> cases b <;> decide
  | date day =>
    have read := lexemes_of_sql_eq_null (l := .date _) ⟨day, rfl⟩ h
    cases d <;> simp [Literal.token, Token.lexemes, Dialect.dateLexemes] at read
  | float x =>
    have read := lexemes_of_sql_eq_null (l := .float x) trivial h
    cases x with
    | nan | infinity => cases finite _ rfl
    | finite negative m e canonical => cases read
  | int n => cases lexemes_of_sql_eq_null (l := .int n) trivial h
  | str s => cases lexemes_of_sql_eq_null (l := .string s) trivial h

/-- Only an absent value is written as null, in any dialect. -/
theorem sql_ofValue?_eq_null_iff {value? : Option Value}
    (finite : ∀ x, value? = some (.float x) → x.isFinite = true) (d : Dialect) :
    (Expr.ofValue? value?).sql d = "NULL" ↔ value? = none := by
  cases value? with
  | none => cases d <;> decide
  | some v =>
    refine iff_of_false (sql_ofValue_ne_null (fun x same => finite x ?_) d) (Option.some_ne_none v)
    rw [same]

end Sql

/-! ### One field -/

namespace FieldDecl

variable {x : FieldDecl} {input : Input} {value? : Option Value}

/-- The column is that of the field, and what is written into it is the literal of the value, or
null if it is absent. -/
structure Writes (x : FieldDecl) (column : String × Sql.Expr) (value? : Option Value) : Prop where
  name : column.1 = x.name
  literal : column.2 = .ofValue? value?
  null : ∀ d, column.2.sql d = "NULL" ↔ value? = none

/-- The field is a required foreign key, and the input gives it zero. -/
structure IsEmptied (x : FieldDecl) (input : Input) : Prop where
  required : x.validator? = some .required
  refers : x.dimension?.isSome = true
  zero : ∃ t, x.type? = some t ∧ convert t (x.given input) = .ok (some (.int 0))

theorem eq_required_of_ofDecl {d : ValidatorDecl} (h : Validator.ofDecl engine d = .ok .required) :
    d = .required := by
  cases d with
  | required => rfl
  | maxLength max => cases h
  | range min? max? =>
    cases min? with
    | none => cases h
    | some min =>
      cases max? with
      | none => cases h
      | some max =>
        rw [Validator.ofDecl] at h
        split at h <;> cases h
  | pattern source message? =>
    rw [Validator.ofDecl] at h
    split at h
    · cases h
    · cases h

/-- An absent value passes every validator but one. -/
theorem passes_none_iff (passes : x.Passes engine value?) :
    x.Passes engine none ↔ x.validator? ≠ some .required := by
  constructor
  · intro absent required
    obtain ⟨v, built, silent⟩ := absent _ required
    cases built
    cases silent
  · intro optional d declared
    obtain ⟨v, built, -⟩ := passes d declared
    refine ⟨v, built, ?_⟩
    cases v with
    | required =>
      exact absurd (declared.trans (congrArg some (eq_required_of_ofDecl built))) optional
    | maxLength | range | pattern => rfl

/-- What is written for an accepted value passes the validator, unless the field is emptied. -/
theorem Accepts.passes_written?_iff (h : x.Accepts engine input value?) :
    x.Passes engine (x.written? value?) ↔ ¬x.IsEmptied input := by
  obtain ⟨t, typed, converted⟩ := h.converted
  have zero : x.IsEmptied input → value? = some (.int 0) := by
    rintro ⟨-, -, t', typed', converted'⟩
    obtain rfl := Option.some.inj (typed.symm.trans typed')
    exact Except.ok.inj (converted.symm.trans converted')
  rw [written?]
  by_cases refers : x.dimension?.isSome = true ∧ value? = some (.int 0)
  · rw [if_pos refers, passes_none_iff h.passes, not_iff_not]
    exact ⟨fun required => ⟨required, refers.1, t, typed, refers.2 ▸ converted⟩, (·.required)⟩
  · rw [if_neg refers]
    exact iff_of_true h.passes fun emptied => refers ⟨emptied.refers, zero emptied⟩

/-- What is written for an accepted value. -/
theorem Accepts.writes_written? (h : x.Accepts engine input value?) :
    x.Writes (x.name, x.item value?) (x.written? value?) where
  name := rfl
  literal := rfl
  null := by
    obtain ⟨t, -, converted⟩ := h.converted
    refine Sql.sql_ofValue?_eq_null_iff fun y present => isFinite_of_convert (converted.trans ?_)
    rw [written?] at present
    split at present
    · cases present
    · rw [present]

/-- What is written for an input stands for a value that passes the validator, unless the field is
emptied. -/
def IsChecked (engine : PatternEngine) (x : FieldDecl) (input : Input)
    (column : String × Sql.Expr) : Prop :=
  ∃ value?, x.Writes column value? ∧ (x.Passes engine value? ↔ ¬x.IsEmptied input)

end FieldDecl

/-! ### Rows -/

namespace TableDecl

variable {d : TableDecl} {inputs : List Input}

/-- The columns of a row are those of the fields. -/
theorem Coerces.forall₂_isChecked {values : List (Option Value)}
    (h : d.Coerces engine inputs values) :
    (d.rowFields.zip inputs).Forall₂ (fun p column => p.1.IsChecked engine p.2 column)
      ((d.rowFields.map (·.name)).zip (List.zipWith FieldDecl.item d.rowFields values)) := by
  obtain ⟨arity, accepted⟩ := h
  generalize d.rowFields = xs at arity accepted
  induction xs generalizing inputs values with
  | nil => exact .nil
  | cons x xs ih =>
    cases inputs with
    | nil => cases arity
    | cons input inputs =>
      cases accepted with
      | cons first rest =>
        exact .cons ⟨_, first.writes_written?, first.passes_written?_iff⟩
          (ih (Nat.succ.inj arity) rest)

/-- What holds of all columns of a row holds of those at fields that may be changed. -/
theorem forall₂_atEditable {α : Type} {R : FieldDecl × Input → α → Prop} {row : List α}
    (arity : inputs.length = d.rowFields.length) (h : (d.rowFields.zip inputs).Forall₂ R row) :
    ((d.rowFields.zip inputs).filter (·.1.editable)).Forall₂ R (d.atEditable row) := by
  rw [atEditable]
  generalize d.rowFields = xs at arity h
  induction xs generalizing inputs row with
  | nil => exact .nil
  | cons x xs ih =>
    cases inputs with
    | nil => cases arity
    | cons input inputs =>
      cases h with
      | @cons _ a _ row first rest =>
        have others := ih (Nat.succ.inj arity) rest
        simp only [List.zip_cons_cons, List.filter_cons]
        split
        · exact .cons first others
        · exact others

end TableDecl

namespace Table

variable {settings : Settings} {d : TableDecl} {t : Table}

/-- **What is written passes its validator.** In every row that is added or changed, each column
takes the literal of a value, null in every dialect just if absent, that the validator of its field
has no objection to, unless the field is a required foreign key and the input gives it zero. -/
theorem written_values_pass (h : Table.ofDecl engine settings d = .ok t) :
    (∀ inputs i, t.insertRow inputs = .ok i →
      inputs.length = d.rowFields.length ∧ ∃ row, i.rows = [row] ∧
        (d.rowFields.zip inputs).Forall₂ (fun p column => p.1.IsChecked engine p.2 column)
          (i.columns.zip row)) ∧
    ∀ key inputs u, t.updateRow key inputs = .ok u →
      inputs.length = d.rowFields.length ∧
        ((d.rowFields.zip inputs).filter (·.1.editable)).Forall₂
          (fun p column => p.1.IsChecked engine p.2 column) u.set := by
  have added {inputs : List Input} {i : Sql.Insert} (h' : t.insertRow inputs = .ok i) :
      inputs.length = d.rowFields.length ∧ ∃ row, i.rows = [row] ∧
        (d.rowFields.zip inputs).Forall₂ (fun p column => p.1.IsChecked engine p.2 column)
          (i.columns.zip row) := by
    obtain ⟨-, values, coerced, rfl⟩ := (insertRow_eq_ok_iff_coerces h).mp h'
    exact ⟨coerced.arity, _, rfl, coerced.forall₂_isChecked⟩
  refine ⟨fun _ _ => added, fun key inputs u changed => ?_⟩
  obtain ⟨-, -, k, v, i, row, -, inserted, single, rfl⟩ :=
    (updateRow_eq_ok_iff_coerces h).mp changed
  obtain ⟨arity, row', single', checked⟩ := added inserted
  obtain rfl := List.singleton_inj.mp (single.symm.trans single')
  exact ⟨arity, TableDecl.forall₂_atEditable arity checked⟩

end Table

/-! ### A sale of no product -/

/-- Sales with a product and a note, both required. -/
def TableDecl.noted : TableDecl where
  name := "sales"
  fields :=
    [{ name := "id", dataType? := some .int, isKey := true },
     { name := "product", dataType? := some .int, dimension? := some "products"
       referenced? := some "id", validator? := some .required },
     { name := "note", dataType? := some .str, validator? := some .required }]

namespace Table

theorem isOk_noted : (Table.ofDecl .plain {} .noted).isOk = true := by
  decide +kernel

/-- The product zero is accepted and written as null, which is not; the note is written as it is. -/
theorem written_values_pass_noted : ∃ t, Table.ofDecl .plain {} .noted = .ok t ∧
    t.insertRow [.int 0, .str "paid"] =
      .ok { table := "sales", columns := ["product", "note"]
            rows := [[.null, .string "paid"]] } ∧
    (∃ value?, (TableDecl.noted.fields[1]).Writes ("product", .null) value? ∧
      ¬(TableDecl.noted.fields[1]).Passes .plain value?) ∧
    ∃ value?, (TableDecl.noted.fields[2]).Writes ("note", .string "paid") value? ∧
      (TableDecl.noted.fields[2]).Passes .plain value? := by
  obtain ⟨t, built⟩ := exists_eq_ok_of_isOk isOk_noted
  have required {v : Value} (present : Validator.required.objection? (some v) = none) :
      ∀ d, some ValidatorDecl.required = some d →
        ∃ v', Validator.ofDecl .plain d = .ok v' ∧ v'.objection? (some v) = none := by
    rintro d ⟨⟩
    exact ⟨.required, rfl, present⟩
  have product : (TableDecl.noted.fields[1]).Accepts .plain (.int 0) (some (.int 0)) :=
    ⟨⟨.int, rfl, by decide +kernel⟩, required rfl⟩
  have note : (TableDecl.noted.fields[2]).Accepts .plain (.str "paid") (some (.str "paid")) :=
    ⟨⟨.str, rfl, by decide +kernel⟩, required (by decide +kernel)⟩
  have row : TableDecl.noted.Coerces .plain [.int 0, .str "paid"]
      [some (.int 0), some (.str "paid")] :=
    ⟨rfl, .cons product (.cons note .nil)⟩
  have inserted := (insertRow_eq_ok_iff_coerces built).mpr ⟨rfl, _, row, rfl⟩
  obtain ⟨-, row, single, checked⟩ := (written_values_pass built).1 _ _ inserted
  obtain rfl := List.singleton_inj.mp single
  have emptied : (TableDecl.noted.fields[1]).IsEmptied (.int 0) :=
    ⟨rfl, rfl, .int, rfl, by decide +kernel⟩
  have plain : ¬(TableDecl.noted.fields[2]).IsEmptied (.str "paid") := fun h => nomatch h.refers
  obtain ⟨⟨absent, product, refused⟩, checked⟩ := List.forall₂_cons.mp checked
  obtain ⟨⟨present, note, passed⟩, -⟩ := List.forall₂_cons.mp checked
  exact ⟨t, built, inserted, ⟨absent, product, fun passes => refused.mp passes emptied⟩,
    present, note, passed.mpr plain⟩

end Table

end StarSchema
