import StarSchema.Proofs.Admission
import StarSchema.Proofs.Declaration.Records

/-!
# Declarations are checked for validity

Main results: `Field.admits_ofDecl`, `Table.admits_ofDecl`, `Dimension.admits_ofDecl`,
`Lookup.admits_ofDecl`, `Fact.admits_ofDecl`, `ViewPlan.admits_ofDecl`.
-/

namespace StarSchema

variable {engine : PatternEngine}

/-! ### Fields -/

namespace FieldDecl

variable {d : FieldDecl} {t : DataType}

theorem admits_resolveType (d : FieldDecl) :
    Admits (d.type?.isSome = true) (d.Fault engine) d.resolveType := by
  cases resolved : d.resolveType with
  | ok t => exact Option.isSome_of_mem (resolveType_eq_ok_iff.mp resolved)
  | error e =>
    rw [resolveType] at resolved
    split at resolved
    · cases resolved
    · cases resolved
    · next noType noFormat =>
      cases resolved
      have absent : d.type? = none := by rw [type?, noType, noFormat]; rfl
      exact ⟨by simp [absent], .untyped absent⟩

theorem admits_resolveDefault (typed : d.type? = some t) :
    Admits (∀ t ∈ d.type?, ∀ x ∈ d.default?, ∃ v, convert t x = .ok v) (d.Fault engine)
      (d.resolveDefault t) := by
  rw [resolveDefault]
  simp only [typed, Option.mem_some_iff, forall_eq']
  cases declared : d.default? with
  | none =>
    intro x hx
    cases hx
  | some x =>
    have converted : Admits (∃ v, convert t x = .ok v) (d.Fault engine)
        ((convert t x).mapError FieldError.invalidDefault) :=
      (Admits.self _).mapError fun _ refused => .default typed declared refused
    exact converted.congr (by simp) fun _ => id

end FieldDecl

theorem Validator.admits_ofDecl (v : ValidatorDecl) :
    Admits (v.IsWellFormed engine) (v.Fault engine) (Validator.ofDecl engine v) := by
  cases v with
  | required => exact trivial
  | maxLength max => exact trivial
  | range min? max? =>
    cases min? with
    | none => exact trivial
    | some min =>
      cases max? with
      | none => exact trivial
      | some max =>
        rw [ValidatorDecl.IsWellFormed, Validator.ofDecl]
        cases less : max.lt min with
        | true => exact ⟨Bool.noConfusion, .inverted less⟩
        | false => exact rfl
  | pattern source message? =>
    rw [ValidatorDecl.IsWellFormed, Validator.ofDecl]
    cases read : engine.compile? source with
    | some compiled => exact rfl
    | none => exact ⟨Bool.noConfusion, .malformed read⟩

namespace FieldDecl

variable {d : FieldDecl} {t : DataType}

theorem admits_resolveValidator (d : FieldDecl) :
    Admits (∀ v ∈ d.validator?, v.IsWellFormed engine) (d.Fault engine)
      (d.resolveValidator engine) := by
  rw [resolveValidator]
  cases declared : d.validator? with
  | none =>
    intro v hv
    cases hv
  | some v =>
    have checked : Admits (v.IsWellFormed engine) (d.Fault engine)
        (((Validator.ofDecl engine v).map some).mapError FieldError.invalidValidator) :=
      ((Validator.admits_ofDecl v).map some).mapError fun _ fault => .validator declared fault
    exact checked.congr (by simp) fun _ => id

theorem admits_resolveOperators (typed : d.type? = some t) :
    Admits (∀ t ∈ d.type?, ∀ ops ∈ d.operators?, ∀ op ∈ ops, op.appliesTo t = true) (d.Fault engine)
      (d.resolveOperators t) := by
  rw [resolveOperators]
  simp only [typed, Option.mem_some_iff, forall_eq']
  cases declared : d.operators? with
  | none =>
    -- what a field has without a declaration always applies to its type
    have applies : (if d.dimension?.isSome = true then [] else Operator.defaults t).find?
        (!·.appliesTo t) = none := by
      refine List.find?_eq_none.mpr fun op mem => ?_
      split at mem
      · cases mem
      · rw [Operator.appliesTo_of_mem_defaults mem]
        exact Bool.false_ne_true
    simp only [Option.getD_none, applies]
    intro ops hops
    cases hops
  | some ops =>
    simp only [Option.getD_some]
    cases found : ops.find? (!·.appliesTo t) with
    | none =>
      rintro _ ⟨⟩ op mem
      simpa using List.find?_eq_none.mp found op mem
    | some op =>
      have mem := List.mem_of_find?_eq_some found
      have refused : op.appliesTo t = false := by simpa using List.find?_some found
      refine ⟨fun met => ?_, .operator typed declared mem refused⟩
      cases refused.symm.trans (met ops rfl op mem)

theorem admits_resolveReference (typed : d.type? = some t) :
    Admits (d.dimension?.isSome = true → d.type? = some .int ∧ d.referenced?.isSome = true)
      (d.Fault engine) (d.resolveReference t) := by
  rw [resolveReference]
  cases declared : d.dimension? with
  | none =>
    intro refers
    cases refers
  | some dimension =>
    have refers : d.dimension?.isSome = true := by rw [declared]; rfl
    dsimp only
    split
    · next other =>
      refine ⟨fun met => other ?_, .keyType refers typed other⟩
      exact Option.some.inj (typed.symm.trans (met rfl).1)
    · next int =>
      cases named : d.referenced? with
      | some key => exact fun _ => ⟨typed.trans (congrArg some (not_not.mp int)), rfl⟩
      | none =>
        refine ⟨fun met => ?_, .unnamedKey refers named⟩
        cases (met rfl).2

end FieldDecl

/-- A field is built just if its declaration is valid. -/
theorem Field.admits_ofDecl (table : String) (d : FieldDecl) :
    Admits (d.IsValid engine) (d.Fault engine) (Field.ofDecl engine table d) := by
  have checked : Admits (d.type?.isSome = true ∧
      (∀ t ∈ d.type?, ∀ x ∈ d.default?, ∃ v, convert t x = .ok v) ∧
      (∀ v ∈ d.validator?, v.IsWellFormed engine) ∧
      (∀ t ∈ d.type?, ∀ ops ∈ d.operators?, ∀ op ∈ ops, op.appliesTo t = true) ∧
      (d.dimension?.isSome = true → d.type? = some .int ∧ d.referenced?.isSome = true))
      (d.Fault engine) (Field.ofDecl engine table d) := by
    refine d.admits_resolveType.bind fun t resolved => ?_
    have typed := FieldDecl.resolveType_eq_ok_iff.mp resolved
    refine (FieldDecl.admits_resolveDefault typed).bind fun _ _ => ?_
    refine d.admits_resolveValidator.bind fun _ _ => ?_
    refine (FieldDecl.admits_resolveOperators typed).bind fun _ _ => ?_
    exact (FieldDecl.admits_resolveReference typed).bind_ok fun _ _ => ⟨_, rfl⟩
  refine checked.congr ⟨?_, ?_⟩ fun _ => id
  · rintro ⟨typed, default, validator, operators, reference⟩
    exact ⟨typed, default, validator, operators, reference⟩
  · rintro ⟨typed, default, validator, operators, reference⟩
    exact ⟨typed, default, validator, operators, reference⟩

/-! ### Names that stand twice -/

section

variable {seen names : List String} {x name : String}

theorem duplicate_of_mem (mem : x ∈ seen) : (seen ++ x :: names).Duplicate x := by
  have once := List.count_pos_iff.mpr mem
  rw [List.duplicate_iff_two_le_count, List.count_append, List.count_cons_self]
  omega

/-- It does not matter whether a name is counted among those seen. -/
theorem duplicate_middle_iff :
    (x :: (seen ++ names)).Duplicate name ↔ (seen ++ x :: names).Duplicate name := by
  rw [List.duplicate_iff_two_le_count, List.duplicate_iff_two_le_count, List.perm_middle.count_eq]

theorem not_nodup_of_duplicate {xs : List String} (twice : xs.Duplicate name) : ¬ xs.Nodup :=
  fun distinct => List.nodup_iff_forall_not_duplicate.mp distinct name twice

theorem duplicate_of_firstRepeated? (h : firstRepeated? seen names = some name) :
    (seen ++ names).Duplicate name := by
  induction names generalizing seen with
  | nil => cases h
  | cons x names ih =>
    rw [firstRepeated?] at h
    split at h
    · next mem =>
      cases h
      exact duplicate_of_mem mem
    · exact duplicate_middle_iff.mp (ih h)

end

/-! ### Tables -/

theorem two_le_length {α : Type} {xs : List α} (empty : xs ≠ []) (single : ∀ x, xs ≠ [x]) :
    2 ≤ xs.length := by
  match xs with
  | [] => exact absurd rfl empty
  | [x] => exact absurd rfl (single x)
  | _ :: _ :: xs => exact Nat.le_add_left 2 xs.length

namespace Table

/-- Fields are built one by one, and the names of those before have been seen. -/
theorem admits_fieldsOfDecls (table : String) {seen : List String} (distinct : seen.Nodup)
    (ds : List FieldDecl) :
    Admits ((seen ++ ds.map (·.name)).Nodup ∧ ∀ d ∈ ds, d.IsValid engine)
      (fun e => (∃ d ∈ ds, ∃ cause, d.Fault engine cause ∧ e = .inField table d.name cause) ∨
        ∃ name, (seen ++ ds.map (·.name)).Duplicate name ∧ e = .duplicateField table name)
      (fieldsOfDecls engine table seen ds) := by
  induction ds generalizing seen with
  | nil => exact ⟨by simpa using distinct, List.forall_mem_nil _⟩
  | cons d ds ih =>
    rw [fieldsOfDecls, List.map_cons]
    split
    · next mem =>
      have twice : (seen ++ d.name :: ds.map (·.name)).Duplicate d.name := duplicate_of_mem mem
      exact ⟨fun met => not_nodup_of_duplicate twice met.1, .inr ⟨d.name, twice, rfl⟩⟩
    · next fresh =>
      have first : Admits (d.IsValid engine)
          (fun e => ∃ cause, d.Fault engine cause ∧ e = .inField table d.name cause)
          ((Field.ofDecl engine table d).mapError (ModelError.inField table d.name)) :=
        (Field.admits_ofDecl table d).mapError fun cause fault => ⟨cause, fault, rfl⟩
      have others := ih (List.nodup_cons.mpr ⟨fresh, distinct⟩)
      rw [List.cons_append, ← List.perm_middle.nodup_iff] at others
      simp only [duplicate_middle_iff] at others
      refine ((first.congr Iff.rfl ?_).bind fun _ _ =>
        (others.congr Iff.rfl ?_).bind_ok fun _ _ => ⟨_, rfl⟩).congr ?_ fun _ => id
      · rintro _ ⟨cause, fault, rfl⟩
        exact .inl ⟨d, List.mem_cons_self, cause, fault, rfl⟩
      · rintro e (⟨x, hx, fault⟩ | twice)
        · exact .inl ⟨x, List.mem_cons_of_mem d hx, fault⟩
        · exact .inr twice
      · rw [List.forall_mem_cons, and_left_comm]

/-- A table is built just if its declaration is valid. -/
theorem admits_ofDecl (settings : Settings) (d : TableDecl) :
    Admits (d.IsValid engine) (d.Fault engine) (Table.ofDecl engine settings d) := by
  have fields : Admits ((d.fields.map (·.name)).Nodup ∧ ∀ f ∈ d.fields, f.IsValid engine)
      (d.Fault engine) (fieldsOfDecls engine d.name [] d.fields) := by
    refine (admits_fieldsOfDecls d.name List.nodup_nil d.fields).congr Iff.rfl ?_
    rintro e (⟨f, hf, cause, fault, rfl⟩ | ⟨name, twice, rfl⟩)
    · exact .field hf fault
    · exact .duplicate twice
  have checked : Admits (((d.fields.map (·.name)).Nodup ∧ ∀ f ∈ d.fields, f.IsValid engine) ∧
      (d.fields.filter (·.isKey)).length = 1) (d.Fault engine)
      (Table.ofDecl engine settings d) := by
    refine fields.bind fun fs built => ?_
    have keys := names_keys_of_records
      ((mapM_eq_ok_iff.mp (mapM_of_fieldsOfDecls built)).imp fun _ _ => Field.records_of_ofDecl)
    have count := congrArg List.length keys
    rw [List.length_map, List.length_map] at count
    split
    · next key only =>
      rw [only] at count
      exact count.symm
    · next none =>
      rw [none] at count
      refine ⟨fun one => ?_, .noKey (List.length_eq_zero_iff.mp count.symm)⟩
      cases count.trans one
    · next single empty =>
      rw [keys]
      have several : 2 ≤ (d.fields.filter (·.isKey)).length :=
        count ▸ two_le_length empty single
      exact ⟨fun one => absurd several (by omega), .keys several⟩
  exact checked.congr ⟨fun ⟨⟨distinct, fields⟩, keyed⟩ => ⟨distinct, keyed, fields⟩,
    fun ⟨distinct, keyed, fields⟩ => ⟨⟨distinct, fields⟩, keyed⟩⟩ fun _ => id

/-- A table has a field just if it is declared. -/
theorem Records.isSome_field?_iff {settings : Settings} {d : TableDecl} {t : Table}
    (h : t.Records engine settings d) {name : String} :
    (t.field? name).isSome = true ↔ name ∈ d.fields.map (·.name) := by
  rw [field?, isSome_find?_key_iff, h.names_fields]

/-- A label is resolved just if it is over the table. -/
theorem admits_resolveLabel {settings : Settings} {d : TableDecl} {t : Table}
    (h : t.Records engine settings d) (label : LabelDecl) :
    Admits (label.IsOver d) (label.Fault d) (t.resolveLabel label) := by
  rw [resolveLabel]
  split
  · next name found =>
    have absent : name ∉ d.fields.map (·.name) := by
      rw [← h.isSome_field?_iff]
      simpa using List.find?_some found
    have mem := List.mem_of_find?_eq_some found
    rw [h.name]
    exact ⟨fun met => absent (met name mem), .unknown mem absent⟩
  · next none =>
    intro name mem
    rw [← h.isSome_field?_iff, ← Option.isNone_eq_false_iff, ← Bool.not_eq_true]
    exact List.find?_eq_none.mp none name mem

end Table

/-! ### Tables by their roles -/

/-- A dimension is built just if its declaration is valid. -/
theorem Dimension.admits_ofDecl (settings : Settings) (d : DimensionDecl) :
    Admits (d.IsValid engine) (d.Fault engine) (Dimension.ofDecl engine settings d) := by
  have checked : Admits (d.table.IsValid engine ∧ d.label.IsOver d.table) (d.Fault engine)
      (Dimension.ofDecl engine settings d) := by
    refine ((Table.admits_ofDecl settings d.table).congr Iff.rfl fun _ => .table).bind
      fun table built => ?_
    have label := Table.admits_resolveLabel (Table.records_of_ofDecl built) d.label
    exact (label.congr Iff.rfl fun _ => .label).bind_ok fun _ _ => ⟨_, rfl⟩
  exact checked.congr ⟨fun h => ⟨h.1, h.2⟩, fun h => ⟨h.table, h.label⟩⟩ fun _ => id

namespace TableDecl

variable {d : TableDecl} {name dimension : String}

theorem mem_names_of_mem_foreignKeys (h : (name, dimension) ∈ d.foreignKeys) :
    name ∈ d.fields.map (·.name) := by
  obtain ⟨f, hf, rfl, -⟩ := mem_foreignKeys_iff.mp h
  exact List.mem_map_of_mem hf

/-- In a table whose fields have different names, a foreign key refers to one dimension. -/
theorem IsValid.dimension_unique (h : d.IsValid engine) {dimension' : String}
    (key : (name, dimension) ∈ d.foreignKeys) (key' : (name, dimension') ∈ d.foreignKeys) :
    dimension = dimension' := by
  obtain ⟨f, hf, named, refers⟩ := mem_foreignKeys_iff.mp key
  obtain ⟨f', hf', named', refers'⟩ := mem_foreignKeys_iff.mp key'
  obtain rfl := List.inj_on_of_nodup_map h.distinct hf hf' (named.trans named'.symm)
  exact Option.some.inj (refers.symm.trans refers')

end TableDecl

/-- A field is declared to refer to a dimension just if it does. -/
theorem Table.Records.mem_foreignKeys_iff {settings : Settings} {d : TableDecl} {t : Table}
    (h : t.Records engine settings d) (valid : d.IsValid engine) (dimension : String)
    {name : String} {f : Field} (found : t.field? name = some f) :
    (name, dimension) ∈ d.foreignKeys ↔ f.foreignKey?.map (·.dimension) = some dimension := by
  obtain ⟨x, hx, record⟩ := h.exists_decl (List.mem_of_find?_eq_some found)
  obtain rfl : f.name = name := by simpa using List.find?_some found
  have refers : f.foreignKey?.map (·.dimension) = x.dimension? := by
    have names := congrArg (Option.map Prod.snd) record.foreignKey?
    rw [Option.map_map, Option.map_map] at names
    exact names.trans Option.map_id'
  rw [TableDecl.mem_foreignKeys_iff, record.name]
  constructor
  · rintro ⟨x', hx', named, declared⟩
    obtain rfl := List.inj_on_of_nodup_map valid.distinct hx' hx named
    exact refers.trans declared
  · intro declared
    exact ⟨x, hx, rfl, refers.symm.trans declared⟩

namespace Lookup

variable {settings : Settings} {t : Table}

/-- A key of a lookup table is found just if it is declared as a foreign key. -/
theorem admits_resolveKey {d : LookupDecl} (valid : d.table.IsValid engine)
    (h : t.Records engine settings d.table) {name : String}
    (key : name = d.proximal ∨ name = d.distal) :
    Admits (∃ dimension, (name, dimension) ∈ d.table.foreignKeys) (d.Fault engine)
      (resolveKey t name) := by
  rw [resolveKey]
  cases found : t.field? name with
  | none =>
    have absent : name ∉ d.table.fields.map (·.name) := by
      rw [← h.isSome_field?_iff, found]
      exact Bool.false_ne_true
    rw [h.name]
    refine ⟨?_, .unknownKey key absent⟩
    rintro ⟨dimension, refers⟩
    exact absent (TableDecl.mem_names_of_mem_foreignKeys refers)
  | some field =>
    have present : name ∈ d.table.fields.map (·.name) := by
      rw [← h.isSome_field?_iff, found]
      rfl
    have declared (dimension : String) := h.mem_foreignKeys_iff valid dimension found
    dsimp only
    cases refers : field.foreignKey? with
    | some k => exact ⟨k.dimension, (declared _).mpr (by rw [refers]; rfl)⟩
    | none =>
      have plain (dimension : String) : (name, dimension) ∉ d.table.foreignKeys := by
        rw [declared, refers]
        exact Option.some_ne_none dimension ∘ Eq.symm
      rw [h.name]
      refine ⟨not_exists.mpr plain, .notAKey key present fun among => ?_⟩
      obtain ⟨⟨_, dimension⟩, mem, rfl⟩ := List.mem_map.mp among
      exact plain dimension mem

/-- What a key that is found refers to is declared. -/
theorem mem_foreignKeys_of_resolveKey {d : TableDecl} (h : t.Records engine settings d)
    {name : String} {k : ForeignKey} (found : resolveKey t name = .ok k) :
    (name, k.dimension) ∈ d.foreignKeys := by
  obtain ⟨mem, rfl⟩ := key_of_resolveKey found
  rw [← h.names_foreignKeys]
  exact List.mem_map_of_mem mem

/-- A lookup table is built just if its declaration is valid. -/
theorem admits_ofDecl (settings : Settings) (d : LookupDecl) :
    Admits (d.IsValid engine) (d.Fault engine) (Lookup.ofDecl engine settings d) := by
  have checked : Admits (d.table.IsValid engine ∧
      (∃ near, (d.proximal, near) ∈ d.table.foreignKeys) ∧
      (∃ far, (d.distal, far) ∈ d.table.foreignKeys) ∧
      (∀ near far, (d.proximal, near) ∈ d.table.foreignKeys →
        (d.distal, far) ∈ d.table.foreignKeys → near ≠ far) ∧ d.label.IsOver d.table)
      (d.Fault engine) (Lookup.ofDecl engine settings d) := by
    have table := @Table.admits_ofDecl engine settings d.table
    refine (table.congr Iff.rfl fun _ => .table).bind fun t built => ?_
    have valid := table.isOk_iff.mp (by rw [built]; rfl)
    have records := Table.records_of_ofDecl built
    refine (admits_resolveKey valid records (.inl rfl)).bind fun near foundNear => ?_
    refine (admits_resolveKey valid records (.inr rfl)).bind fun far foundFar => ?_
    have nearKey := mem_foreignKeys_of_resolveKey records foundNear
    have farKey := mem_foreignKeys_of_resolveKey records foundFar
    split
    · next same =>
      rw [records.name]
      exact ⟨fun met => met.1 _ _ nearKey farKey same, .sameDimension nearKey (same ▸ farKey)⟩
    · next other =>
      have label := Table.admits_resolveLabel records d.label
      have different : ∀ near' far', (d.proximal, near') ∈ d.table.foreignKeys →
          (d.distal, far') ∈ d.table.foreignKeys → near' ≠ far' := by
        intro near' far' hnear hfar
        rwa [valid.dimension_unique hnear nearKey, valid.dimension_unique hfar farKey]
      refine Admits.bind_ok (label.congr ?_ fun _ => .label) fun _ _ => ⟨_, rfl⟩
      exact ⟨fun met => ⟨different, met⟩, And.right⟩
  refine checked.congr ⟨?_, ?_⟩ fun _ => id
  · rintro ⟨table, ⟨near, hnear⟩, ⟨far, hfar⟩, different, label⟩
    exact ⟨table, ⟨near, far, hnear, hfar, different near far hnear hfar⟩, label⟩
  · rintro ⟨table, ⟨near, far, hnear, hfar, different⟩, label⟩
    refine ⟨table, ⟨near, hnear⟩, ⟨far, hfar⟩, fun near' far' hnear' hfar' => ?_, label⟩
    rwa [table.dimension_unique hnear' hnear, table.dimension_unique hfar' hfar]

end Lookup

theorem CalculatedDecl.admits_resolveDefault (c : CalculatedDecl) :
    Admits (∀ x ∈ c.default?, ∃ v, convert .float x = .ok v)
      (fun e => ∃ x, c.default? = some x ∧ convert .float x = .error e) c.resolveDefault := by
  rw [resolveDefault]
  cases declared : c.default? with
  | none =>
    intro x hx
    cases hx
  | some x =>
    have converted := Admits.self (convert .float x)
    exact converted.congr (by simp) fun e refused => ⟨x, rfl, refused⟩

/-- A fact is built just if its declaration is valid. -/
theorem Fact.admits_ofDecl (settings : Settings) (d : FactDecl) :
    Admits (d.IsValid engine) (d.Fault engine) (Fact.ofDecl engine settings d) := by
  have checked : Admits (d.table.IsValid engine ∧
      ∀ c ∈ d.calculated, ∀ x ∈ c.default?, ∃ v, convert .float x = .ok v) (d.Fault engine)
      (Fact.ofDecl engine settings d) := by
    refine ((Table.admits_ofDecl settings d.table).congr Iff.rfl fun _ => .table).bind
      fun table built => ?_
    have default (c : CalculatedDecl) (hc : c ∈ d.calculated) :
        Admits (∀ x ∈ c.default?, ∃ v, convert .float x = .ok v) (d.Fault engine)
          (c.resolveDefault.mapError (ModelError.inField table.name c.displayName ∘ .invalidDefault)
            >>= fun _ => pure ()) := by
      refine (c.admits_resolveDefault.mapError ?_).bind_ok fun _ _ => ⟨_, rfl⟩
      rintro e ⟨x, declared, refused⟩
      rw [Table.name_of_ofDecl built]
      exact .default hc declared refused
    refine ((Admits.forM default).congr Iff.rfl ?_).bind_ok fun _ _ => ⟨_, rfl⟩
    rintro e ⟨c, -, fault⟩
    exact fault
  exact checked.congr ⟨fun h => ⟨h.1, h.2⟩, fun h => ⟨h.table, h.defaults⟩⟩ fun _ => id

/-! ### Views -/

namespace ViewPlan

theorem admits_aggregateOfDecl (view : String) (a : AggregateDecl) :
    Admits (∃ known : Aggregate, known.IsSpelled a.function)
      (fun e => (∀ known : Aggregate, ¬ known.IsSpelled a.function) ∧
        e = .invalidAggregate view a.displayName a.function) (aggregateOfDecl view a) := by
  rw [aggregateOfDecl]
  cases known : Aggregate.ofName? a.function with
  | some aggregate => exact ⟨aggregate, Aggregate.ofName?_eq_some_iff.mp known⟩
  | none =>
    have unknown : ∀ x : Aggregate, ¬ x.IsSpelled a.function := by
      intro x spelled
      cases known.symm.trans (Aggregate.ofName?_eq_some_iff.mpr spelled)
    exact ⟨not_exists.mpr unknown, unknown, rfl⟩

/-- A view is planned just if its declaration is valid. -/
theorem admits_ofDecl (facts : List Fact) (d : ViewDecl) :
    Admits (d.IsValid (facts.map (·.name))) (d.Fault (facts.map (·.name)))
      (ViewPlan.ofDecl facts d) := by
  have aggregates : Admits (∀ a ∈ d.aggregates, ∃ known : Aggregate, known.IsSpelled a.function)
      (d.Fault (facts.map (·.name))) (d.aggregates.mapM (aggregateOfDecl d.name)) := by
    refine (Admits.mapM fun a _ => admits_aggregateOfDecl d.name a).congr Iff.rfl ?_
    rintro e ⟨a, ha, unknown, rfl⟩
    exact .aggregate ha unknown
  have checked : Admits ((∀ a ∈ d.aggregates, ∃ known : Aggregate, known.IsSpelled a.function) ∧
      d.fact ∈ facts.map (·.name)) (d.Fault (facts.map (·.name))) (ViewPlan.ofDecl facts d) := by
    refine aggregates.bind fun plans _ => ?_
    have present : facts.any (·.name == d.fact) = true ↔ d.fact ∈ facts.map (·.name) := by simp
    split
    · next absent =>
      rw [Bool.not_eq_true', ← Bool.not_eq_true, present] at absent
      exact ⟨absent, .fact absent⟩
    · next found =>
      rw [Bool.not_eq_true', Bool.not_eq_false, present] at found
      exact found
  exact checked.congr ⟨fun h => ⟨h.1, h.2⟩, fun h => ⟨h.aggregates, h.fact⟩⟩ fun _ => id

end ViewPlan

end StarSchema
