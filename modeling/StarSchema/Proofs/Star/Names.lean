import StarSchema.Proofs.Star.Filters
import StarSchema.Proofs.Star.Requirements

/-!
# What the names within a star stand for

Filters and fields are asked for by their display names, and of several that share one the first is
meant. So a filter is reached by its own name just if no filter before it has that name, and all
fields are reached just if those that share a name cannot be told apart anyway.

Main definitions: `Star.AddressesFilter`, `Star.AddressesField`.

Main results: `Star.addressesFilter_iff`, `Star.forall_addressesFilter_iff`,
`Star.forall_addressesField_iff`.
-/

namespace StarSchema

/-! ### First positions -/

/-- A name stands first at a position just if it does not stand before. -/
theorem idxOf_eq_iff_notMem_take {names : List String} {name : String} {i : Nat}
    (standing : names[i]? = some name) : names.idxOf name = i ↔ name ∉ names.take i := by
  have mem : name ∈ names := List.mem_of_getElem? standing
  have upTo : name ∈ names.take (i + 1) := by simp [List.take_add_one, standing]
  have le : names.idxOf name ≤ i := Nat.lt_succ_iff.mp ((List.mem_take_iff_idxOf_lt mem).mp upTo)
  rw [List.mem_take_iff_idxOf_lt mem]
  omega

theorem forall_notMem_take_iff {names : List String} :
    (∀ (i : Nat) (name : String), names[i]? = some name → name ∉ names.take i) ↔ names.Nodup := by
  constructor
  · intro h
    rw [List.nodup_iff_getElem?_ne_getElem?]
    intro i j less bound same
    refine h j names[j] (List.getElem?_eq_getElem bound) ?_
    rw [List.getElem?_eq_getElem bound] at same
    exact List.mem_of_getElem? ((List.getElem?_take_of_lt less).trans same)
  · intro distinct i name standing
    rw [← idxOf_eq_iff_notMem_take standing]
    obtain ⟨bound, rfl⟩ := List.getElem?_eq_some_iff.mp standing
    exact distinct.idxOf_getElem i bound

/-! ### Filters -/

/-- A filter can be changed, whatever it holds. -/
theorem Filter.exists_set_ne (f : Filter) : ∃ input g, f.set input = .ok g ∧ g ≠ f := by
  by_cases empty : f.input.isEmpty = true
  · refine ⟨.str " ", { f with input := .str " ", value? := Value.empty? f.dataType }, rfl, ?_⟩
    intro same
    rw [← same] at empty
    cases empty
  · refine ⟨.null, f.clear, rfl, ?_⟩
    intro same
    rw [← same] at empty
    exact empty rfl

namespace Star

variable {s : Star}

/-- The filter at a position is reached by its own name: it is the one that is found, and each value
that it accepts under its name is set in it and in no other. -/
structure AddressesFilter (s : Star) (i : Nat) (f : Filter) : Prop where
  found : s.filter? f.displayName = some f
  set : ∀ input g, f.set input = .ok g →
    s.setFilter f.displayName input = .ok { s with filters := s.filters.set i g }

/-- **A filter is reached just if no filter before it has its name.** -/
theorem addressesFilter_iff {i : Nat} {f : Filter} (standing : s.filters[i]? = some f) :
    s.AddressesFilter i f ↔ f.displayName ∉ s.layout.take i := by
  have named : s.layout[i]? = some f.displayName := by
    rw [layout, List.getElem?_map, standing, Option.map_some]
  rw [← idxOf_eq_iff_notMem_take named]
  constructor
  · intro h
    by_contra other
    -- the value would be set at another position, and here the filter would be as before
    obtain ⟨input, g, hset, changed⟩ := f.exists_set_ne
    have reached := h.set input g hset
    rw [setFilter_of_filter? h.found, hset] at reached
    have same : s.filters.set (s.layout.idxOf f.displayName) g = s.filters.set i g :=
      congrArg Star.filters (Except.ok.inj reached)
    have here := congrArg (·[i]?) same
    simp only [List.getElem?_set_ne other, standing] at here
    rw [List.getElem?_set_self (List.getElem?_eq_some_iff.mp standing).1] at here
    exact changed (Option.some.inj here).symm
  · intro first
    have found : s.filter? f.displayName = some f := by
      rw [filter?_eq_getElem?, first, standing]
    refine ⟨found, fun input g hset => ?_⟩
    rw [setFilter_of_filter? found, hset, first]
    rfl

/-- All filters are reached just if no two share a name. -/
theorem forall_addressesFilter_iff :
    (∀ (i : Nat) (f : Filter), s.filters[i]? = some f → s.AddressesFilter i f) ↔
      s.layout.Nodup := by
  rw [← forall_notMem_take_iff]
  constructor
  · intro h i name standing
    rw [layout, List.getElem?_map, Option.map_eq_some_iff] at standing
    obtain ⟨f, standing, rfl⟩ := standing
    exact (addressesFilter_iff standing).mp (h i f standing)
  · intro h i f standing
    refine (addressesFilter_iff standing).mpr (h i f.displayName ?_)
    rw [layout, List.getElem?_map, standing, Option.map_some]

/-! ### Fields -/

/-- A field is reached by its own name: it is the one that is found, and a view that groups by the
name or aggregates it takes this field. -/
structure AddressesField (s : Star) (x : StarField) : Prop where
  found : s.field? x.column.displayName = some x.column
  group : ∀ view, View.groupColumn view s x.column.displayName =
    .ok { x.column with editable := false, isKey := false }
  aggregate : ∀ view (p : AggregatePlan), p.base = x.column.displayName →
    View.aggregateField view s p = .ok
      { displayName := p.displayName, base := p.base, aggregate := p.aggregate
        expr := p.aggregate.apply x.column.expr }

theorem addressesField_of_field? {x : StarField}
    (found : s.field? x.column.displayName = some x.column) : s.AddressesField x := by
  refine ⟨found, fun view => ?_, fun view p base => ?_⟩
  · exact View.groupColumn_eq_ok_iff.mpr ⟨x.column, found, rfl⟩
  · exact View.aggregateField_eq_ok_iff.mpr ⟨x.column, base ▸ found, rfl⟩

/-- **All fields are reached just if those of one name are the same.** -/
theorem forall_addressesField_iff :
    (∀ x ∈ s.fields, s.AddressesField x) ↔
      ∀ x ∈ s.fields, ∀ y ∈ s.fields, x.column.displayName = y.column.displayName →
        x.column = y.column := by
  constructor
  · intro h x hx y hy same
    have found := (h x hx).found
    rw [same, (h y hy).found] at found
    exact (Option.some.inj found).symm
  · intro h x hx
    refine addressesField_of_field? ?_
    obtain ⟨c, found⟩ := Option.isSome_iff_exists.mp
      (isSome_field?_iff.mpr (List.mem_map_of_mem hx))
    obtain ⟨y, hy, rfl⟩ := exists_field_of_field? found
    have named : y.column.displayName = x.column.displayName := by
      simpa using List.find?_some found
    rw [found, h y hy x hx named]

/-- Fields of different names are all reached. -/
theorem addressesField_of_nodup (distinct : (s.fields.map (·.column.displayName)).Nodup) :
    ∀ x ∈ s.fields, s.AddressesField x :=
  forall_addressesField_iff.mpr fun _ hx _ hy same =>
    congrArg StarField.column (List.inj_on_of_nodup_map distinct hx hy same)

end Star

end StarSchema
