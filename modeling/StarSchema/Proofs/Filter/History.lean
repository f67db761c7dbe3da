import StarSchema.Proofs.Filter.Run

/-!
# What a filter holds

A filter keeps two things: the input that it accepted last, as it was given, and what the input was
converted to. Emptiness of the one and absence of the other are judged apart, since a text of blanks
is not empty and yet may be converted to nothing. Nothing that is done to a filter lets the two
drift apart.

Main definition: `Filter.Holds`.

Main results: `Filter.holds_run`, `Filter.Holds.predicate?_eq_some_iff`.
-/

namespace StarSchema

theorem Input.isEmpty_iff {input : Input} :
    input.isEmpty = true ↔ input = .null ∨ input = .str "" := by
  cases input with
  | null => simp [isEmpty]
  | str s => simp [isEmpty]
  | _ => simp [isEmpty]

namespace Filter

variable {f g : Filter} {input : Input}

/-- The filter holds an input with what it converts to, and nothing if it is empty. -/
structure Holds (f : Filter) (input : Input) : Prop where
  given : f.input = input
  absent : input.isEmpty = true → f.value? = none
  converted : input.isEmpty = false → convert f.dataType input = .ok f.value?

/-! ### One step -/

theorem holds_set (h : f.set input = .ok g) : g.Holds input := by
  obtain ⟨value?, rfl, outcome⟩ := set_eq_ok_iff.mp h
  refine ⟨rfl, fun empty => ?_, fun nonempty => ?_⟩
  · rwa [if_pos empty] at outcome
  · rwa [if_neg (Bool.eq_false_iff.mp nonempty)] at outcome

/-- An input is refused if it is not empty and does not convert. -/
theorem set_eq_error_iff {e : ConversionError} :
    f.set input = .error e ↔ input.isEmpty = false ∧ convert f.dataType input = .error e := by
  rw [set_eq_map_valueOf, valueOf]
  cases input.isEmpty with
  | true => simp [Except.map]
  | false => cases convert f.dataType input <;> simp [Except.map]

theorem apply_of_error {e : ConversionError} (h : f.set input = .error e) :
    f.apply (.set input) = f :=
  f.allOrNothing_assign input e h

/-- Whether a step is accepted does not hang on what was done before. -/
theorem SameQuestion.accepted?_eq (hgf : SameQuestion g f) : g.accepted? = f.accepted? := by
  funext step
  cases step with
  | clear => rfl
  | set input => rw [accepted?, accepted?, hgf.set_eq]

/-! ### Any number of steps -/

theorem exists_set_lastAccepted (f : Filter) (steps : List FilterStep) :
    ∃ g, f.set (f.lastAccepted steps) = .ok g := by
  rw [lastAccepted]
  cases found : steps.reverse.findSome? f.accepted? with
  | none => exact ⟨_, rfl⟩
  | some input =>
    obtain ⟨step, -, accepted⟩ := List.exists_of_findSome?_eq_some found
    cases step with
    | clear =>
      cases accepted
      exact ⟨_, rfl⟩
    | set input' =>
      obtain ⟨ok, same⟩ := Option.ite_none_right_eq_some.mp accepted
      cases same
      exact exists_eq_ok_of_isOk ok

/-- **A filter holds the input that it accepted last**, if it was unset at first. -/
theorem holds_run (hf : f.Unset) (steps : List FilterStep) :
    (f.run steps).Holds (f.lastAccepted steps) := by
  obtain ⟨g, hg⟩ := f.exists_set_lastAccepted steps
  rw [run_eq_apply_lastAccepted hf, apply_set, hg]
  exact holds_set hg

/-! ### The condition -/

/-- A filter stands for a condition just if the input that it holds converts to a value, and then
for the one that its operator makes of its subject and that value. -/
theorem Holds.predicate?_eq_some_iff (h : f.Holds input) {p : Sql.Expr} :
    f.predicate? = some p ↔ input.isEmpty = false ∧
      ∃ v, convert f.dataType input = .ok (some v) ∧ p = f.operator.predicate f.subject v := by
  rw [predicate?, h.given]
  cases empty : input.isEmpty with
  | true => simp
  | false =>
    rw [h.converted empty, if_neg Bool.false_ne_true, Option.map_eq_some_iff]
    simp [eq_comm]

end Filter

end StarSchema
