import Mathlib.Data.List.Induction
import StarSchema.Filter.Basic
import StarSchema.Proofs.Value.Conversion

/-!
# A filter over time

A filter keeps its question for life; what changes is the value that it holds. A value that does
not convert is refused and leaves the filter as it was.

Main definitions: `FilterStep`, `Filter.run`, `Filter.Typed`, `Filter.SameQuestion`,
`Filter.lastAccepted`.

Main results: `Filter.typed_run`, `Filter.sameQuestion_run`, `Filter.run_eq_apply_lastAccepted`.
-/

namespace StarSchema

/-- What is done to a filter. -/
inductive FilterStep where
  | set (input : Input)
  | clear

namespace Filter

/-- The filter after a step. -/
def apply (f : Filter) : FilterStep → Filter
  | .set input => (assign input).after f
  | .clear => f.clear

/-- The filter after some steps. -/
def run (f : Filter) (steps : List FilterStep) : Filter :=
  steps.foldl apply f

/-- A value that the filter holds is of its type and was given by input. -/
def Typed (f : Filter) : Prop :=
  ∀ v ∈ f.value?, v.dataType = f.dataType ∧ f.input.isEmpty = false

/-- Filters that ask the same about the same field, whatever their values. -/
structure SameQuestion (f g : Filter) : Prop where
  fieldName : f.fieldName = g.fieldName
  dataType : f.dataType = g.dataType
  operator : f.operator = g.operator
  subject : f.subject = g.subject

variable {f g h : Filter}

theorem SameQuestion.refl (f : Filter) : SameQuestion f f :=
  ⟨rfl, rfl, rfl, rfl⟩

theorem SameQuestion.trans (hfg : SameQuestion f g) (hgh : SameQuestion g h) :
    SameQuestion f h :=
  ⟨hfg.fieldName.trans hgh.fieldName, hfg.dataType.trans hgh.dataType,
    hfg.operator.trans hgh.operator, hfg.subject.trans hgh.subject⟩

/-- A filter without a value holds none that could be of a wrong type. -/
theorem typed_of_value?_eq_none (hf : f.value? = none) : f.Typed := by
  intro v hv
  rw [hf] at hv
  cases hv

/-! ### One step -/

/-- All that setting a filter can do: it takes the input and what it converts to. -/
theorem set_eq_ok_iff {input : Input} :
    f.set input = .ok g ↔
      ∃ value?, g = { f with input, value? } ∧
        (if input.isEmpty then value? = none else convert f.dataType input = .ok value?) := by
  have value (value? : Option Value) : f.valueOf input = .ok value? ↔
      if input.isEmpty then value? = none else convert f.dataType input = .ok value? := by
    rw [valueOf]
    cases input.isEmpty <;> simp [eq_comm]
  rw [set_eq_map_valueOf, map_eq_ok_iff]
  constructor
  · rintro ⟨value?, given, rfl⟩
    exact ⟨value?, rfl, (value value?).mp given⟩
  · rintro ⟨value?, rfl, given⟩
    exact ⟨value?, (value value?).mpr given, rfl⟩

/-- A value that is refused leaves the filter as it was. -/
theorem apply_set (f : Filter) (input : Input) :
    f.apply (.set input) = (f.set input).toOption.getD f :=
  (f.allOrNothing_assign input).after_eq

theorem sameQuestion_set {input : Input} (hset : f.set input = .ok g) : SameQuestion g f := by
  obtain ⟨value?, rfl, -⟩ := set_eq_ok_iff.mp hset
  exact ⟨rfl, rfl, rfl, rfl⟩

theorem typed_set {input : Input} (hset : f.set input = .ok g) : g.Typed := by
  obtain ⟨value?, rfl, outcome⟩ := set_eq_ok_iff.mp hset
  intro v hv
  cases hv
  by_cases empty : input.isEmpty = true
  · rw [if_pos empty] at outcome
    cases outcome
  · rw [if_neg empty] at outcome
    exact ⟨dataType_of_convert outcome, Bool.eq_false_iff.mpr empty⟩

/-- A value that converts is taken over. -/
theorem apply_of_valueOf {input : Input} {value? : Option Value}
    (h : f.valueOf input = .ok value?) : f.apply (.set input) = { f with input, value? } := by
  rw [apply_set, set_eq_map_valueOf, h]
  rfl

theorem sameQuestion_apply (f : Filter) (step : FilterStep) : SameQuestion (f.apply step) f := by
  cases step with
  | clear => exact ⟨rfl, rfl, rfl, rfl⟩
  | set input =>
    rw [apply_set]
    cases hset : f.set input with
    | error e => exact .refl f
    | ok g => exact sameQuestion_set hset

theorem typed_apply (hf : f.Typed) (step : FilterStep) : (f.apply step).Typed := by
  cases step with
  | clear => exact typed_of_value?_eq_none rfl
  | set input =>
    rw [apply_set]
    cases hset : f.set input with
    | error e => exact hf
    | ok g => exact typed_set hset

/-! ### Any number of steps -/

theorem sameQuestion_run (f : Filter) (steps : List FilterStep) :
    SameQuestion (f.run steps) f := by
  induction steps generalizing f with
  | nil => exact .refl f
  | cons step steps ih => exact (ih (f.apply step)).trans (f.sameQuestion_apply step)

/-- **What a filter holds is of its type**, whatever was done to it. -/
theorem typed_run (hf : f.Typed) (steps : List FilterStep) : (f.run steps).Typed := by
  induction steps generalizing f with
  | nil => exact hf
  | cons step steps ih => exact ih (typed_apply hf step)

/-! ### The last accepted input

What was done to a filter matters only through the input that it accepted last. -/

/-- The input that a filter takes over in a step, which is null where it is cleared; none if it
refuses the step. -/
def accepted? (f : Filter) : FilterStep → Option Input
  | .set input => if (f.set input).isOk then some input else none
  | .clear => some .null

/-- The input that a filter accepted last; null if it never accepted any. -/
def lastAccepted (f : Filter) (steps : List FilterStep) : Input :=
  (steps.reverse.findSome? f.accepted?).getD .null

/-- A filter that no one has touched yet. -/
def Unset (f : Filter) : Prop :=
  f.input = .null ∧ f.value? = none

/-- What an input does to a filter depends on the question alone. -/
theorem SameQuestion.set_eq (hgf : SameQuestion g f) (input : Input) :
    g.set input = f.set input := by
  rw [set_eq_map_valueOf, set_eq_map_valueOf]
  obtain ⟨fieldName, dataType, operator, subject, input₀, value₀⟩ := f
  obtain ⟨fieldName', dataType', operator', subject', input₁, value₁⟩ := g
  obtain ⟨rfl, rfl, rfl, rfl⟩ := hgf
  rfl

theorem SameQuestion.clear_eq (hgf : SameQuestion g f) : g.clear = f.clear := by
  obtain ⟨fieldName, dataType, operator, subject, input₀, value₀⟩ := f
  obtain ⟨fieldName', dataType', operator', subject', input₁, value₁⟩ := g
  obtain ⟨rfl, rfl, rfl, rfl⟩ := hgf
  rfl

theorem SameQuestion.displayName_eq (hgf : SameQuestion g f) : g.displayName = f.displayName := by
  rw [displayName, displayName, hgf.operator, hgf.fieldName]

theorem Unset.set_null (hf : f.Unset) : f.set .null = .ok f := by
  obtain ⟨fieldName, dataType, operator, subject, input, value?⟩ := f
  obtain ⟨rfl, rfl⟩ := hf
  rfl

/-- **The last accepted input is all that counts:** a filter that was unset at first is after any
steps as if it had been given that input alone. -/
theorem run_eq_apply_lastAccepted (hf : f.Unset) (steps : List FilterStep) :
    f.run steps = f.apply (.set (f.lastAccepted steps)) := by
  induction steps using List.reverseRecOn with
  | nil =>
    show f = f.apply (.set .null)
    rw [apply_set, hf.set_null]
    rfl
  | append_singleton steps step ih =>
    have same := f.sameQuestion_run steps
    have last : f.lastAccepted (steps ++ [step]) =
        ((f.accepted? step).or (steps.reverse.findSome? f.accepted?)).getD .null := by
      rw [lastAccepted, List.reverse_append, List.reverse_singleton, List.singleton_append,
        List.findSome?_cons]
      cases f.accepted? step <;> rfl
    rw [last, run, List.foldl_append]
    show (f.run steps).apply step = _
    cases step with
    | clear =>
      show (f.run steps).clear = f.apply (.set .null)
      rw [same.clear_eq, apply_set, hf.set_null]
      obtain ⟨input, value⟩ := hf
      rw [clear, ← input, ← value]
      rfl
    | set input =>
      rw [apply_set, same.set_eq]
      cases outcome : f.set input with
      | ok g =>
        rw [accepted?, outcome]
        show g = f.apply (.set input)
        rw [apply_set, outcome]
        rfl
      | error e =>
        rw [accepted?, outcome]
        exact ih

/-- A filter that holds a value stands for the condition that its operator makes of it. -/
theorem Typed.predicate?_eq_some (hf : f.Typed) {v : Value} (hv : f.value? = some v) :
    f.predicate? = some (f.operator.predicate f.subject v) := by
  obtain ⟨-, given⟩ := hf v hv
  rw [predicate?, given, if_neg Bool.false_ne_true, hv]
  rfl

end Filter

end StarSchema
