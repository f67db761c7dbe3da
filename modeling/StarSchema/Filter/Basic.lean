import StarSchema.Filter.Operator
import StarSchema.InPlace
import StarSchema.Value.Convert

/-!
# Filters

A filter is a question about one field that a user may answer: while it has a value it is a
condition on rows, and else it is none.

Main definitions: `Filter`, `Filter.assign`, `Filter.set`, `Filter.predicate?`, `Filter.sort`.
-/

namespace StarSchema

/-- A filter and its present value, as given and as converted. -/
structure Filter where
  fieldName : String
  dataType : DataType
  operator : Operator
  subject : Sql.Expr
  input : Input := .null
  value? : Option Value := none

namespace Filter

/-- The name of the field with the suffix of the operator. -/
def displayName (f : Filter) : String :=
  if f.operator.suffix = "" then f.fieldName else f.fieldName ++ " " ++ f.operator.suffix

/-- The value that input gives to the filter. Empty input is not converted: it takes the value
away. -/
def valueOf (f : Filter) (input : Input) : Except ConversionError (Option Value) :=
  if input.isEmpty then .ok none else convert f.dataType input

/-- Gives a new value to the filter. -/
def assign (input : Input) : InPlace ConversionError Filter Unit := do
  let value? ← liftExcept ((← get).valueOf input)
  modify ({ · with input })
  modify ({ · with value? })

/-- The filter with a new value, unless the value is refused. -/
def set (f : Filter) (input : Input) : Except ConversionError Filter :=
  (assign input).outcome f

/-- The filter without a value. -/
def clear (f : Filter) : Filter :=
  { f with input := .null, value? := none }

def isActive (f : Filter) : Bool :=
  !f.input.isEmpty && f.value?.isSome

/-- The condition that the filter stands for while it has a value. -/
def predicate? (f : Filter) : Option Sql.Expr :=
  if f.input.isEmpty then none
  else f.value?.map (f.operator.predicate f.subject)

/-- Filters in the order of their names; filters of one name keep their order. -/
def sort (filters : List Filter) : List Filter :=
  filters.mergeSort fun f g => f.displayName ≤ g.displayName

theorem sort_perm (filters : List Filter) : (sort filters).Perm filters :=
  List.mergeSort_perm _ _

/-- A value is converted before anything changes. -/
theorem run_assign (f : Filter) (input : Input) :
    (assign input).run.run f =
      match f.valueOf input with
      | .ok value? => (.ok (), { f with input, value? })
      | .error e => (.error e, f) := by
  have reads : (assign input).run.run f = StateT.run (ExceptT.run do
      let value? ← liftExcept (f.valueOf input)
      modify ({ · with input })
      modify ({ · with value? })) f := rfl
  rw [reads]
  cases f.valueOf input <;> rfl

theorem set_eq_map_valueOf (f : Filter) (input : Input) :
    f.set input = (f.valueOf input).map fun value? => { f with input, value? } := by
  rw [set, InPlace.outcome, InPlace.after, run_assign]
  cases f.valueOf input <;> rfl

theorem allOrNothing_assign (f : Filter) (input : Input) : (assign input).AllOrNothing f := by
  intro e refused
  rw [InPlace.outcome, InPlace.after, run_assign] at refused
  rw [InPlace.after, run_assign]
  cases result : f.valueOf input with
  | error c => rfl
  | ok value? =>
    rw [result] at refused
    cases refused

@[simp]
theorem predicate?_clear (f : Filter) : f.clear.predicate? = none := rfl

theorem isSome_predicate? (f : Filter) : f.predicate?.isSome = f.isActive := by
  unfold predicate? isActive
  cases f.input.isEmpty <;> simp

end Filter

end StarSchema
