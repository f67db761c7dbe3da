import StarSchema.Binary64.Layout

/-!
# Formulas

A calculated field has a formula: at least two operands joined by arithmetic operations, to be
applied strictly from left to right.

Main definitions:

* `Formula`, `Operand`: a formula is a first operation on two operands, followed by further
  operations on the result so far;
* `Formula.fields`: the names it refers to;
* `Formula.text`: its written form.
-/

namespace StarSchema

/-- An arithmetic operation. -/
inductive Operation where
  | add
  | sub
  | mul
  | div
deriving DecidableEq

namespace Operation

def symbol : Operation → Char
  | .add => '+'
  | .sub => '-'
  | .mul => '*'
  | .div => '/'

def ofSymbol? : Char → Option Operation
  | '+' => some .add
  | '-' => some .sub
  | '*' => some .mul
  | '/' => some .div
  | _ => none

@[simp]
theorem ofSymbol?_symbol (op : Operation) : ofSymbol? op.symbol = some op := by
  cases op <;> rfl

theorem ofSymbol?_eq_some_iff {c : Char} {op : Operation} :
    ofSymbol? c = some op ↔ c = op.symbol := by
  constructor
  · intro h
    unfold ofSymbol? at h
    split at h <;> simp_all [symbol] <;> subst h <;> rfl
  · rintro rfl
    exact ofSymbol?_symbol op

end Operation

mutual

/-- What stands between operations. -/
inductive Operand where
  /-- A field, by its display name. -/
  | field (name : String)
  | number (x : Binary64)
  /-- A formula in parentheses. -/
  | group (f : Formula)

/-- A formula reads from the left: `step f op b` applies `op` to the value of all of `f`. -/
inductive Formula where
  | pair (a : Operand) (op : Operation) (b : Operand)
  | step (f : Formula) (op : Operation) (b : Operand)

end

mutual

/-- The names in an operand, in order of appearance. -/
def Operand.fields : Operand → List String
  | .field name => [name]
  | .number _ => []
  | .group f => f.fields

/-- The names in a formula, in order of appearance and with repetitions. -/
def Formula.fields : Formula → List String
  | .pair a _ b => a.fields ++ b.fields
  | .step f _ b => f.fields ++ b.fields

end

mutual

/-- Whether every number in an operand is finite. -/
def Operand.isFinite : Operand → Bool
  | .field _ => true
  | .number x => x.isFinite
  | .group f => f.isFinite

/-- Whether every number in a formula is finite. -/
def Formula.isFinite : Formula → Bool
  | .pair a _ b => a.isFinite && b.isFinite
  | .step f _ b => f.isFinite && b.isFinite

end

/-- The operations of the outermost level, from left to right. -/
def Formula.operations : Formula → List Operation
  | .pair _ op _ => [op]
  | .step f op _ => f.operations ++ [op]

/-- An operation between blanks. -/
def Operation.text (op : Operation) : List Char :=
  [' ', op.symbol, ' ']

mutual

/-- The written form of an operand. -/
def Operand.text : Operand → List Char
  | .field name => '[' :: name.toList ++ [']']
  | .number x => x.display
  | .group f => '(' :: f.text ++ [')']

/-- The written form of a formula. -/
def Formula.text : Formula → List Char
  | .pair a op b => a.text ++ op.text ++ b.text
  | .step f op b => f.text ++ op.text ++ b.text

end

end StarSchema
