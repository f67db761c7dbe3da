import StarSchema.Formula.Basic
import StarSchema.Text.Blank
import StarSchema.Text.Numeral

/-!
# Reading formulas

The grammar, with blanks allowed around every operand and every operation:

```
formula  := operand (operation operand)+
operand  := '[' characters other than ']' ']' | '-'? digits ('.' digits)? | '(' formula ')'
```

A minus sign is an operation where one may stand, and a sign where an operand is due; no other
choice has to be made, so each text has at most one reading.

Main definitions: `readOperand?`, `readFormula?`, `Formula.parse`, `FormulaError`.
-/

namespace StarSchema

/-- Why a text is no formula. -/
inductive FormulaError.Reason where
  | malformed
  | outOfRange
deriving DecidableEq

/-- A text that is no formula. -/
structure FormulaError where
  source : String
  reason : FormulaError.Reason
deriving DecidableEq

namespace FormulaError

/-- A malformed text is reported without details. -/
def Reason.message : Reason → String
  | .malformed => "<syntax>"
  | .outOfRange => "numeric literal is out of range"

def message (e : FormulaError) : String :=
  "Invalid formula '" ++ e.source ++ "': " ++ e.reason.message

end FormulaError

/-! ### Operands without an inner formula

Each reader takes its part from the front of a text and returns it with the rest. -/

/-- The characters of which a number between brackets is written. -/
def isNumeralChar (c : Char) : Bool :=
  c.isDigit || c == '-' || c == '.'

/-- The number or the field that the text between brackets stands for: a number if the trimmed
text is a numeral of digits, minus signs and points only. -/
def Operand.ofBracketed (contents : List Char) : Operand :=
  let name := Text.trim contents
  match Numeral.decimal? name with
  | some x => if name.all isNumeralChar then .number x else .field (String.ofList name)
  | none => .field (String.ofList name)

/-- The text between brackets, after the opening one. -/
def readBracketed? (s : List Char) : Option (Operand × List Char) :=
  let contents := s.takeWhile (· != ']')
  match s.dropWhile (· != ']') with
  | _ :: rest => if contents.isEmpty then none else some (.ofBracketed contents, rest)
  | [] => none

/-- A point with digits after it; a point without digits is left where it is. -/
def readPlaces (s : List Char) : List Char × List Char :=
  match s with
  | '.' :: t =>
    let (places, rest) := Numeral.spanDigits t
    if places.isEmpty then ([], s) else (places, rest)
  | _ => ([], s)

/-- A number without its sign. -/
def readUnsigned? (negative : Bool) (s : List Char) : Option (Operand × List Char) :=
  let (whole, afterWhole) := Numeral.spanDigits s
  if whole.isEmpty then none
  else
    let (places, rest) := readPlaces afterWhole
    let x := Binary64.ofDecimal negative (Numeral.natOfDigits (whole ++ places)) (-places.length)
    some (.number x, rest)

/-- A number. -/
def readNumber? : List Char → Option (Operand × List Char)
  | '-' :: s => readUnsigned? true s
  | s => readUnsigned? false s

/-- An operation and the blanks around it. -/
def readOperation? (s : List Char) : Option (Operation × List Char) :=
  match Text.skipBlanks s with
  | c :: rest => (Operation.ofSymbol? c).map (·, Text.skipBlanks rest)
  | [] => none

/-! ### Formulas

The first argument bounds the depth of the calls; twice the length of the text is enough, since
of two nested calls at most one leaves the text as long as it was. -/

mutual

/-- An operand and the blanks around it. -/
def readOperand? : Nat → List Char → Option (Operand × List Char)
  | 0, _ => none
  | n + 1, s =>
    match Text.skipBlanks s with
    | '[' :: t => (readBracketed? t).map fun (a, rest) => (a, Text.skipBlanks rest)
    | '(' :: t =>
      match readFormula? n t with
      | some (f, ')' :: rest) => some (.group f, Text.skipBlanks rest)
      | _ => none
    | t => (readNumber? t).map fun (a, rest) => (a, Text.skipBlanks rest)

/-- Two operands with an operation between them, and as many further ones as follow. -/
def readFormula? : Nat → List Char → Option (Formula × List Char)
  | 0, _ => none
  | n + 1, s => do
    let (a, s₁) ← readOperand? n s
    let (op, s₂) ← readOperation? s₁
    let (b, s₃) ← readOperand? n s₂
    return extendFormula n (.pair a op b) s₃

/-- A formula continued by the operations that follow it. -/
def extendFormula : Nat → Formula → List Char → Formula × List Char
  | 0, f, s => (f, s)
  | n + 1, f, s =>
    match readOperation? s with
    | none => (f, s)
    | some (op, s₁) =>
      match readOperand? n s₁ with
      | none => (f, s)
      | some (b, s₂) => extendFormula n (.step f op b) s₂

end

/-- The formula that a whole text spells. -/
def Formula.read? (s : List Char) : Option Formula :=
  match readFormula? (2 * s.length + 2) s with
  | some (f, []) => some f
  | _ => none

/-- The formula that a text spells. A number too large to be finite is refused. -/
def Formula.parse (source : String) : Except FormulaError Formula :=
  match Formula.read? source.toList with
  | none => .error ⟨source, .malformed⟩
  | some f => if f.isFinite then .ok f else .error ⟨source, .outOfRange⟩

end StarSchema
