import StarSchema.Proofs.Sql.Arithmetic

/-!
# Reading expressions

An expression is written with the parentheses of its tree and no others. A reader has nothing but
the levels of the operators to go by, so that a tree comes back from its text only if each operator
stands where its level keeps it together.

```
AND  <  comparison and LIKE  <  concatenation  <  + and -  <  * and /  <  everything else
 0               1                    2             3            4               5
```

## The reader

Operators that wait for their right operand stand on a list, each with its left operand, the last
one first. A new operator takes the present operand away from those that bind less tightly and ends
those that do not. A parenthesis, an argument and a pattern start lists of their own; what they are
part of waits in a frame.

Main definitions: `Expr.level`, `Expr.WellParenthesised`, `Expr.Readable`, `Expr.identified`,
`Dialect.readExpr?`.
-/

namespace StarSchema.Sql

/-! ### Where operators may stand -/

theorem BinaryOp.level_lt_five (op : BinaryOp) : op.level < 5 := by
  cases op <;> decide

/-- How tightly the outermost construct of an expression binds. -/
def Expr.level : Expr → Nat
  | .binary op _ _ => op.level
  | .like _ _ _ _ => 1
  | _ => 5

def Expr.isConcat : Expr → Bool
  | .binary .concat _ _ => true
  | _ => false

def Expr.isLike : Expr → Bool
  | .like _ _ _ _ => true
  | _ => false

/-- The operator may stand between the operands without parentheses around them: operators of one
level group to the left, comparisons do not group at all, and a concatenation only takes another
one on its left. -/
structure BinaryOp.Admits (op : BinaryOp) (left right : Expr) : Prop where
  level_le : op.level ≤ left.level
  level_lt : op.level < right.level
  comparison : op.level = 1 → 1 < left.level
  concat : op = .concat → (left.level = 5 ∨ left.isConcat = true) ∧ right.level = 5

mutual

/-- Every operator stands where its level keeps it together with its operands. -/
def Expr.WellParenthesised : Expr → Prop
  | .column _ _ => True
  | .literal _ => True
  | .binary op left right =>
    op.Admits left right ∧ left.WellParenthesised ∧ right.WellParenthesised
  | .call _ args => Expr.WellParenthesisedArgs args
  | .like subject pattern _ _ =>
    1 < subject.level ∧ 1 < pattern.level ∧ subject.WellParenthesised ∧ pattern.WellParenthesised
  | .dateOf e => e.WellParenthesised
  | .paren e => e.WellParenthesised

def Expr.WellParenthesisedArgs : List Expr → Prop
  | [] => True
  | e :: es => e.WellParenthesised ∧ Expr.WellParenthesisedArgs es

end

instance (op : BinaryOp) (left right : Expr) : Decidable (op.Admits left right) :=
  decidable_of_iff
    (op.level ≤ left.level ∧ op.level < right.level ∧ (op.level = 1 → 1 < left.level) ∧
      (op = .concat → (left.level = 5 ∨ left.isConcat = true) ∧ right.level = 5))
    ⟨fun ⟨h₁, h₂, h₃, h₄⟩ => ⟨h₁, h₂, h₃, h₄⟩, fun ⟨h₁, h₂, h₃, h₄⟩ => ⟨h₁, h₂, h₃, h₄⟩⟩

mutual

instance Expr.decidableWellParenthesised : (e : Expr) → Decidable e.WellParenthesised
  | .column _ _ => inferInstanceAs (Decidable True)
  | .literal _ => inferInstanceAs (Decidable True)
  | .binary op left right =>
    have := left.decidableWellParenthesised
    have := right.decidableWellParenthesised
    inferInstanceAs
      (Decidable (op.Admits left right ∧ left.WellParenthesised ∧ right.WellParenthesised))
  | .call _ args => Expr.decidableWellParenthesisedArgs args
  | .like subject pattern _ _ =>
    have := subject.decidableWellParenthesised
    have := pattern.decidableWellParenthesised
    inferInstanceAs
      (Decidable (1 < subject.level ∧ 1 < pattern.level ∧ subject.WellParenthesised ∧
        pattern.WellParenthesised))
  | .dateOf e => e.decidableWellParenthesised
  | .paren e => e.decidableWellParenthesised

instance Expr.decidableWellParenthesisedArgs :
    (es : List Expr) → Decidable (Expr.WellParenthesisedArgs es)
  | [] => inferInstanceAs (Decidable True)
  | e :: es =>
    have := e.decidableWellParenthesised
    have := Expr.decidableWellParenthesisedArgs es
    inferInstanceAs (Decidable (e.WellParenthesised ∧ Expr.WellParenthesisedArgs es))

end

/-! ### What can be told apart in a text -/

/-- A number is finite and a date is a day of the calendar; any other literal is free. -/
def Literal.Readable : Literal → Prop
  | .float x => x.isFinite = true
  | .date s => ∃ day : Date, s = String.ofList day.text
  | _ => True

def aggregateFunctions : List String :=
  ["COUNT", "SUM", "AVG"]

mutual

/-- Literals are readable and functions are aggregates; names and strings are free. -/
def Expr.Readable : Expr → Prop
  | .column _ _ => True
  | .literal l => l.Readable
  | .binary _ left right => left.Readable ∧ right.Readable
  | .call function args => function ∈ aggregateFunctions ∧ Expr.ReadableArgs args
  | .like subject pattern _ _ => subject.Readable ∧ pattern.Readable
  | .dateOf e => e.Readable
  | .paren e => e.Readable

def Expr.ReadableArgs : List Expr → Prop
  | [] => True
  | e :: es => e.Readable ∧ Expr.ReadableArgs es

end

/-- The literal that is taken for all those that a dialect spells alike. -/
def Literal.identified (d : Dialect) : Literal → Literal
  | .bool b =>
    match d with
    | .duckdb | .postgres => .bool b
    | _ => .int (if b then 1 else 0)
  | .date s =>
    match d with
    | .duckdb | .postgres => .date s
    | _ => .string s
  | l => l

/-- T-SQL spells concatenation as a sum. -/
def BinaryOp.identified (d : Dialect) : BinaryOp → BinaryOp
  | .concat =>
    match d with
    | .tsql => .plus
    | _ => .concat
  | op => op

mutual

/-- The expression without the differences that a dialect does not spell. -/
def Expr.identified (d : Dialect) : Expr → Expr
  | .column t c => .column t c
  | .literal l => .literal (l.identified d)
  | .binary op left right =>
    .binary (op.identified d) (left.identified d) (right.identified d)
  | .call function args => .call function (Expr.identifiedArgs d args)
  | .like subject pattern escape negated =>
    .like (subject.identified d) (pattern.identified d) escape negated
  | .dateOf e => .dateOf (e.identified d)
  | .paren e => .paren (e.identified d)

def Expr.identifiedArgs (d : Dialect) : List Expr → List Expr
  | [] => []
  | e :: es => e.identified d :: Expr.identifiedArgs d es

end

/-! ### The reader -/

/-- Operators that wait for their right operand, each with its left one, the last one first. -/
abbrev Waiting := List (Expr × BinaryOp)

/-- What an open construct is part of. -/
inductive Frame where
  | group (before : Waiting)
  | call (before : Waiting) (function : String) (args : List Expr)
  | cast (before : Waiting)
  | pattern (before : Waiting) (subject : Expr) (negated : Bool)

/-- Ends the operators that bind at least as tightly as a level. -/
def reduce (level : Nat) : Waiting → Expr → Waiting × Expr
  | [], e => ([], e)
  | (left, op) :: ws, e =>
    if level ≤ op.level then reduce level ws (.binary op left e) else ((left, op) :: ws, e)

/-- The operand where no operator takes it further. -/
def finish (ws : Waiting) (e : Expr) : Expr :=
  (reduce 0 ws e).2

def Lexeme.operator? : Lexeme → Option BinaryOp
  | .symbol .eq => some .eq
  | .symbol .ne => some .ne
  | .symbol .lt => some .lt
  | .symbol .gt => some .gt
  | .symbol .le => some .le
  | .symbol .ge => some .ge
  | .symbol .plus => some .plus
  | .symbol .minus => some .minus
  | .symbol .times => some .times
  | .symbol .divide => some .divide
  | .bars => some .concat
  | .word w => if w = "AND" then some .and else none
  | _ => none

/-- A number with a point or with a power of ten is a float. -/
def numberLiteral? (s : List Char) : Option Literal :=
  match Numeral.integer? s with
  | some n => some (.int n)
  | none => (Numeral.decimal? s).map .float

def wordLiteral? (w : String) : Option Literal :=
  if w = "NULL" then some .null
  else if w = "true" then some (.bool true)
  else if w = "false" then some (.bool false)
  else none

/-- What a call means where the dialect has a function for it. -/
def Dialect.application (d : Dialect) (function : String) (args : List Expr) : Expr :=
  match d, function, args with
  | .mysql, "CONCAT", [left, right] => .binary .concat left right
  | .sqlite, "DATE", [e] => .dateOf e
  | _, _, _ => .call function args

mutual

/-- Reads on where an operand is due. -/
def readTerm (d : Dialect) : List Lexeme → List Frame → Waiting → Option Expr
  | .number s :: ls, stack, ws =>
    match numberLiteral? s.toList with
    | some l => readAfter d ls stack ws (.literal l)
    | none => none
  | .string s :: ls, stack, ws => readAfter d ls stack ws (.string s)
  | .name t :: .symbol .dot :: .name c :: ls, stack, ws => readAfter d ls stack ws (.column t c)
  | .symbol .leftParen :: ls, stack, ws => readTerm d ls (.group ws :: stack) []
  | .symbol .rightParen :: ls, .call ws function [] :: stack, [] =>
    readAfter d ls stack ws (d.application function [])
  | .word w :: ls, stack, ws =>
    match wordLiteral? w with
    | some l => readAfter d ls stack ws (.literal l)
    | none =>
      match ls with
      | .symbol .leftParen :: ls =>
        readTerm d ls ((if w = "CAST" then .cast ws else .call ws w []) :: stack) []
      | .string s :: ls =>
        if w = "DATE" then readAfter d ls stack ws (.literal (.date s)) else none
      | _ => none
  | _, _, _ => none

/-- Reads on after an operand. -/
def readAfter (d : Dialect) : List Lexeme → List Frame → Waiting → Expr → Option Expr
  | [], [], ws, e => some (finish ws e)
  | .symbol .rightParen :: ls, .group before :: stack, ws, e =>
    readAfter d ls stack before (.paren (finish ws e))
  | .symbol .rightParen :: ls, .call before function args :: stack, ws, e =>
    readAfter d ls stack before (d.application function (args ++ [finish ws e]))
  | .symbol .comma :: ls, .call before function args :: stack, ws, e =>
    readTerm d ls (.call before function (args ++ [finish ws e]) :: stack) []
  | .word "AS" :: .word "DATE" :: .symbol .rightParen :: ls, .cast before :: stack, ws, e =>
    readAfter d ls stack before (.dateOf (finish ws e))
  | .word "LIKE" :: ls, stack, ws, e =>
    readTerm d ls (.pattern (reduce 1 ws e).1 (reduce 1 ws e).2 false :: stack) []
  | .word "NOT" :: .word "LIKE" :: ls, stack, ws, e =>
    readTerm d ls (.pattern (reduce 1 ws e).1 (reduce 1 ws e).2 true :: stack) []
  | .word "ESCAPE" :: .string s :: ls, .pattern before subject negated :: stack, ws, e =>
    match s.toList with
    | [c] =>
      if 1 < (finish ws e).level then
        readAfter d ls stack before (.like subject (finish ws e) c negated)
      else none
    | _ => none
  | l :: ls, stack, ws, e =>
    match l.operator? with
    | some op =>
      -- what ends with a pattern is no operand of an operator that binds more tightly
      if (reduce op.level ws e).2.isLike = true ∧ 1 < op.level then none
      else readTerm d ls stack (((reduce op.level ws e).2, op) :: (reduce op.level ws e).1)
    | none => none
  | _, _, _, _ => none

end

/-- The tree that a whole text is read as. -/
def Dialect.readExpr? (d : Dialect) (text : String) : Option Expr :=
  (lex d.lexicalRules text.toList).bind fun ls => readTerm d ls [] []

end StarSchema.Sql
