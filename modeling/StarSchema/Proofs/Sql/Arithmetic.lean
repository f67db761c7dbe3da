import StarSchema.Formula.Sql
import StarSchema.Proofs.Binary64.ReadBack
import StarSchema.Proofs.Sql.Legible

/-!
# Reading arithmetic

How a database groups a chain of operations: multiplication and division bind more tightly than
addition and subtraction, operators that bind equally group to the left, and parentheses group.
A number is read as the double nearest to it.

The reader takes the lexemes one by one. Of what stands before it, it holds the tree of each
parenthesis that is still open, with the operator that waits for its right operand.

Main definitions: `BinaryOp.level`, `Expr.attach`, `readOperand`, `Dialect.readArithmetic?`,
`Expr.Computed`, `Expr.reread`.

Main result: `readArithmetic?_sql`.
-/

namespace StarSchema.Sql

/-! ### The rules -/

/-- How tightly an operator binds. -/
def BinaryOp.level : BinaryOp → Nat
  | .and => 0
  | .eq | .ne | .lt | .gt | .le | .ge => 1
  | .concat => 2
  | .plus | .minus => 3
  | .times | .divide => 4

def Symbol.arithmetic? : Symbol → Option BinaryOp
  | .plus => some .plus
  | .minus => some .minus
  | .times => some .times
  | .divide => some .divide
  | _ => none

/-- A tree with one more operation after it. The operator takes its left operand away from an
operator that binds less tightly. -/
def Expr.attach : Expr → BinaryOp → Expr → Expr
  | .binary op' l r, op, e =>
    if op'.level < op.level then .binary op' l (r.attach op e)
    else .binary op (.binary op' l r) e
  | l, op, e => .binary op l e

/-- What stands before an operand within its parentheses: nothing, or a tree and an operator. -/
abbrev Pending := Option (Expr × BinaryOp)

/-- The tree with the operand that it waited for. -/
def Pending.complete : Pending → Expr → Expr
  | none, e => e
  | some (l, op), e => l.attach op e

mutual

/-- Reads on where an operand is due. -/
def readOperand : List Lexeme → List Pending → Pending → Option Expr
  | .number s :: ls, stack, before =>
    match Numeral.decimal? s.toList with
    | some x => readOperator ls stack (before.complete (.float x))
    | none => none
  | .name t :: .symbol .dot :: .name c :: ls, stack, before =>
    readOperator ls stack (before.complete (.column t c))
  | .symbol .leftParen :: ls, stack, before => readOperand ls (before :: stack) none
  | _, _, _ => none

/-- Reads on after an operand. -/
def readOperator : List Lexeme → List Pending → Expr → Option Expr
  | [], [], e => some e
  | .symbol .rightParen :: ls, before :: stack, e =>
    readOperator ls stack (before.complete (.paren e))
  | .symbol s :: ls, stack, e =>
    match s.arithmetic? with
    | some op => readOperand ls stack (some (e, op))
    | none => none
  | _, _, _ => none

end

/-- The tree that a whole text is read as. -/
def Dialect.readArithmetic? (d : Dialect) (text : String) : Option Expr :=
  (lex d.lexicalRules text.toList).bind fun ls => readOperand ls [] none

/-! ### What is written for a calculated field -/

/-- The expressions that formulas become: columns, finite numbers, and operations whose left
operand is no operation, unless in parentheses. -/
inductive Expr.Computed : Expr → Prop where
  | column (t c : String) : Computed (.column t c)
  | float {x : Binary64} (finite : x.isFinite = true) : Computed (.float x)
  | operation (op : Operation) {left right : Expr} (grouped : left.grouped = left)
      (hleft : left.Computed) (hright : right.Computed) :
      Computed (.binary op.binaryOp left right)
  | paren {e : Expr} (he : e.Computed) : Computed (.paren e)

/-- The tree that an expression is read as after what stands before it. -/
def Expr.reread : Expr → Pending → Expr
  | .binary op left right, before => right.reread (some (left.reread before, op))
  | .paren e, before => before.complete (.paren (e.reread none))
  | e, before => before.complete e

theorem exists_symbol_binaryOp (op : Operation) :
    ∃ s : Symbol, op.binaryOp.token = .symbol s ∧ s.arithmetic? = some op.binaryOp := by
  cases op <;> exact ⟨_, rfl, rfl⟩

theorem readOperator_symbol {s : Symbol} {op : BinaryOp} (h : s.arithmetic? = some op)
    (ls : List Lexeme) (stack : List Pending) (e : Expr) :
    readOperator (.symbol s :: ls) stack e = readOperand ls stack (some (e, op)) := by
  cases s with
  | plus | minus | times | divide =>
    cases h
    rfl
  | _ => cases h

theorem Expr.Computed.plain {e : Expr} (h : e.Computed) : e.Plain := by
  induction h with
  | column | float => simp [Expr.Plain, Expr.float, Literal.Plain]
  | operation _ _ _ _ hleft hright => exact (by simpa [Expr.Plain] using ⟨hleft, hright⟩)
  | paren _ he => simpa [Expr.Plain] using he

theorem readOperand_float {x : Binary64} (finite : x.isFinite = true) (d : Dialect)
    (ls : List Lexeme) (stack : List Pending) (before : Pending) :
    readOperand (Token.lexemes d (.float x) ++ ls) stack before =
      readOperator ls stack (before.complete (.float x)) := by
  obtain ⟨s, literal⟩ : ∃ s, x.sqlLiteral? = some s := by
    cases x with
    | finite => exact ⟨_, rfl⟩
    | nan | infinity => cases finite
  rw [Token.lexemes, literal, List.singleton_append, readOperand, String.toList_ofList,
    Binary64.decimal?_sqlLiteral? literal]

/-- Reading the lexemes of an expression, wherever they stand, gives its tree. -/
theorem readOperand_tokens {e : Expr} (h : e.Computed) (d : Dialect) (ls : List Lexeme)
    (stack : List Pending) (before : Pending) :
    readOperand ((e.tokens d).flatMap (Token.lexemes d) ++ ls) stack before =
      readOperator ls stack (e.reread before) := by
  induction h generalizing ls stack before with
  | column t c => simp [Expr.tokens, Token.lexemes, readOperand, Expr.reread]
  | float finite =>
    rw [Expr.float, Expr.tokens, List.flatMap_singleton]
    exact readOperand_float finite d ls stack before
  | operation op grouped _ _ hleft hright =>
    obtain ⟨s, token, operator⟩ := exists_symbol_binaryOp op
    have notConcat : op.binaryOp ≠ .concat := by cases op <;> decide
    rw [Expr.tokens, if_neg (fun h => notConcat h.1), List.flatMap_append, List.append_assoc,
      hleft, token, Expr.reread, ← hright]
    exact readOperator_symbol operator _ _ _
  | @paren e _ he =>
    have inside := he (.symbol .rightParen :: ls) (before :: stack) none
    rw [Expr.tokens, Token.parenthesized, List.flatMap_append, List.append_assoc, Expr.reread]
    exact inside

/-- **The text of a computed expression is read as a tree.** -/
theorem readArithmetic?_sql {e : Expr} (h : e.Computed) (d : Dialect) :
    d.readArithmetic? (e.sql d) = some (e.reread none) := by
  have lexed := e.legible_tokens (d := d) h.plain [] seam_nil
  have read := readOperand_tokens h d [] [] none
  rw [List.append_nil, lex_nil] at lexed
  rw [Dialect.readArithmetic?, Expr.sql, render, String.toList_ofList, lexed]
  exact read

end StarSchema.Sql
