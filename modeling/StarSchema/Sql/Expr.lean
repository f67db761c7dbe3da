import StarSchema.Sql.Token

/-!
# SQL expressions

Main definitions:

* `Expr`: columns, literals, operators, function calls, and the few forms that dialects spell in
  their own way;
* `Expr.tokens`: an expression as a dialect writes it. Parentheses stand where the tree has
  them and nowhere else.
-/

namespace StarSchema.Sql

inductive Literal where
  | int (n : Int64)
  | float (x : Binary64)
  | string (s : String)
  | bool (b : Bool)
  | date (s : String)
  | null
deriving DecidableEq

inductive BinaryOp where
  | eq | ne | lt | gt | le | ge
  | and
  | plus | minus | times | divide
  | concat
deriving DecidableEq

inductive Expr where
  | column (table column : String)
  | literal (l : Literal)
  | binary (op : BinaryOp) (left right : Expr)
  | call (function : String) (args : List Expr)
  /-- A text matches a pattern, in which the escape character makes the next one literal. -/
  | like (subject pattern : Expr) (escape : Char) (negated : Bool)
  /-- The day of a point in time. -/
  | dateOf (e : Expr)
  | paren (e : Expr)

inductive SortDirection where
  | asc
  | desc
deriving DecidableEq, Inhabited

namespace SortDirection

def name : SortDirection → String
  | .asc => "asc"
  | .desc => "desc"

/-- The direction of a given name; names are in lower case. -/
def ofName? (name : String) : Option SortDirection :=
  [asc, desc].find? fun d => d.name == name

def keyword : SortDirection → Keyword
  | .asc => .asc
  | .desc => .desc

end SortDirection

def Literal.token : Literal → Token
  | .int n => .int n
  | .float x => .float x
  | .string s => .string s
  | .bool b => .bool b
  | .date s => .date s
  | .null => .null

def BinaryOp.token : BinaryOp → Token
  | .eq => .symbol .eq
  | .ne => .symbol .ne
  | .lt => .symbol .lt
  | .gt => .symbol .gt
  | .le => .symbol .le
  | .ge => .symbol .ge
  | .and => .keyword .and
  | .plus => .symbol .plus
  | .minus => .symbol .minus
  | .times => .symbol .times
  | .divide => .symbol .divide
  | .concat => .concat

namespace Expr

instance : Inhabited Expr := ⟨.literal .null⟩

/-- A function applied to arguments that are written already. -/
def callTokens (function : String) (args : List (List Token)) : List Token :=
  .function function :: Token.parenthesized (Token.commaList args)

mutual

/-- The tokens of an expression in a dialect. -/
def tokens (d : Dialect) : Expr → List Token
  | .column t c => [.name t, .symbol .dot, .name c]
  | .literal l => [l.token]
  | .binary op left right =>
    if op = .concat ∧ d.spelling.concatIsFunction = true then
      callTokens "CONCAT" [left.tokens d, right.tokens d]
    else left.tokens d ++ .space :: op.token :: .space :: right.tokens d
  | .call function args => callTokens function (argTokens d args)
  | .like subject pattern escape negated =>
    subject.tokens d ++ (if negated then [.space, .keyword .not] else []) ++
      .space :: .keyword .like :: .space :: pattern.tokens d ++
      [.space, .keyword .escape, .space, .string (String.singleton escape)]
  | .dateOf e =>
    match d.spelling.dateFunction? with
    | some function => callTokens function [e.tokens d]
    | none =>
      .keyword .cast ::
        Token.parenthesized (e.tokens d ++ [.space, .keyword .as, .space, .columnType .date])
  | .paren e => Token.parenthesized (e.tokens d)

/-- The tokens of each argument of a call. -/
def argTokens (d : Dialect) : List Expr → List (List Token)
  | [] => []
  | e :: es => e.tokens d :: argTokens d es

end

/-- The text of an expression in a dialect. -/
def sql (e : Expr) (d : Dialect) : String :=
  render d (e.tokens d)

def int (n : Int64) : Expr := .literal (.int n)

def float (x : Binary64) : Expr := .literal (.float x)

def string (s : String) : Expr := .literal (.string s)

def null : Expr := .literal .null

def and (e f : Expr) : Expr := .binary .and e f

def count (e : Expr) : Expr := .call "COUNT" [e]

def sum (e : Expr) : Expr := .call "SUM" [e]

def avg (e : Expr) : Expr := .call "AVG" [e]

/-- The conjunction of conditions, grouped to the left; none without any. -/
def conjunction? : List Expr → Option Expr
  | [] => none
  | e :: es => some (es.foldl and e)

end Expr

/-- The literal of a value. -/
def Expr.ofValue : Value → Expr
  | .bool b => .literal (.bool b)
  | .date d => .literal (.date (String.ofList d.text))
  | .float x => .float x
  | .int n => .int n
  | .str s => .string s

/-- The literal of a value, null for an absent one. -/
def Expr.ofValue? : Option Value → Expr
  | none => .null
  | some v => .ofValue v

end StarSchema.Sql
