import StarSchema.Sql.Expr

/-!
# Row and table statements

Main definitions: `Insert`, `Update`, `Delete`, `CreateTable`, each with its `tokens` and `sql`.
-/

namespace StarSchema.Sql

structure Insert where
  table : String
  columns : List String
  rows : List (List Expr)

structure Update where
  table : String
  set : List (String × Expr)
  where? : Option Expr

structure Delete where
  table : String
  where? : Option Expr

inductive ColumnConstraint where
  | primaryKey
  | references (table column : String)
deriving DecidableEq

structure ColumnDef where
  name : String
  dataType : DataType
  default? : Option Expr
  constraints : List ColumnConstraint

structure CreateTable where
  name : String
  ifNotExists : Bool
  columns : List ColumnDef

/-- A condition after a statement, on the same line. -/
def whereTokens (d : Dialect) : Option Expr → List Token
  | some e => .space :: Token.before .where (e.tokens d)
  | none => []

namespace Insert

def tokens (d : Dialect) (i : Insert) : List Token :=
  Token.phrase [.insert, .into] [.name i.table] ++
    (if i.columns.isEmpty then []
      else .space :: Token.parenthesized (Token.commaList (i.columns.map ([.name ·])))) ++
    (if i.rows.isEmpty then []
      else .space :: Token.before .values (Token.commaList
        (i.rows.map fun row => Token.parenthesized (Token.commaList (row.map (Expr.tokens d))))))

def sql (i : Insert) (d : Dialect) : String :=
  render d (i.tokens d)

end Insert

namespace Update

def tokens (d : Dialect) (u : Update) : List Token :=
  Token.before .update (.name u.table :: .space :: Token.before .set (Token.commaList
    (u.set.map fun (column, e) =>
      .name column :: .space :: .symbol .eq :: .space :: e.tokens d))) ++
    whereTokens d u.where?

def sql (u : Update) (d : Dialect) : String :=
  render d (u.tokens d)

end Update

namespace Delete

def tokens (d : Dialect) (x : Delete) : List Token :=
  Token.phrase [.delete, .from] [.name x.table] ++ whereTokens d x.where?

def sql (x : Delete) (d : Dialect) : String :=
  render d (x.tokens d)

end Delete

def ColumnConstraint.tokens : ColumnConstraint → List Token
  | .primaryKey => [.space, .keyword .primary, .space, .keyword .key]
  | .references table column =>
    .space :: Token.before .references (.name table :: Token.parenthesized [.name column])

def ColumnDef.tokens (d : Dialect) (c : ColumnDef) : List Token :=
  [.name c.name, .space, .columnType c.dataType] ++
    (match c.default? with
      | some e => .space :: Token.before .default (e.tokens d)
      | none => []) ++
    c.constraints.flatMap ColumnConstraint.tokens

namespace CreateTable

/-- The clause `IF NOT EXISTS` is left out where the dialect has none. -/
def tokens (d : Dialect) (t : CreateTable) : List Token :=
  [.keyword .create, .space, .keyword .table] ++
    (if t.ifNotExists && d.spelling.hasIfNotExists then
      [.space, .keyword .if, .space, .keyword .not, .space, .keyword .exists] else []) ++
    .space :: .name t.name :: .space ::
      Token.parenthesized (Token.commaLines (t.columns.map (ColumnDef.tokens d)) ++ [.newline])

def sql (t : CreateTable) (d : Dialect) : String :=
  render d (t.tokens d)

end CreateTable

end StarSchema.Sql
