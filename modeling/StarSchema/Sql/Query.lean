import StarSchema.Sql.Expr

/-!
# Queries

A query selects from one table, joins others to it such that no row of the first is lost, and
may be grouped, ordered and capped.

Main definitions: `Query`, `Query.tokens`, `Query.sql`, `Dialect.rowCapTokens`.
-/

namespace StarSchema.Sql

/-- An item of the projection, perhaps under another name. -/
structure SelectItem where
  expr : Expr
  alias? : Option String

/-- A left outer join. -/
structure Join where
  table : String
  on : Expr

structure SortKey where
  expr : Expr
  direction : SortDirection

structure Query where
  select : List SelectItem := []
  from? : Option String := none
  joins : List Join := []
  where? : Option Expr := none
  groupBy : List Expr := []
  orderBy : List SortKey := []
  limit? : Option UInt64 := none

/-- The clause that caps the rows. The cap is written as the signed number of the same 64
bits. -/
def Dialect.rowCapTokens (d : Dialect) (cap : UInt64) : List Token :=
  let n := .int cap.toInt64
  match d.spelling.rowCap with
  | .limit => Token.before .limit [n]
  | .fetchNext =>
    Token.before .offset (.int 0 :: .space :: Token.phrase [.rows, .fetch, .next]
      (n :: .space :: Token.before .rows [.keyword .only]))

def SelectItem.tokens (d : Dialect) (item : SelectItem) : List Token :=
  item.expr.tokens d ++
    match item.alias? with
    | some name => .space :: Token.before .as [.name name]
    | none => []

def Join.tokens (d : Dialect) (j : Join) : List Token :=
  Token.phrase [.left, .outer, .join] (.name j.table :: .space :: Token.before .on (j.on.tokens d))

def SortKey.tokens (d : Dialect) (k : SortKey) : List Token :=
  k.expr.tokens d ++ [.space, .keyword k.direction.keyword]

namespace Query

/-- The order of the rows. Where a cap needs an order and the query has none, the order is by a
constant, which leaves it open. -/
def orderTokens (d : Dialect) (q : Query) : List Token :=
  if !q.orderBy.isEmpty then
    .newline :: Token.before .orderBy (Token.commaList (q.orderBy.map (SortKey.tokens d)))
  else if q.limit?.isSome && d.spelling.rowCap = .fetchNext then
    .newline :: Token.before .orderBy (Token.parenthesized (Token.before .select [.null]))
  else []

/-- The tokens of a query in a dialect, one clause on a line. -/
def tokens (d : Dialect) (q : Query) : List Token :=
  .keyword .select :: Token.commaLines (q.select.map (SelectItem.tokens d)) ++
    (match q.from? with
      | some table => .newline :: Token.before .from [.name table]
      | none => []) ++
    q.joins.flatMap (fun j => .newline :: j.tokens d) ++
    (match q.where? with
      | some e => .newline :: Token.before .where (e.tokens d)
      | none => []) ++
    (if q.groupBy.isEmpty then []
      else .newline :: Token.before .groupBy (Token.commaList (q.groupBy.map (Expr.tokens d)))) ++
    q.orderTokens d ++
    (match q.limit? with
      | some cap => .newline :: d.rowCapTokens cap
      | none => [])

/-- The text of a query in a dialect. -/
def sql (q : Query) (d : Dialect) : String :=
  render d (q.tokens d)

end Query

end StarSchema.Sql
