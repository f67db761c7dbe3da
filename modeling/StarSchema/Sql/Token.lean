import StarSchema.Sql.Dialect
import StarSchema.Text.UpperCase

/-!
# SQL tokens

A statement is a list of tokens, with its blanks, and only a token's text depends on the dialect.

Main definitions: `Keyword`, `Symbol`, `Token`, `Token.chars`, `render`.
-/

namespace StarSchema.Sql

inductive Keyword where
  | select | from | where | and | not | as | on | left | outer | join | groupBy | orderBy
  | asc | desc | limit | offset | fetch | next | rows | only | like | escape | cast
  | create | table | primary | key | references | default | if | exists
  | insert | into | values | update | set | delete
deriving DecidableEq

inductive Symbol where
  | comma | dot | leftParen | rightParen
  | eq | ne | lt | gt | le | ge | plus | minus | times | divide
deriving DecidableEq

inductive Token where
  | keyword (k : Keyword)
  | symbol (s : Symbol)
  /-- The operator that concatenates texts. -/
  | concat
  | space
  | newline
  | indent (depth : Nat)
  | name (s : String)
  | int (n : Int64)
  | float (x : Binary64)
  | string (s : String)
  | bool (b : Bool)
  | date (s : String)
  | null
  | columnType (t : DataType)
  | function (f : String)
deriving DecidableEq

namespace Keyword

def all : List Keyword :=
  [.select, .from, .where, .and, .not, .as, .on, .left, .outer, .join, .groupBy, .orderBy,
    .asc, .desc, .limit, .offset, .fetch, .next, .rows, .only, .like, .escape, .cast,
    .create, .table, .primary, .key, .references, .default, .if, .exists,
    .insert, .into, .values, .update, .set, .delete]

def text : Keyword → String
  | .select => "SELECT"
  | .from => "FROM"
  | .where => "WHERE"
  | .and => "AND"
  | .not => "NOT"
  | .as => "AS"
  | .on => "ON"
  | .left => "LEFT"
  | .outer => "OUTER"
  | .join => "JOIN"
  | .groupBy => "GROUP BY"
  | .orderBy => "ORDER BY"
  | .asc => "ASC"
  | .desc => "DESC"
  | .limit => "LIMIT"
  | .offset => "OFFSET"
  | .fetch => "FETCH"
  | .next => "NEXT"
  | .rows => "ROWS"
  | .only => "ONLY"
  | .like => "LIKE"
  | .escape => "ESCAPE"
  | .cast => "CAST"
  | .create => "CREATE"
  | .table => "TABLE"
  | .primary => "PRIMARY"
  | .key => "KEY"
  | .references => "REFERENCES"
  | .default => "DEFAULT"
  | .if => "IF"
  | .exists => "EXISTS"
  | .insert => "INSERT"
  | .into => "INTO"
  | .values => "VALUES"
  | .update => "UPDATE"
  | .set => "SET"
  | .delete => "DELETE"

end Keyword

def Symbol.text : Symbol → String
  | .comma => ","
  | .dot => "."
  | .leftParen => "("
  | .rightParen => ")"
  | .eq => "="
  | .ne => "<>"
  | .lt => "<"
  | .gt => ">"
  | .le => "<="
  | .ge => ">="
  | .plus => "+"
  | .minus => "-"
  | .times => "*"
  | .divide => "/"

/-- The text of a token. No dialect has a literal for a number that is not finite, so it is
null. -/
def Token.chars (d : Dialect) : Token → List Char
  | .keyword k => k.text.toList
  | .symbol s => s.text.toList
  | .concat => d.spelling.concatOperator.toList
  | .space => [' ']
  | .newline => ['\n']
  | .indent depth => List.replicate (2 * depth) ' '
  | .name s => d.spelling.quotedName s.toList
  | .int n => Numeral.ofInt n.toInt
  | .float x => x.sqlLiteral?.getD "NULL".toList
  | .string s => d.spelling.quotedString s.toList
  | .bool b => (d.spelling.boolLiteral b).toList
  | .date s => d.spelling.dateLiteral s.toList
  | .null => "NULL".toList
  | .columnType t => (d.spelling.columnType t).toList
  | .function f => Text.upper f.toList

/-- The text of a list of tokens. -/
def render (d : Dialect) (ts : List Token) : String :=
  String.ofList (ts.flatMap (Token.chars d))

namespace Token

/-- A keyword in front of something else. -/
def before (k : Keyword) (ts : List Token) : List Token :=
  .keyword k :: .space :: ts

/-- Keywords with blanks between them and after them. -/
def phrase (ks : List Keyword) (ts : List Token) : List Token :=
  ks.foldr before ts

def parenthesized (ts : List Token) : List Token :=
  .symbol .leftParen :: ts ++ [.symbol .rightParen]

/-- Items on one line, with commas between them. -/
def commaList (items : List (List Token)) : List Token :=
  List.intercalate [.symbol .comma, .space] items

/-- Items on lines of their own, indented, with commas at the line ends. -/
def commaLines (items : List (List Token)) : List Token :=
  List.intercalate [.symbol .comma] (items.map fun ts => .newline :: .indent 1 :: ts)

end Token

end StarSchema.Sql
