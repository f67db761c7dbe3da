import StarSchema.Sql.Quoted
import StarSchema.Value.Basic

/-!
# SQL dialects

The five dialects differ in how they spell a name, a literal, a type, a concatenation, a date
and a row cap. A `Spelling` collects these decisions, and each dialect has one.

Main definitions:

* `Dialect`, `Spelling`, `Dialect.spelling`;
* `Dialect.quotedName`, `Dialect.quotedString`, `Dialect.dateLiteral`;
* `Dialect.read`: a dialect by one of its names.
-/

namespace StarSchema.Sql

inductive Dialect where
  | duckdb
  | postgres
  | sqlite
  | mysql
  | tsql
deriving DecidableEq, Inhabited

/-- The clause that caps the number of rows. -/
inductive RowCap where
  /-- `LIMIT n`. -/
  | limit
  /-- `OFFSET 0 ROWS FETCH NEXT n ROWS ONLY`, which needs an order before it. -/
  | fetchNext
deriving DecidableEq

/-- How the text of a date literal stands in its quotes. -/
inductive DateQuoting where
  /-- The keyword `DATE` and the text as it stands. -/
  | keyword
  /-- The text as it stands. -/
  | bare
  /-- As a string literal. -/
  | string
deriving DecidableEq

/-- The decisions of a dialect. -/
structure Spelling where
  name : String
  /-- The characters around a name. The closing one is doubled inside. -/
  nameQuotes : Char × Char
  /-- Whether a backslash in a string literal is an escape and has to be doubled. -/
  escapesBackslash : Bool
  /-- Whether a string beyond ASCII is marked with an `N`. -/
  marksNational : Bool
  dates : DateQuoting
  true? : String
  false? : String
  rowCap : RowCap
  concatOperator : String
  /-- Whether concatenation is the function `CONCAT` and not an operator. -/
  concatIsFunction : Bool
  /-- The function that takes the day of a point in time; without one it is a cast. -/
  dateFunction? : Option String
  hasIfNotExists : Bool
  columnType : DataType → String

/-- The column types of standard SQL. -/
def standardColumnType : DataType → String
  | .bool => "BOOLEAN"
  | .int => "BIGINT"
  | .float => "DOUBLE PRECISION"
  | .str => "TEXT"
  | .date => "DATE"

namespace Spelling

def postgres : Spelling where
  name := "postgres"
  nameQuotes := ('"', '"')
  escapesBackslash := false
  marksNational := false
  dates := .keyword
  true? := "true"
  false? := "false"
  rowCap := .limit
  concatOperator := "||"
  concatIsFunction := false
  dateFunction? := none
  hasIfNotExists := true
  columnType := standardColumnType

def duckdb : Spelling :=
  { postgres with
    name := "duckdb"
    columnType := fun
      | .float => "DOUBLE"
      | .str => "VARCHAR"
      | t => standardColumnType t }

def sqlite : Spelling :=
  { postgres with
    name := "sqlite"
    dates := .string
    true? := "1"
    false? := "0"
    dateFunction? := some "DATE"
    columnType := fun
      | .int => "INTEGER"
      | .float => "REAL"
      | t => standardColumnType t }

def mysql : Spelling :=
  { postgres with
    name := "mysql"
    nameQuotes := ('\x60', '\x60')
    escapesBackslash := true
    dates := .string
    true? := "1"
    false? := "0"
    concatIsFunction := true
    columnType := fun
      | .bool => "TINYINT(1)"
      | .float => "DOUBLE"
      | t => standardColumnType t }

def tsql : Spelling :=
  { postgres with
    name := "tsql"
    nameQuotes := ('[', ']')
    marksNational := true
    dates := .bare
    true? := "1"
    false? := "0"
    rowCap := .fetchNext
    concatOperator := "+"
    hasIfNotExists := false
    columnType := fun
      | .bool => "BIT"
      | .float => "FLOAT"
      | .str => "NVARCHAR(MAX)"
      | t => standardColumnType t }

/-- A name between the quotes of the dialect. -/
def quotedName (d : Spelling) (s : List Char) : List Char :=
  Quoted.enclose d.nameQuotes.1 d.nameQuotes.2 s

/-- A text as a string literal. -/
def quotedString (d : Spelling) (s : List Char) : List Char :=
  let escaped := if d.escapesBackslash then Quoted.doubled '\\' s else s
  let quoted := Quoted.enclose '\'' '\'' escaped
  if d.marksNational && s.any (fun c => 128 ≤ c.toNat) then 'N' :: quoted else quoted

/-- A text as a date literal. -/
def dateLiteral (d : Spelling) (s : List Char) : List Char :=
  match d.dates with
  | .keyword => "DATE ".toList ++ Quoted.bare s
  | .bare => Quoted.bare s
  | .string => d.quotedString s

def boolLiteral (d : Spelling) (b : Bool) : String :=
  if b then d.true? else d.false?

end Spelling

namespace Dialect

def all : List Dialect := [.duckdb, .postgres, .sqlite, .mysql, .tsql]

def spelling : Dialect → Spelling
  | .duckdb => .duckdb
  | .postgres => .postgres
  | .sqlite => .sqlite
  | .mysql => .mysql
  | .tsql => .tsql

def name (d : Dialect) : String :=
  d.spelling.name

/-- The dialect of exactly the given name. -/
def ofName? (name : String) : Option Dialect :=
  all.find? fun d => d.name == name

end Dialect

/-- A name that no dialect has. -/
structure UnknownDialect where
  given : String
deriving DecidableEq

def UnknownDialect.message (e : UnknownDialect) : String :=
  "Unsupported dialect: " ++ e.given

namespace Dialect

/-- The lower case of a letter, as far as it is in ASCII: of the letters beyond ASCII only the
Kelvin sign has an ASCII letter as its lower case. -/
def lowerLetter (c : Char) : Char :=
  if c = '\u212A' then 'k' else c.toLower

/-- The names a user may give, in lower case. -/
def aliases : List (String × Dialect) :=
  all.map (fun d => (d.name, d)) ++
    [("postgresql", .postgres), ("mssql", .tsql), ("sqlserver", .tsql)]

/-- The dialect that a user names, in any letter case. -/
def read (name : String) : Except UnknownDialect Dialect :=
  match aliases.lookup (name.map lowerLetter) with
  | some d => .ok d
  | none => .error ⟨name⟩

end Dialect

end StarSchema.Sql
