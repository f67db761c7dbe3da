import StarSchema.Binary64.Layout
import StarSchema.Calendar

/-!
# Values and inputs

A field holds values of one of five types. Before it has been checked, a value is an *input*:
something a user typed, a default of the configuration, or a cell of a result row.

Main definitions:

* `DataType`, `DisplayFormat`: what a field stores and how it is shown;
* `Value`: a value of a data type, with its plain text `Value.text`;
* `Input`: an unchecked value, with its plain text `Input.text`.
-/

namespace StarSchema

/-- The types of stored values. -/
inductive DataType where
  | date
  | float
  | int
  | str
  | bool
deriving DecidableEq, Inhabited

/-- The ways a value is shown. -/
inductive DisplayFormat where
  | accounting
  | bool
  | currency
  | date
  | dateTime
  | float
  | int
  | str
deriving DecidableEq

namespace DataType

def all : List DataType := [.date, .float, .int, .str, .bool]

def name : DataType → String
  | .date => "date"
  | .float => "float"
  | .int => "int"
  | .str => "str"
  | .bool => "bool"

/-- The data type of a given name; names are in lower case. -/
def ofName? (name : String) : Option DataType :=
  all.find? fun t => t.name == name

/-- The format of a field that declares none. -/
def defaultFormat : DataType → DisplayFormat
  | .date => .date
  | .float => .float
  | .int => .int
  | .str => .str
  | .bool => .bool

def isNumeric : DataType → Bool
  | .int | .float => true
  | _ => false

end DataType

namespace DisplayFormat

def all : List DisplayFormat :=
  [.accounting, .bool, .currency, .date, .dateTime, .float, .int, .str]

def name : DisplayFormat → String
  | .accounting => "accounting"
  | .bool => "bool"
  | .currency => "currency"
  | .date => "date"
  | .dateTime => "datetime"
  | .float => "float"
  | .int => "int"
  | .str => "str"

/-- The format of a given name; names are in lower case. -/
def ofName? (name : String) : Option DisplayFormat :=
  all.find? fun f => f.name == name

/-- The data type of a field that declares only a format. -/
def dataType : DisplayFormat → DataType
  | .accounting | .currency | .float => .float
  | .bool => .bool
  | .date | .dateTime => .date
  | .int => .int
  | .str => .str

end DisplayFormat

/-- A value of one of the data types. -/
inductive Value where
  | bool (b : Bool)
  | date (d : Date)
  | float (x : Binary64)
  | int (n : Int64)
  | str (s : String)
deriving DecidableEq

/-- A value before it has been checked against a data type. -/
inductive Input where
  | null
  | bool (b : Bool)
  | int (n : Int64)
  | float (x : Binary64)
  | str (s : String)
  | date (d : Date)
  | dateTime (t : DateTime)
deriving DecidableEq, Inhabited

namespace Value

def dataType : Value → DataType
  | .bool _ => .bool
  | .date _ => .date
  | .float _ => .float
  | .int _ => .int
  | .str _ => .str

/-- The plain text of a value. -/
def text : Value → String
  | .bool true => "True"
  | .bool false => "False"
  | .date d => String.ofList d.text
  | .float x => String.ofList x.display
  | .int n => String.ofList (Numeral.ofInt n.toInt)
  | .str s => s

/-- The nearest double of a number. -/
def number? : Value → Option Binary64
  | .float x => some x
  | .int n => some (.ofInt n.toInt)
  | _ => none

def string? : Value → Option String
  | .str s => some s
  | _ => none

/-- The value that stands for input that is present but empty. A date has none. -/
def empty? : DataType → Option Value
  | .date => none
  | .float => some (.float (.zero false))
  | .int => some (.int 0)
  | .str => some (.str "")
  | .bool => some (.bool false)

/-- A value taken as input again. -/
def toInput : Value → Input
  | .bool b => .bool b
  | .date d => .date d
  | .float x => .float x
  | .int n => .int n
  | .str s => .str s

end Value

namespace Input

def isNull : Input → Bool
  | .null => true
  | _ => false

/-- Absent, or the empty text. -/
def isEmpty : Input → Bool
  | .null => true
  | .str s => s == ""
  | _ => false

/-- The plain text of an input. -/
def text : Input → String
  | .null => "None"
  | .bool true => "true"
  | .bool false => "false"
  | .int n => String.ofList (Numeral.ofInt n.toInt)
  | .float x => String.ofList x.display
  | .str s => s
  | .date d => String.ofList d.text
  | .dateTime t => String.ofList t.text

/-- An absent value is the null input. -/
def ofValue? : Option Value → Input
  | none => .null
  | some v => v.toInput

end Input

end StarSchema
