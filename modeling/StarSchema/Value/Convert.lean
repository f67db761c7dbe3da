import StarSchema.Text.Blank
import StarSchema.Value.Basic

/-!
# Conversion of inputs to values

`convert` brings an input to a data type. Null stays absent; input that is present but empty
gives the empty value of the type; everything else has to denote a value of the type.

Main definitions: `convert`, `ConversionError`, `plainNumeral`.
-/

namespace StarSchema

/-- Why an input denotes no value of a type. -/
inductive ConversionError.Reason where
  | notANumber
  | notFinite
  | outOfRange
  | notABool
  | notADateText
  | notACalendarDate
deriving DecidableEq

/-- An input, by its text, that has no value of the wanted type. -/
structure ConversionError where
  dataType : DataType
  given : String
  reason : ConversionError.Reason
deriving DecidableEq

namespace ConversionError

def Reason.message : Reason → String
  | .notANumber => "not a number"
  | .notFinite => "not a finite number"
  | .outOfRange => "out of range"
  | .notABool => "expected true or false"
  | .notADateText => "expected YYYY-MM-DD"
  | .notACalendarDate => "not a calendar date"

def message (e : ConversionError) : String :=
  "Cannot convert '" ++ e.given ++ "' to " ++ e.dataType.name ++ ": " ++ e.reason.message

end ConversionError

/-- Present input that stands for nothing: blank text, zero, false. -/
def Input.isBlank : Input → Bool
  | .str s => (Text.trim s.toList).isEmpty
  | .int n => n == 0
  | .float x => x.isZero
  | .bool b => !b
  | _ => false

/-- The characters that decorate an amount and do not count. -/
def isDecoration (c : Char) : Bool :=
  c == ',' || c == '$' || c == ' '

/-- The contents of a text in parentheses. -/
def unparenthesized? : List Char → Option (List Char)
  | '(' :: s =>
    match s.getLast? with
    | some ')' => some s.dropLast
    | _ => none
  | _ => none

/-- An amount without its decoration. Parentheses around it make it negative. -/
def plainNumeral (s : List Char) : List Char :=
  let body := Text.trim s
  match unparenthesized? body with
  | some inner => '-' :: inner.filter (!isDecoration ·)
  | none => body.filter (!isDecoration ·)

/-- To the nearest hundredth. A number whose hundredfold is infinite has no fraction and stays. -/
def roundToCents (x : Binary64) : Binary64 :=
  let hundred := Binary64.ofInt 100
  let scaled := x.mul hundred
  if scaled.isFinite then scaled.roundHalfAway.div hundred else x

/-- The finite double that an input denotes. -/
def Input.toFloat (dataType : DataType) (input : Input) :
    Except ConversionError Binary64 :=
  let refuse reason := .error ⟨dataType, input.text, reason⟩
  let finite (x : Binary64) := if x.isFinite then .ok x else refuse .notFinite
  match input with
  | .float x => finite x
  | .int n => finite (.ofInt n.toInt)
  | .bool b => finite (if b then .one else .zero false)
  | .str s =>
    match Numeral.decimal? (plainNumeral s.toList) with
    | some x => finite x
    | none => refuse .notANumber
  | _ => refuse .notANumber

/-- The integer part of a double. The bounds are compared as doubles, where the upper one is
`2 ^ 63`; a number that reaches it becomes the greatest integer. -/
def Input.toIntByFloat (input : Input) : Except ConversionError Int64 := do
  let whole := (← input.toFloat .int).truncate
  if whole < minInt64 ∨ maxInt64 + 1 < whole then
    throw ⟨.int, input.text, .outOfRange⟩
  return Int64.ofInt (min whole maxInt64)

/-- The integer that an input denotes. A numeral that is no 64-bit integer is read as a double. -/
def Input.toInt (input : Input) : Except ConversionError Int64 :=
  match input with
  | .int n => .ok n
  | .bool b => .ok (if b then 1 else 0)
  | .float _ => input.toIntByFloat
  | .str s =>
    match Numeral.integer? (plainNumeral s.toList) with
    | some n => .ok n
    | none => input.toIntByFloat
  | _ => .error ⟨.int, input.text, .notANumber⟩

/-- Whether a word stands somewhere in a text. -/
def occursIn (word : List Char) : List Char → Bool
  | [] => word.isEmpty
  | c :: s => word.isPrefixOf (c :: s) || occursIn word s

/-- Whether a lower-case word stands somewhere in a text, letter case aside. -/
def mentions (word s : List Char) : Bool :=
  occursIn word (s.map Char.toLower)

/-- The truth value that an input denotes: the number one, or a text that mentions a truth value
in any letter case. No character outside ASCII has a letter of the two words as its lower case,
so ASCII case is enough. -/
def Input.toBool (input : Input) : Except ConversionError Bool :=
  let refuse := .error ⟨.bool, input.text, .notABool⟩
  match input with
  | .bool b => .ok b
  | .int n => if n = 1 then .ok true else refuse
  | .float x => if x = .one then .ok true else refuse
  | .str s =>
    if mentions "true".toList s.toList then .ok true
    else if mentions "false".toList s.toList then .ok false
    else refuse
  | _ => refuse

/-- The day that an input denotes. What follows the ten characters of a written date is
ignored. -/
def Input.toDate (input : Input) : Except ConversionError Date :=
  match input with
  | .date d => .ok d
  | .dateTime t => .ok t.date
  | .str s =>
    match Date.parts? (Text.trim s.toList) with
    | none => .error ⟨.date, input.text, .notADateText⟩
    | some (year, month, day) =>
      match Date.ofParts? year month day with
      | some d => .ok d
      | none => .error ⟨.date, input.text, .notACalendarDate⟩
  | _ => .error ⟨.date, input.text, .notADateText⟩

/-- The text of an input as a stored string: truth values are written as values. -/
def Input.toStr : Input → String
  | .bool b => (Value.bool b).text
  | input => input.text

/-- The value of a data type that an input denotes; absent for null. -/
def convert (dataType : DataType) (input : Input) : Except ConversionError (Option Value) :=
  if input.isNull then .ok none
  else if input.isBlank then .ok (Value.empty? dataType)
  else match dataType with
    | .int => input.toInt.map (some ∘ .int)
    | .float => (input.toFloat .float).map (some ∘ .float ∘ roundToCents)
    | .bool => input.toBool.map (some ∘ .bool)
    | .date => input.toDate.map (some ∘ .date)
    | .str => .ok (some (.str input.toStr))

@[simp]
theorem convert_null (dataType : DataType) : convert dataType .null = .ok none := rfl

end StarSchema
