import StarSchema.Value.Convert

/-!
# Values as shown

`format` renders an input for display: it is converted first, so what a field cannot hold is
never shown.

Main definitions: `format`, `groupThousands`, `AmountStyle`.
-/

namespace StarSchema

/-- Digits with a comma before every group of three, counted from the end. -/
def groupThousands : List Char → List Char
  | [] => []
  | c :: rest =>
    if !rest.isEmpty && rest.length % 3 == 0 then c :: ',' :: groupThousands rest
    else c :: groupThousands rest

/-- What stands around an amount, by its sign. -/
structure AmountStyle where
  before : String
  beforeNegative : String
  afterNegative : String

namespace AmountStyle

/-- Amounts below zero in parentheses. -/
def accounting : AmountStyle := ⟨"", "(", ")"⟩

/-- A dollar sign, after the minus sign. -/
def currency : AmountStyle := ⟨"$", "-$", ""⟩

/-- A minus sign only. -/
def plain : AmountStyle := ⟨"", "-", ""⟩

end AmountStyle

/-- A number with two places and grouped thousands. A sign is written as the number has it, so
negative zero keeps its own. -/
def amount : Binary64 → List Char
  | .finite negative m e _ =>
    let (whole, places) := Binary64.twoPlaces m e
    Binary64.signText negative ++ groupThousands whole ++ '.' :: places
  | x => x.display

/-- An amount in a style. -/
def AmountStyle.render (style : AmountStyle) (x : Binary64) : String :=
  if x.isNegative then
    style.beforeNegative ++ String.ofList (amount x.neg) ++ style.afterNegative
  else style.before ++ String.ofList (amount x)

/-- An integer with grouped thousands. -/
def groupedInt (n : Int) : String :=
  let digits := groupThousands (Numeral.digitsOfNat n.natAbs)
  String.ofList (if n < 0 then '-' :: digits else digits)

/-- An amount style shows numbers; any other value has its plain text. -/
def Value.showAmount (style : AmountStyle) (v : Value) : String :=
  match v.number? with
  | some x => style.render x
  | none => v.text

/-- The integer that the integer format shows of a double: its integer part, kept within the
64-bit range. -/
def Binary64.shownInt (x : Binary64) : Int :=
  match x with
  | .infinity negative => if negative then minInt64 else maxInt64
  | x => max minInt64 (min x.truncate maxInt64)

/-- A converted value in a format. The time of day is shown where the input had one. -/
def Value.show (v : Value) (input : Input) : DisplayFormat → String
  | .accounting => v.showAmount .accounting
  | .currency => v.showAmount .currency
  | .float => v.showAmount .plain
  | .int =>
    match v with
    | .int n => groupedInt n.toInt
    | .float x => groupedInt x.shownInt
    | _ => v.text
  | .dateTime =>
    match input with
    | .dateTime t => String.ofList t.text
    | _ => v.text
  | .date | .bool | .str => v.text

/-- The text that shows an input as a value of a type, in a format or in the default format of
the type. -/
def format (dataType : DataType) (input : Input) (as? : Option DisplayFormat) :
    Except ConversionError (Option String) :=
  (convert dataType input).map fun value? =>
    value?.map fun v => v.show input (as?.getD dataType.defaultFormat)

end StarSchema
