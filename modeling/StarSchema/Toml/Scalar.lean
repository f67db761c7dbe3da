import StarSchema.Calendar
import StarSchema.Toml.Node

/-!
# Scalars without quotes

Integers, floats, truth values, dates and times, as TOML writes them.

Main definition: `Toml.scalar?`.
-/

namespace StarSchema.Toml

/-- Digits in which single underscores may stand between two digits, without them. -/
def digits? (isDigit : Char → Bool) : List Char → Option (List Char)
  | [] => none
  | [c] => if isDigit c then some [c] else none
  | c :: '_' :: s => if isDigit c then (digits? isDigit s).map (c :: ·) else none
  | c :: s => if isDigit c then (digits? isDigit s).map (c :: ·) else none

/-- The value of a digit of a base up to sixteen. -/
def digitOf (c : Char) : Nat :=
  if c.isDigit then c.toNat - '0'.toNat else c.toLower.toNat - 'a'.toNat + 10

def isHexDigit (c : Char) : Bool :=
  c.isDigit || ('a' ≤ c && c ≤ 'f') || ('A' ≤ c && c ≤ 'F')

/-- A number in a base, by its digits. -/
def inBase (base : Nat) (s : List Char) : Nat :=
  s.foldl (fun n c => base * n + digitOf c) 0

/-- Decimal digits without a zero in front of others. -/
def decimalDigits? (s : List Char) : Option (List Char) := do
  let digits ← digits? Char.isDigit s
  match digits with
  | '0' :: _ :: _ => none
  | _ => some digits

/-- An integer: decimal with an optional sign, or in another base without one. -/
def integer? (s : List Char) : Option Int :=
  match s with
  | '0' :: 'x' :: t => (digits? isHexDigit t).map fun ds => (inBase 16 ds : Int)
  | '0' :: 'o' :: t => (digits? (fun c => '0' ≤ c && c ≤ '7') t).map fun ds => (inBase 8 ds : Int)
  | '0' :: 'b' :: t => (digits? (fun c => c == '0' || c == '1') t).map fun ds => (inBase 2 ds : Int)
  | _ =>
    let (negative, body) := Numeral.splitSign s
    (decimalDigits? body).map fun ds =>
      if negative then -(inBase 10 ds : Int) else (inBase 10 ds : Int)

/-- The exponent of a float: a sign and digits. -/
def exponent? (s : List Char) : Option Int :=
  let (negative, body) := Numeral.splitSign s
  (digits? Char.isDigit body).map fun ds =>
    if negative then -(inBase 10 ds : Int) else (inBase 10 ds : Int)

/-- A float: an integer with a fraction, an exponent or both, or a named number. Digits that
stand for a number beyond the largest float are refused; only the name writes an infinity. -/
def float? (s : List Char) : Option Binary64 :=
  let (negative, body) := Numeral.splitSign s
  if body = "inf".toList then some (.infinity negative)
  else if body = "nan".toList then some .nan
  else do
    let isE (c : Char) := c == 'e' || c == 'E'
    let mantissa := body.takeWhile (!isE ·)
    let power ← match body.dropWhile (!isE ·) with
      | [] => some 0
      | _ :: t => exponent? t
    let whole ← decimalDigits? (mantissa.takeWhile (· != '.'))
    let places ← match mantissa.dropWhile (· != '.') with
      | [] => some []
      | _ :: t => digits? Char.isDigit t
    let x := Binary64.ofDecimal negative (inBase 10 (whole ++ places)) (power - places.length)
    if x.isFinite then some x else none

/-- Two digits of a number within bounds, and what follows. -/
def twoDigits? (low high : Nat) : List Char → Option (Nat × List Char)
  | a :: b :: s =>
    let n := inBase 10 [a, b]
    if a.isDigit && b.isDigit && low ≤ n && n ≤ high then some (n, s) else none
  | _ => none

/-- The fraction of a second, and what follows. -/
def afterFraction? : List Char → Option (List Char)
  | '.' :: s => if (s.takeWhile Char.isDigit).isEmpty then none else some (s.dropWhile Char.isDigit)
  | s => some s

/-- What follows a time of day, which may go without seconds. -/
def afterTime? (s : List Char) : Option (List Char) := do
  let (_, s) ← twoDigits? 0 23 s
  let ':' :: s := s | none
  let (_, s) ← twoDigits? 0 59 s
  let ':' :: s := s | some s
  let (_, s) ← twoDigits? 0 60 s
  afterFraction? s

/-- A distance from universal time. -/
def isOffset : List Char → Bool
  | [] => true
  | ['Z'] => true
  | ['z'] => true
  | sign :: s =>
    (sign == '+' || sign == '-') &&
      match twoDigits? 0 23 s with
      | some (_, ':' :: t) => ((twoDigits? 0 59 t).map (·.2.isEmpty)).getD false
      | _ => false

/-- What follows a date, which names a day of the calendar. -/
def afterDate? (s : List Char) : Option (List Char) := do
  let (y, m, d) ← Date.parts? s
  let _ ← Date.ofParts? y m d
  return s.drop 10

/-- A date, a time of day or both. -/
def isMoment (s : List Char) : Bool :=
  match afterDate? s with
  | some [] => true
  | some (c :: t) =>
    (c == 'T' || c == 't' || c == ' ') && ((afterTime? t).map isOffset).getD false
  | none => ((afterTime? s).map List.isEmpty).getD false

/-- The integers that a document can hold. -/
def inRange (n : Int) : Bool :=
  -(Nat.pow 2 127 : Nat) ≤ n && n < (Nat.pow 2 128 : Nat)

/-- A scalar without quotes. -/
def scalar? (s : List Char) : Option Node :=
  if s = "true".toList then some (.bool true)
  else if s = "false".toList then some (.bool false)
  else match integer? s with
    | some n => if inRange n then some (.int n) else none
    | none =>
      match float? s with
      | some x => some (.float x)
      | none => if isMoment s then some .moment else none

end StarSchema.Toml
