import StarSchema.CharSet.Basic

/-!
# Sets of characters as runs

A table of characters is written as runs of code points, separated by blanks: `41-5A` is a run,
`B5` a single one, and `101-135/2` is every second one of a run. All numbers are hexadecimal.

Main definition: `CharSet.ofRuns`.
-/

namespace StarSchema

/-- The value of a hexadecimal digit. -/
def hexValue? (c : Char) : Option Nat :=
  if c.isDigit then some (c.toNat - '0'.toNat)
  else if 'a' ≤ c ∧ c ≤ 'f' then some (c.toNat - 'a'.toNat + 10)
  else if 'A' ≤ c ∧ c ≤ 'F' then some (c.toNat - 'A'.toNat + 10)
  else none

/-- The value of hexadecimal digits; there has to be one at least. -/
def hex? (s : List Char) : Option Nat :=
  if s.isEmpty then none
  else s.foldlM (fun n c => (hexValue? c).map (16 * n + ·)) 0

namespace CharSet

/-- The number before the first occurrence of a character, and the number after it. -/
def splitNumber (c : Char) (s : List Char) : Option Nat × Option Nat :=
  (hex? (s.takeWhile (· != c)), hex? ((s.dropWhile (· != c)).drop 1))

/-- The ranges of one run: every `step`-th code point is a range of its own, unless that is
each. -/
def rangesOfRun (s : List Char) : List CharRange :=
  let (first?, last?) := splitNumber '-' (s.takeWhile (· != '/'))
  match first?, (splitNumber '/' s).2 with
  | none, _ => []
  | some first, none => [⟨first, last?.getD first⟩]
  | some first, some step =>
    (List.range ((last?.getD first - first) / step + 1)).map fun i =>
      ⟨first + step * i, first + step * i⟩

/-- The set of a table. -/
def ofRuns (table : String) : CharSet :=
  ofRanges ((table.splitOn " ").flatMap fun s => rangesOfRun s.toList)

/-- The set with one of some names in a list of tables. The names of a table stand before it,
separated by blanks. -/
def named? (tables : List (String × String)) (name : String) : Option CharSet :=
  (tables.find? fun (names, _) => (names.splitOn " ").contains name).map fun (_, table) =>
    ofRuns table

end CharSet

end StarSchema
