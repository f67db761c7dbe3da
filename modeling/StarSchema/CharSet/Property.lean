import StarSchema.CharSet.Age
import StarSchema.CharSet.Break

/-!
# Properties by name

A set of characters may be given by the name of a property that a character has or has not, by
the name of a category or a script, or by the name of a property and one of its values.

Main definitions: `CharSet.property?`, `CharSet.propertyValue?`.
-/

namespace StarSchema.CharSet

/-- A name of a property in lower case, without blanks, underscores, hyphens and characters
beyond ASCII, and without the letters `is` at its front. -/
def plainName (s : List Char) : String :=
  let lower := s.map Char.toLower
  let isMarked := lower.take 2 == ['i', 's']
  let body := (if isMarked then lower.drop 2 else lower).filter fun c =>
    c != ' ' && c != '_' && c != '-' && c.toNat < 128
  if isMarked && body == ['c'] then "isc" else String.ofList body

/-- The set of a property, a category or a script. Three names of categories are also names of
properties with values of another kind; they stand for the categories. -/
def property? (name : List Char) : Option CharSet :=
  let name := plainName name
  (derived? name).or ((given? name).or ((category? name).or (script? name)))

/-- The set of the characters with a given value of a property. -/
def propertyValue? (name value : List Char) : Option CharSet :=
  let value := plainName value
  match plainName name with
  | "gc" | "generalcategory" => category? value
  | "sc" | "script" => script? value
  | "scx" | "scriptextensions" => scriptExtension? value
  | "age" => age? value
  | "gcb" | "graphemeclusterbreak" => graphemeBreak? value
  | "wb" | "wordbreak" => wordBreak? value
  | "sb" | "sentencebreak" => sentenceBreak? value
  | _ => none

end StarSchema.CharSet
