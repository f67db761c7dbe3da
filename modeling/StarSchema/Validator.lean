import StarSchema.Declaration.Basic
import StarSchema.Text.Blank

/-!
# Validators

A validator accepts or refuses the value of a field before a row is written.

What a pattern is, and what matches it, is a matter of the library that patterns are compiled with,
and nothing is assumed of it.

Main definitions: `PatternEngine`, `Validator`, `Validator.ofDecl`, `Validator.objection?`,
`ValidatorError`.
-/

namespace StarSchema

/-- A library of patterns, as far as validators use it: it compiles the text of a pattern or refuses
it, and tells whether a compiled pattern matches somewhere in a text. -/
structure PatternEngine where
  Compiled : Type
  compile? : String → Option Compiled
  isMatch : Compiled → String → Bool

/-- A library whose patterns are made of letters and digits, each of which is found where it
occurs. -/
def PatternEngine.plain : PatternEngine where
  Compiled := List Char
  compile? source := if source.toList.all Char.isAlphanum then some source.toList else none
  isMatch p text := (List.range (text.length + 1)).any fun n => p.isPrefixOf (text.toList.drop n)

/-- A condition on values, ready to be checked. -/
inductive Validator where
  /-- A value is present and not blank. -/
  | required
  /-- A text has at most so many characters. -/
  | maxLength (max : UInt64)
  /-- A number lies between bounds, themselves included. -/
  | range (min? max? : Option Binary64)
  /-- A text that is not empty matches somewhere. -/
  | pattern (source : String) (isMatch : String → Bool) (message? : Option String)

/-- Why a declared condition is none. -/
inductive ValidatorError where
  | malformedPattern
  | emptyRange (min max : Binary64)
deriving DecidableEq

/-- The text of a number within a message. -/
def numberText (x : Binary64) : String :=
  String.ofList x.display

/-- A malformed pattern is reported without details. -/
def ValidatorError.message : ValidatorError → String
  | .malformedPattern => "<regex>"
  | .emptyRange min max =>
    "range minimum " ++ numberText min ++ " exceeds maximum " ++ numberText max

namespace Validator

/-- The validator of a declaration. -/
def ofDecl (engine : PatternEngine) : ValidatorDecl → Except ValidatorError Validator
  | .required => .ok .required
  | .maxLength max => .ok (.maxLength max)
  | .range min? max? =>
    match min?, max? with
    | some min, some max =>
      if max.lt min then .error (.emptyRange min max) else .ok (.range min? max?)
    | _, _ => .ok (.range min? max?)
  | .pattern source message? =>
    match engine.compile? source with
    | some compiled => .ok (.pattern source (engine.isMatch compiled) message?)
    | none => .error .malformedPattern

/-- The objection to a number out of range. -/
def rangeMessage : Option Binary64 → Option Binary64 → String
  | some min, some max => "must be between " ++ numberText min ++ " and " ++ numberText max
  | some min, none => "must be at least " ++ numberText min
  | none, some max => "must be at most " ++ numberText max
  | none, none => ""

/-- Whether a number lies outside the bounds that are given. NaN does not. -/
def isOutside (min? max? : Option Binary64) (x : Binary64) : Bool :=
  min?.any x.lt || max?.any (·.lt x)

/-- What there is to object to a value, if anything. -/
def objection? (v : Validator) (value? : Option Value) : Option String :=
  match v with
  | .required =>
    let isMissing := match value? with
      | none => true
      | some (.str s) => (Text.trim s.toList).isEmpty
      | some _ => false
    if isMissing then some "a value is required" else none
  | .maxLength max =>
    match value?.bind Value.string? with
    | some s =>
      if max.toNat < s.length then
        some ("must be at most " ++ String.ofList (Numeral.digitsOfNat max.toNat) ++ " characters")
      else none
    | none => none
  | .range min? max? =>
    match value?.bind Value.number? with
    | some x => if isOutside min? max? x then some (rangeMessage min? max?) else none
    | none => none
  | .pattern source isMatch message? =>
    match value?.bind Value.string? with
    | some s =>
      if s ≠ "" ∧ isMatch s = false then
        some (message?.getD ("must match '" ++ source ++ "'"))
      else none
    | none => none

end Validator

end StarSchema
