import StarSchema.CharSet.Derived

/-!
# Patterns

A pattern is matched anywhere in a text. Matching computes, for a set of places at which a part
of the pattern may start, the set of places at which it may end, so nothing is tried twice and
the number of steps is bounded by the pattern and the text.

Main definitions:

* `Pattern`, `Anchor`;
* `Pattern.ends`: the places that a pattern leads to;
* `Pattern.isMatch`: whether a text has a match.
-/

namespace StarSchema

/-- Conditions on a place between characters. -/
inductive Anchor where
  | textStart
  | textEnd
  /-- The start of a line; lines end with a line feed. -/
  | lineStart
  | lineEnd
  /-- The start of a line; lines end with a line feed, a carriage return or both. -/
  | lineStartCrlf
  | lineEndCrlf
  | wordBoundary (asciiOnly : Bool)
  | notWordBoundary (asciiOnly : Bool)
  | wordStart (asciiOnly : Bool)
  | wordEnd (asciiOnly : Bool)
  | wordStartHalf (asciiOnly : Bool)
  | wordEndHalf (asciiOnly : Bool)
deriving DecidableEq

inductive Pattern where
  | empty
  | text (s : List Char)
  | oneOf (s : CharSet)
  | anchor (a : Anchor)
  /-- A group with its number. -/
  | group (index : Nat) (p : Pattern)
  /-- At least `min` times, and at most `max` times if that is given. Whether more or fewer times
  are preferred does not change what matches, but patterns that differ in it are not alike. -/
  | repeat (p : Pattern) (min : Nat) (max : Option Nat) (greedy : Bool)
  /-- One after the other. -/
  | seq (ps : List Pattern)
  /-- One of several. -/
  | alt (ps : List Pattern)

/-- Whether a neighbour of a place is part of a word; the ends of the text are not. -/
def isWordSide (asciiOnly : Bool) : Option Char → Bool
  | none => false
  | some c => if asciiOnly then CharSet.asciiWord.mem c else CharSet.word.mem c

/-- Whether a place between two neighbours satisfies a condition. -/
def Anchor.holds (before after : Option Char) : Anchor → Bool
  | .textStart => before.isNone
  | .textEnd => after.isNone
  | .lineStart => before.isNone || before == some '\n'
  | .lineEnd => after.isNone || after == some '\n'
  | .lineStartCrlf =>
    before.isNone || before == some '\n' || (before == some '\r' && after != some '\n')
  | .lineEndCrlf =>
    after.isNone || after == some '\r' || (after == some '\n' && before != some '\r')
  | .wordBoundary ascii => isWordSide ascii before != isWordSide ascii after
  | .notWordBoundary ascii => isWordSide ascii before == isWordSide ascii after
  | .wordStart ascii => !isWordSide ascii before && isWordSide ascii after
  | .wordEnd ascii => isWordSide ascii before && !isWordSide ascii after
  | .wordStartHalf ascii => !isWordSide ascii before
  | .wordEndHalf ascii => !isWordSide ascii after

namespace Pattern

/-- A set of places in a text, from before its first character to after its last one. -/
abbrev Places := List Bool

/-- The neighbours of each place of a text. -/
def neighbours (before : Option Char) : List Char → List (Option Char × Option Char)
  | [] => [(before, none)]
  | c :: s => (before, some c) :: neighbours (some c) s

/-- The places one character further on, if that character satisfies a test. -/
def advance (test : Char → Bool) (text : List Char) (places : Places) : Places :=
  false :: List.zipWith (fun here c => here && test c) places text

/-- The places that satisfy a condition. -/
def restrict (a : Anchor) (text : List Char) (places : Places) : Places :=
  List.zipWith (fun here (sides : Option Char × Option Char) => here && a.holds sides.1 sides.2)
    places (neighbours none text)

def unite (places places' : Places) : Places :=
  List.zipWith (· || ·) places places'

/-- The places of the first set that are not in the second one. -/
def without (places places' : Places) : Places :=
  List.zipWith (fun here there => here && !there) places places'

/-- A number of steps one after the other. -/
def iterate (step : Places → Places) : Nat → Places → Places
  | 0, places => places
  | n + 1, places => if places.any id then iterate step n (step places) else places

/-- What at least one and at most a given number of steps reach. Only steps from places that
are new reach anything that no fewer steps do; `seen` are the places that have been stepped
from, and `reached` those that have been reached. -/
def reach (step : Places → Places) : Nat → Places → Places → Places → Places
  | 0, _, reached, _ => reached
  | n + 1, seen, reached, fresh =>
    if fresh.any id then
      let next := step fresh
      reach step n (unite seen next) (unite reached next) (without next seen)
    else reached

/-- What at least one and at most a given number of steps reach from some places. -/
def reachFrom (step : Places → Places) (most : Nat) (places : Places) : Places :=
  reach step most places (places.map fun _ => false) places

mutual

/-- The places where a match may end that starts at one of the given places. Without an upper
bound, as many steps as there are places reach all that any number of them would. -/
def ends (text : List Char) : Pattern → Places → Places
  | .empty, places => places
  | .text s, places => s.foldl (fun places c => advance (· == c) text places) places
  | .oneOf s, places => advance s.mem text places
  | .anchor a, places => restrict a text places
  | .group _ p, places => p.ends text places
  | .repeat p min max _, places =>
    match max, min with
    | some max, min =>
      let start := iterate (p.ends text) min places
      unite start (reachFrom (p.ends text) (max - min) start)
    | none, 0 => unite places (reachFrom (p.ends text) (text.length + 1) places)
    | none, min + 1 =>
      reachFrom (p.ends text) (text.length + 1) (iterate (p.ends text) min places)
  | .seq ps, places => endsOfSeq text ps places
  | .alt ps, places => endsOfAlt text ps places

/-- The places where matches of all patterns of a list end, one after the other. -/
def endsOfSeq (text : List Char) : List Pattern → Places → Places
  | [], places => places
  | p :: ps, places => endsOfSeq text ps (p.ends text places)

/-- The places where a match of one pattern of a list ends. -/
def endsOfAlt (text : List Char) : List Pattern → Places → Places
  | [], places => places.map fun _ => false
  | p :: ps, places => unite (p.ends text places) (endsOfAlt text ps places)

end

/-- Whether the pattern matches somewhere in a text. -/
def isMatch (p : Pattern) (text : List Char) : Bool :=
  (p.ends text (List.replicate (text.length + 1) true)).any id

end Pattern

end StarSchema
