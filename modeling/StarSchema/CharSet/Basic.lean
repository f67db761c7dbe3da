/-!
# Sets of characters

A set of characters is a list of ranges of code points, sorted and with a gap between any two.
Characters are numbered as in Unicode; the code points of surrogates are no characters, so the
one after `D7FF` is `E000`.

Main definitions:

* `CharRange`, `CharSet`, `CharSet.mem`;
* `CharSet.ofRanges`: the set with some ranges, in any order;
* the operations `complement`, `union`, `inter`, `diff` and `symmDiff`.
-/

namespace StarSchema

/-- The code points from a first to a last one. -/
structure CharRange where
  first : Nat
  last : Nat
deriving DecidableEq

namespace CharRange

def mem (r : CharRange) (n : Nat) : Bool :=
  r.first ≤ n && n ≤ r.last

/-- The range between two ends, in either order. -/
def ofEnds (a b : Nat) : CharRange := ⟨min a b, max a b⟩

/-- The greatest code point. -/
def maxCodePoint : Nat := 0x10FFFF

/-- The code point of the next character. -/
def succ (n : Nat) : Nat := if n = 0xD7FF then 0xE000 else n + 1

/-- The code point of the character before. -/
def pred (n : Nat) : Nat := if n = 0xE000 then 0xD7FF else n - 1

/-- Sorted ranges, those joined that overlap or meet. -/
def join : List CharRange → List CharRange
  | r :: s :: rest =>
    if s.first ≤ r.last + 1 then join (⟨r.first, max r.last s.last⟩ :: rest)
    else r :: join (s :: rest)
  | [] => []
  | [r] => [r]
termination_by rs => rs.length

/-- What lies behind a range, up to the greatest code point, and is in no later range. -/
def gapsAfter : CharRange → List CharRange → List CharRange
  | r, [] => if r.last < maxCodePoint then [⟨succ r.last, maxCodePoint⟩] else []
  | r, s :: rest => ofEnds (succ r.last) (pred s.first) :: gapsAfter s rest

/-- The common parts of sorted ranges. -/
def inter : List CharRange → List CharRange → List CharRange
  | r :: rs, s :: ss =>
    let rest := if r.last < s.last then inter rs (s :: ss) else inter (r :: rs) ss
    if max r.first s.first ≤ min r.last s.last then
      ⟨max r.first s.first, min r.last s.last⟩ :: rest
    else rest
  | _, _ => []
termination_by rs ss => rs.length + ss.length

/-- What sorted ranges leave of a range. -/
def diff (r : CharRange) : List CharRange → List CharRange
  | [] => [r]
  | s :: ss =>
    if s.last < r.first then diff r ss
    else if r.last < s.first then [r]
    else
      (if r.first < s.first then [⟨r.first, pred s.first⟩] else []) ++
        (if s.last < r.last then diff ⟨succ s.last, r.last⟩ ss else [])

end CharRange

/-- A set of characters. -/
structure CharSet where
  ranges : List CharRange
deriving DecidableEq

namespace CharSet

/-- Whether a character is in the set. -/
def mem (s : CharSet) (c : Char) : Bool :=
  s.ranges.any (·.mem c.toNat)

def empty : CharSet := ⟨[]⟩

/-- All characters. -/
def all : CharSet := ⟨[⟨0, CharRange.maxCodePoint⟩]⟩

/-- The set with some ranges, in any order. -/
def ofRanges (ranges : List CharRange) : CharSet :=
  ⟨CharRange.join (ranges.mergeSort fun r s => r.first ≤ s.first)⟩

/-- The characters from a first to a last one. -/
def range (first last : Char) : CharSet := ⟨[⟨first.toNat, last.toNat⟩]⟩

def single (c : Char) : CharSet := range c c

/-- The set with some ranges of characters. -/
def ofPairs (pairs : List (Char × Char)) : CharSet :=
  ofRanges (pairs.map fun (first, last) => ⟨first.toNat, last.toNat⟩)

def union (s t : CharSet) : CharSet := ofRanges (s.ranges ++ t.ranges)

/-- The union of a list of sets. -/
def unions (sets : List CharSet) : CharSet := ofRanges (sets.flatMap ranges)

def inter (s t : CharSet) : CharSet := ⟨CharRange.inter s.ranges t.ranges⟩

def diff (s t : CharSet) : CharSet := ⟨s.ranges.flatMap (·.diff t.ranges)⟩

/-- The characters in one of two sets only. -/
def symmDiff (s t : CharSet) : CharSet := (s.union t).diff (s.inter t)

/-- The characters that are not in the set. -/
def complement (s : CharSet) : CharSet :=
  match s.ranges with
  | [] => all
  | r :: rest =>
    ⟨(if 0 < r.first then [⟨0, CharRange.pred r.first⟩] else []) ++ r.gapsAfter rest⟩

/-- The only character of a set that has just one. -/
def only? (s : CharSet) : Option Char :=
  match s.ranges with
  | [r] => if r.first = r.last then some (Char.ofNat r.first) else none
  | _ => none

def isAscii (s : CharSet) : Bool := s.ranges.all (·.last < 128)

/-! ### Letter case in ASCII -/

/-- The set with all its characters moved by a distance. -/
def shift (distance : Int) (s : CharSet) : CharSet :=
  ⟨s.ranges.map fun r => ⟨(r.first + distance).toNat, (r.last + distance).toNat⟩⟩

/-- The set with the ASCII letters that differ from one of its own in letter case only. -/
def anyAsciiCase (s : CharSet) : CharSet :=
  unions [s, ((range 'A' 'Z').inter s).shift 32, ((range 'a' 'z').inter s).shift (-32)]

/-! ### Sets of ASCII characters -/

def asciiDigit : CharSet := range '0' '9'

def asciiBlank : CharSet := ofPairs [('\t', '\r'), (' ', ' ')]

def asciiWord : CharSet := ofPairs [('0', '9'), ('A', 'Z'), ('_', '_'), ('a', 'z')]

/-- The named classes of ASCII characters. -/
def asciiClasses : List (String × List (Char × Char)) := [
  ("alnum", [('0', '9'), ('A', 'Z'), ('a', 'z')]),
  ("alpha", [('A', 'Z'), ('a', 'z')]),
  ("ascii", [('\x00', '\x7f')]),
  ("blank", [('\t', '\t'), (' ', ' ')]),
  ("cntrl", [('\x00', '\x1f'), ('\x7f', '\x7f')]),
  ("digit", [('0', '9')]),
  ("graph", [('!', '~')]),
  ("lower", [('a', 'z')]),
  ("print", [(' ', '~')]),
  ("punct", [('!', '/'), (':', '@'), ('[', '\x60'), ('\x7b', '~')]),
  ("space", [('\t', '\r'), (' ', ' ')]),
  ("upper", [('A', 'Z')]),
  ("word", [('0', '9'), ('A', 'Z'), ('_', '_'), ('a', 'z')]),
  ("xdigit", [('0', '9'), ('A', 'F'), ('a', 'f')])]

/-- The class of ASCII characters with a given name. -/
def asciiClass? (name : String) : Option CharSet :=
  (asciiClasses.lookup name).map ofPairs

end CharSet

end StarSchema
