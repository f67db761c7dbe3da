import StarSchema.Pattern.Basic

/-!
# Patterns from parts

A pattern is put together in a plain form: characters in sequence are one text, sequences and
alternatives are flat, alternatives that are characters or sets are one set, and what all
alternatives start with stands before them. The form decides how much room a pattern takes.

Main definitions: `Pattern.ofSet`, `Pattern.sequence`, `Pattern.repetition`,
`Pattern.alternation`.
-/

namespace StarSchema.Pattern

/-- The bytes of a code point in UTF-8. -/
def byteCount (n : Nat) : Nat :=
  if n < 0x80 then 1 else if n < 0x800 then 2 else if n < 0x10000 then 3 else 4

mutual

/-- The fewest bytes of a match; none if a part has no match. -/
def leastBytes? : Pattern → Option Nat
  | .empty => some 0
  | .text s => some ((s.map fun c => byteCount c.toNat).sum)
  | .oneOf s => s.ranges.head?.map fun r => byteCount r.first
  | .anchor _ => some 0
  | .group _ p => leastBytes? p
  | .repeat p min _ _ => (leastBytes? p).map (· * min)
  | .seq ps => leastOfSeq? ps
  | .alt ps => leastOfAlt? ps

def leastOfSeq? : List Pattern → Option Nat
  | [] => some 0
  | p :: ps => do return (← leastBytes? p) + (← leastOfSeq? ps)

def leastOfAlt? : List Pattern → Option Nat
  | [] => none
  | [p] => leastBytes? p
  | p :: ps => do return min (← leastBytes? p) (← leastOfAlt? ps)

end

mutual

/-- The most bytes of a match, if there is a bound and each part has a match. -/
def mostBytes? : Pattern → Option Nat
  | .empty => some 0
  | .text s => some ((s.map fun c => byteCount c.toNat).sum)
  | .oneOf s => s.ranges.getLast?.map fun r => byteCount r.last
  | .anchor _ => some 0
  | .group _ p => mostBytes? p
  | .repeat p _ max _ => do return (← mostBytes? p) * (← max)
  | .seq ps => mostOfSeq? ps
  | .alt ps => mostOfAlt? ps

def mostOfSeq? : List Pattern → Option Nat
  | [] => some 0
  | p :: ps => do return (← mostBytes? p) + (← mostOfSeq? ps)

def mostOfAlt? : List Pattern → Option Nat
  | [] => none
  | [p] => mostBytes? p
  | p :: ps => do return max (← mostBytes? p) (← mostOfAlt? ps)

end

mutual

/-- Whether two patterns are written alike. -/
def same : Pattern → Pattern → Bool
  | .empty, .empty => true
  | .text s, .text t => s == t
  | .oneOf s, .oneOf t => s == t
  | .anchor a, .anchor b => a == b
  | .group i p, .group j q => i == j && same p q
  | .repeat p min max greedy, .repeat q min' max' greedy' =>
    min == min' && max == max' && greedy == greedy' && same p q
  | .seq ps, .seq qs => sameAll ps qs
  | .alt ps, .alt qs => sameAll ps qs
  | _, _ => false

def sameAll : List Pattern → List Pattern → Bool
  | [], [] => true
  | p :: ps, q :: qs => same p q && sameAll ps qs
  | _, _ => false

end

/-- A pattern for a character of a set. -/
def ofSet (s : CharSet) : Pattern :=
  match s.only? with
  | some c => .text [c]
  | none => .oneOf s

/-! ### Sequences -/

/-- The parts of a sequence, or the pattern as the only part; none for an empty one. -/
def parts : Pattern → List Pattern
  | .empty => []
  | .seq ps => ps
  | p => [p]

/-- Parts with a further one before them; a text is joined to the text that follows. -/
def prepend : Pattern → List Pattern → List Pattern
  | .text s, .text t :: ps => .text (s ++ t) :: ps
  | p, ps => p :: ps

/-- Patterns one after the other. -/
def sequence (ps : List Pattern) : Pattern :=
  match (ps.flatMap parts).foldr prepend [] with
  | [] => .empty
  | [p] => p
  | ps => .seq ps

/-! ### Repetitions -/

/-- A pattern repeated. What only matches nothing is not repeated more than once. -/
def repetition (p : Pattern) (min : Nat) (max : Option Nat) (greedy : Bool) : Pattern :=
  let isVoid := mostBytes? p == some 0
  let min := if isVoid then Nat.min min 1 else min
  let max := if isVoid then some (Nat.min (max.getD 1) 1) else max
  if min = 0 ∧ max = some 0 then .empty
  else if min = 1 ∧ max = some 1 then p
  else .repeat p min max greedy

/-! ### Alternatives -/

/-- The alternatives of a pattern, or the pattern as the only one. -/
def alternatives : Pattern → List Pattern
  | .alt ps => ps
  | p => [p]

/-- The character that a pattern stands for. -/
def char? : Pattern → Option Char
  | .text [c] => some c
  | _ => none

/-- The set that a pattern stands for. -/
def set? : Pattern → Option CharSet
  | .oneOf s => some s
  | _ => none

/-- The first parts that two lists have in common. -/
def commonParts : List Pattern → List Pattern → List Pattern
  | p :: ps, q :: qs => if same p q then p :: commonParts ps qs else []
  | _, _ => []

/-- The parts of a sequence. -/
def seq? : Pattern → Option (List Pattern)
  | .seq ps => some ps
  | _ => none

mutual

/-- The number of patterns that a pattern consists of. -/
def count : Pattern → Nat
  | .group _ p => count p + 1
  | .repeat p _ _ _ => count p + 1
  | .seq ps => countAll ps + 1
  | .alt ps => countAll ps + 1
  | _ => 1

def countAll : List Pattern → Nat
  | [] => 0
  | p :: ps => count p + countAll ps

end

/-- One of several patterns none of which is itself an alternation. The number bounds how often
a common beginning is taken out, which leaves fewer patterns. -/
def alternationOf : Nat → List Pattern → Pattern
  | _, [] => .oneOf .empty
  | _, [p] => p
  | 0, ps => .alt ps
  | n + 1, ps =>
    match ps.mapM char?, ps.mapM set?, ps.mapM seq? with
    | some chars, _, _ => ofSet (.unions (chars.map CharSet.single))
    | none, some sets, _ => ofSet (.unions sets)
    | none, none, some (first :: rest) =>
      match rest.foldl commonParts first with
      | [] => .alt ps
      | start =>
        let ends := (first :: rest).map fun parts => sequence (parts.drop start.length)
        sequence (start ++ [alternationOf n (ends.flatMap alternatives)])
    | _, _, _ => .alt ps

/-- One of several patterns. -/
def alternation (ps : List Pattern) : Pattern :=
  let all := ps.flatMap alternatives
  alternationOf (countAll all) all

end StarSchema.Pattern
