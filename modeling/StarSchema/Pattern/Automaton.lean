import Std.Data.HashMap
import StarSchema.Pattern.Build
import StarSchema.Pattern.Bytes

/-!
# The room of a pattern

A pattern is matched by an automaton that reads bytes, and by a second one that reads them
backwards. Neither may take more than ten mebibytes, so a pattern with large repetitions is
refused. Only the room is computed here: each state takes 32 bytes; a state that reads one of
several ranges of bytes takes 8 more for each, and one that branches takes 4 more for each state
that it leads to.

A set of characters beyond ASCII becomes several states, and equal ones are shared as far as a
table of limited size remembers them.

Main definitions:

* `Building`: what builds an automaton, as long as there is room;
* `Pattern.build`: the states of a pattern;
* `Pattern.hasRoom`: whether both automata of a pattern are small enough.
-/

namespace StarSchema

/-- The room of the part of an automaton built so far: its states, and the bytes of their
lists. -/
structure Automaton where
  states : Nat
  listBytes : Nat

namespace Automaton

def bytes (a : Automaton) : Nat := 32 * a.states + a.listBytes

/-- The most bytes of an automaton. -/
def maxBytes : Nat := 10 * 1024 * 1024

end Automaton

/-- What builds a part of an automaton; it fails when the room is used up. -/
abbrev Building := StateT Automaton Option

namespace Building

/-- Takes room for states and for bytes of lists. -/
def take (states listBytes : Nat) : Building Unit := fun a =>
  let a := ⟨a.states + states, a.listBytes + listBytes⟩
  if Automaton.maxBytes < a.bytes then none else some ((), a)

/-- A state with a list of some bytes; its number is the number of states before it. -/
def state (listBytes : Nat) : Building Nat := do
  let a ← get
  take 1 listBytes
  return a.states

/-- The last state of a part. Where it branches, a state after it adds to its list. -/
inductive End where
  | plain
  | branch

/-- Leads from a branching state to another one. -/
def branch : Building Unit := take 0 4

/-- Leads from the end of a part to the start of the next one. -/
def link : End → Building Unit
  | .plain => pure ()
  | .branch => branch

/-- A step a number of times, each from the end of the one before. -/
def rounds (round : End → Building End) : Nat → End → Building End
  | 0, last, a => some (last, a)
  | n + 1, last, a =>
    match round last a with
    | none => none
    | some (last, a) => rounds round n last a

/-- A part a number of times, one after the other. -/
def copies (one : Building End) : Nat → Building End
  | 0 => do
    take 1 0
    return .plain
  | n + 1 => do
    let last ← one
    rounds (fun last => do
      link last
      one) n last

/-! ### Shared states -/

/-- States remembered by what they read and lead to, written as numbers. Each is kept in one of
a fixed number of places, which those numbers determine; what was there before is forgotten. -/
structure Memo where
  places : Nat
  entries : Std.HashMap Nat (List Nat × Nat)

namespace Memo

/-- The place of a state: a mixture of its numbers in 64 bits. -/
def placeOf (m : Memo) (key : List Nat) : Nat :=
  let mixed : UInt64 := key.foldl (fun h n => (h ^^^ n.toUInt64) * 1099511628211)
    14695981039346656037
  mixed.toNat % m.places

/-- A state that is remembered, or else a new one, which then is. -/
def state (m : Memo) (key : List Nat) (listBytes : Nat) : Building (Memo × Nat) := do
  let place := m.placeOf key
  match m.entries[place]? with
  | some (known, number) =>
    if known = key then return (m, number)
    let number ← Building.state listBytes
    return ({ m with entries := m.entries.insert place (key, number) }, number)
  | none =>
    let number ← Building.state listBytes
    return ({ m with entries := m.entries.insert place (key, number) }, number)

end Memo

/-- A state that still grows: the ranges of bytes it reads with the states they lead to, three
numbers each, and the last range, whose state still grows too. -/
structure OpenState where
  edges : List Nat
  last? : Option ByteRange

/-- The edges of a state when the number of the state behind the last range is known. -/
def OpenState.close (s : OpenState) (next : Nat) : List Nat :=
  match s.last? with
  | some r => s.edges ++ [r.first, r.last, next]
  | none => s.edges

/-- Builds a chain of growing states, the last one first. The result is the number of the first
one, or the target if there is none. -/
def closeChain (target : Nat) (m : Memo) : List OpenState → Building (Memo × Nat)
  | [] => return (m, target)
  | s :: deeper => do
    let (m, next) ← closeChain target m deeper
    let edges := s.close next
    m.state edges (8 * (edges.length / 3))

/-- The states for the rest of a sequence. -/
def openRest (ranges : List ByteRange) : List OpenState :=
  ranges.map fun r => ⟨[], some r⟩

/-- Adds a sequence of ranges to a chain of growing states; the sequences come in order. What
the sequence does not share with the one before is built. -/
def addSequence (target : Nat) (m : Memo) :
    List OpenState → List ByteRange → Building (Memo × List OpenState)
  | s :: deeper, r :: rest =>
    if s.last? = some r then do
      let (m, deeper) ← addSequence target m deeper rest
      return (m, s :: deeper)
    else do
      let (m, next) ← closeChain target m deeper
      return (m, ⟨s.close next, some r⟩ :: openRest rest)
  | [], ranges => return (m, openRest ranges)
  | chain, [] => return (m, chain)

/-- The states of a set of characters, reading forwards. -/
def forwardSet (sequences : List (List ByteRange)) : Building End := do
  let target ← state 0
  let (m, chain) ← sequences.foldlM
    (fun (m, chain) ranges => addSequence target m chain ranges)
    (⟨10000, ∅⟩, [⟨[], none⟩])
  let _ ← closeChain target m chain
  return .plain

/-- The states of one sequence of ranges, reading backwards: each leads to that of the range
before it. -/
def backwardSequence (m : Memo) (number : Nat) : List ByteRange → Building (Memo × Nat)
  | [] => return (m, number)
  | r :: rest => do
    let (m, number) ← m.state [number, r.first, r.last] 0
    backwardSequence m number rest

/-- The states of a set of characters, reading backwards. -/
def backwardSet (sequences : List (List ByteRange)) : Building End := do
  let _ ← state 0
  let target ← state 0
  let _ ← sequences.foldlM
    (fun m ranges => do
      let (m, _) ← backwardSequence m target ranges
      branch
      return m)
    (⟨1000, ∅⟩ : Memo)
  return .plain

/-- The states of a set of characters. ASCII characters are read by a single one. -/
def ofSet (backward : Bool) (s : CharSet) : Building End :=
  if s.isAscii then do
    take 2 (8 * s.ranges.length)
    return .plain
  else
    let sequences := s.ranges.flatMap fun r => byteSequences r.first r.last
    if backward then backwardSet sequences else forwardSet sequences

/-! ### Alternative texts -/

/-- The bytes of a text. -/
def bytesOf (s : List Char) : List Nat := s.flatMap fun c => encodeChar c.toNat

/-- Texts by their first byte, without it. -/
def byFirst (texts : List (List Nat)) : List (Nat × List (List Nat)) :=
  let firsts := (texts.filterMap List.head?).eraseDups
  firsts.map fun b => (b, texts.filterMap fun s => if s.head? = some b then some s.tail else none)

/-- The parts of a list between its empty texts. -/
def splitAtEmpty (texts : List (List Nat)) : List (List (List Nat)) :=
  texts.splitBy fun s t => !s.isEmpty && !t.isEmpty

/-- Room for one of several texts after a common beginning. The texts between two that end here
are read by one state, which comes before the later texts. The number bounds their length. -/
def texts : Nat → List (List Nat) → Building Unit
  | 0, _ => pure ()
  | n + 1, all => do
    let ended := all.takeWhile List.isEmpty
    let later := all.dropWhile List.isEmpty
    if later.isEmpty then return ()
    let groups := (splitAtEmpty later).filter fun group => group.any (!·.isEmpty)
    for group in groups do
      let edges := byFirst group
      for (_, rest) in edges do
        texts n rest
      take 1 (if edges.length = 1 then 0 else 8 * edges.length)
    let ends := min 1 ended.length + later.countP List.isEmpty
    take 1 (4 * (groups.length + ends))

/-- The text that a pattern stands for. -/
def text? : Pattern → Option (List Char)
  | .text s => some s
  | _ => none

end Building

namespace Pattern

open Building

mutual

/-- The states of a pattern. Groups are marked by states of their own when it is read
forwards. -/
def build (backward : Bool) : Pattern → Building End
  | .empty => do
    take 1 0
    return .plain
  | .text s => do
    take (bytesOf s).length 0
    return .plain
  | .oneOf s => Building.ofSet backward s
  | .anchor _ => do
    take 1 0
    return .plain
  | .group _ p =>
    if backward then build backward p
    else do
      take 1 0
      let last ← build backward p
      take 1 0
      link last
      return .plain
  | .repeat p min max _ => do
    let one := build backward p
    match min, max with
    | 0, some 1 =>
      take 1 0
      let last ← one
      take 1 8
      link last
      return .plain
    | 0, none =>
      if (leastBytes? p).any (0 < ·) then
        take 1 0
        let last ← one
        branch
        link last
        return .branch
      else
        let last ← one
        take 3 16
        link last
        return .plain
    | min + 1, none =>
      if 0 < min then link (← copies one min)
      let last ← one
      take 1 4
      link last
      return .branch
    | min, some max =>
      let last ← copies one min
      if min = max then return last
      take 1 0
      let last ← rounds (fun last => do
        take 1 8
        link last
        one) (max - min) last
      link last
      return .plain
  | .seq ps => return (← buildSeq backward ps).getD .plain
  | .alt ps =>
    match ps.mapM text? with
    | some all => do
      let all := (all.map bytesOf).map fun s => if backward then s.reverse else s
      take 1 0
      Building.texts ((all.map List.length).foldl Nat.max 0 + 1) all
      return .plain
    | none => do
      buildAlt backward 2 ps
      return .plain

/-- The states of patterns one after the other; none for an empty list. -/
def buildSeq (backward : Bool) : List Pattern → Building (Option End)
  | [] => return none
  | p :: ps =>
    if backward then do
      match ← buildSeq backward ps with
      | some last => link last
      | none => pure ()
      return some (← build backward p)
    else do
      let last ← build backward p
      match ps with
      | [] => return some last
      | _ =>
        link last
        buildSeq backward ps

/-- The states of alternatives, with the ways to and from them. The states that the alternatives
branch from and meet in come after the second one. -/
def buildAlt (backward : Bool) (before : Nat) : List Pattern → Building Unit
  | [] => pure ()
  | p :: ps => do
    let last ← build backward p
    if before = 1 then take 2 0
    branch
    link last
    buildAlt backward (before - 1) ps

end

mutual

/-- Whether a condition holds at the start of each match because the pattern says so. -/
def startsAt (a : Anchor) : Pattern → Bool
  | .anchor b => a == b
  | .group _ p => startsAt a p
  | .repeat p min _ _ => 0 < min && startsAt a p
  | .seq ps => someStartsAt a ps
  | .alt ps => allStartAt a ps
  | _ => false

/-- Whether the condition is among those of a sequence before any character. -/
def someStartsAt (a : Anchor) : List Pattern → Bool
  | [] => false
  | p :: ps => startsAt a p || (mostBytes? p == some 0 && someStartsAt a ps)

def allStartAt (a : Anchor) : List Pattern → Bool
  | [] => true
  | p :: ps => startsAt a p && allStartAt a ps

end

mutual

/-- Whether a condition holds at the end of each match because the pattern says so. -/
def endsAt (a : Anchor) : Pattern → Bool
  | .anchor b => a == b
  | .group _ p => endsAt a p
  | .repeat p min _ _ => 0 < min && endsAt a p
  | .seq ps => (someEndsAt a ps).2
  | .alt ps => allEndAt a ps
  | _ => false

/-- Whether a sequence has no character, and whether the condition is among those after all
characters. -/
def someEndsAt (a : Anchor) : List Pattern → Bool × Bool
  | [] => (true, false)
  | p :: ps =>
    let (isVoid, holds) := someEndsAt a ps
    (isVoid && mostBytes? p == some 0, holds || (isVoid && endsAt a p))

def allEndAt (a : Anchor) : List Pattern → Bool
  | [] => true
  | p :: ps => endsAt a p && allEndAt a ps

end

/-- The whole automaton of a pattern. A match may start anywhere unless the pattern says where,
so other bytes are read before it. -/
def automaton (backward : Bool) (p : Pattern) : Building Unit := do
  let anchored := if backward then p.endsAt .textEnd else p.startsAt .textStart
  if anchored then take 1 0 else take 3 16
  let last ← (Pattern.group 0 p).build backward
  take 1 0
  link last

/-- Whether the automata of a pattern are small enough. -/
def hasRoom (p : Pattern) : Bool :=
  (automaton false p ⟨0, 0⟩).isSome && (automaton true p ⟨0, 0⟩).isSome

end Pattern

end StarSchema
