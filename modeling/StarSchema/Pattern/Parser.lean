import StarSchema.CharSet.CaseFolding
import StarSchema.CharSet.NameChar
import StarSchema.CharSet.Property
import StarSchema.Pattern.Automaton
import StarSchema.Text.Blank

/-!
# Reading patterns

Patterns are written in the usual notation, with Unicode classes and set operations, without
look-around and back-references. Reading either gives a pattern or refuses the text; why it is
refused is not reported. A text is also refused if its parts are nested too deeply, or if the
pattern takes too much room.

Each reader takes its part from the front of a text and returns it with the rest.

Main definition: `Pattern.read?`.
-/

namespace StarSchema.Pattern

/-- How the following text is read. -/
structure Mode where
  /-- Letters match in either case. -/
  anyCase : Bool := false
  /-- The anchors `^` and `$` are about lines. -/
  lines : Bool := false
  /-- The point matches also line ends. -/
  dotAll : Bool := false
  /-- Lines end also with a carriage return. -/
  crlf : Bool := false
  /-- Classes and letter case are those of ASCII. -/
  asciiOnly : Bool := false
  /-- Blanks and comments are skipped. -/
  spaced : Bool := false
  /-- Repetitions are greedy where they are marked as reluctant, and only there. -/
  swapped : Bool := false

/-- The text after blanks and comments, which end with their line. -/
def skipComments (inComment : Bool) : List Char → List Char
  | [] => []
  | c :: s =>
    if inComment then skipComments (c != '\n') s
    else if c == '#' then skipComments true s
    else if Text.isBlank c then skipComments false s
    else c :: s

/-- The text after what the mode skips. -/
def Mode.skip (m : Mode) (s : List Char) : List Char :=
  if m.spaced then skipComments false s else s

/-! ### Sets of one character -/

/-- The set with all letter cases, if the mode does not tell them apart. -/
def Mode.cased (m : Mode) (s : CharSet) : CharSet :=
  if !m.anyCase then s else if m.asciiOnly then s.anyAsciiCase else s.anyCase

/-- A set as the mode reads it. In ASCII mode the characters that are not in a set have no
meaning. -/
def Mode.finish? (m : Mode) (negated : Bool) (s : CharSet) : Option CharSet :=
  if !negated then some (m.cased s)
  else if m.asciiOnly then none
  else some (m.cased s).complement

/-- The classes named by a letter after a backslash. -/
def Mode.letterClass? (m : Mode) (c : Char) : Option CharSet :=
  match c with
  | 'd' => some (if m.asciiOnly then .asciiDigit else .decimalNumber)
  | 's' => some (if m.asciiOnly then .asciiBlank else .blank)
  | 'w' => some (if m.asciiOnly then .asciiWord else .word)
  | _ => none

def Mode.dot? (m : Mode) : Option CharSet :=
  if m.asciiOnly then none
  else if m.dotAll then some .all
  else if m.crlf then some (CharSet.ofPairs [('\n', '\n'), ('\r', '\r')]).complement
  else some (CharSet.single '\n').complement

/-! ### Escapes -/

/-- What follows a backslash. -/
inductive Escape where
  | char (c : Char)
  | set (s : CharSet)
  | anchor (a : Anchor)

/-- The characters with a meaning of their own. -/
def isMeta (c : Char) : Bool :=
  "\\.+*?()|[]\x7b\x7d^$#&-~".toList.contains c

/-- The ASCII characters that a backslash leaves as they are. -/
def isEscapable (c : Char) : Bool :=
  isMeta c || (c.toNat < 128 && !c.isAlphanum && c != '<' && c != '>')

/-- The character with a code point. -/
def scalar? (n : Nat) : Option Char :=
  if n.isValidChar then some (Char.ofNat n) else none

/-- A fixed number of hexadecimal digits, read as a number. -/
def readHexDigits? (m : Mode) : Nat → Nat → List Char → Option (Nat × List Char)
  | 0, n, s => some (n, s)
  | count + 1, n, s =>
    match m.skip s with
    | [] => none
    | c :: rest => do readHexDigits? m count (16 * n + (← hexValue? c)) rest

/-- The text up to a closing brace, without what the mode skips. -/
def readBraced? (m : Mode) : Nat → List Char → Option (List Char × List Char)
  | 0, _ => none
  | n + 1, s =>
    match m.skip s with
    | [] => none
    | '\x7d' :: rest => some ([], rest)
    | c :: rest => (readBraced? m n rest).map fun (cs, rest) => (c :: cs, rest)

/-- A character by its code point: digits of a fixed number, or any number in braces. -/
def readCodePoint? (m : Mode) (count : Nat) (s : List Char) : Option (Char × List Char) :=
  match m.skip s with
  | '\x7b' :: t => do
    let (digits, rest) ← readBraced? m t.length t
    return (← scalar? (← hex? digits), rest)
  | t => do
    let (n, rest) ← readHexDigits? m count 0 t
    return (← scalar? n, rest)

/-- The two parts of a text around the first occurrence of a mark. -/
def splitAtMark? (mark : List Char) : List Char → Option (List Char × List Char)
  | [] => none
  | c :: s =>
    if mark.isPrefixOf (c :: s) then some ([], (c :: s).drop mark.length)
    else (splitAtMark? mark s).map fun (before, after) => (c :: before, after)

/-- The set of a property in braces, and whether it is the complement that is meant. There is a
name, or a name and a value. -/
def bracedProperty? (name : List Char) : Option (Bool × CharSet) :=
  match splitAtMark? "!=".toList name with
  | some (name, value) => (CharSet.propertyValue? name value).map (true, ·)
  | none =>
    match (splitAtMark? [':'] name).or (splitAtMark? ['='] name) with
    | some (name, value) => (CharSet.propertyValue? name value).map (false, ·)
    | none => (CharSet.property? name).map (false, ·)

/-- A property after `\p`, or its complement after `\P`. -/
def readProperty? (m : Mode) (negated : Bool) (s : List Char) :
    Option (CharSet × List Char) := do
  let ((differs, set), rest) ← match m.skip s with
    | '\x7b' :: t => do
      let (name, rest) ← readBraced? m t.length t
      pure (← bracedProperty? name, rest)
    | '\\' :: _ => none
    | c :: rest => do pure ((false, ← CharSet.property? [c]), rest)
    | [] => none
  if m.asciiOnly then none
  return (← m.finish? (negated != differs) set, rest)

/-- The anchors of a word by their names in braces. -/
def namedBoundary? (m : Mode) (name : List Char) : Option Anchor :=
  [("start".toList, Anchor.wordStart m.asciiOnly), ("end".toList, .wordEnd m.asciiOnly),
    ("start-half".toList, .wordStartHalf m.asciiOnly),
    ("end-half".toList, .wordEndHalf m.asciiOnly)].lookup name

/-- A word boundary. Braces that start with a letter or a hyphen name one of its sides; other
braces are left for a repetition. -/
def readBoundary? (m : Mode) (s : List Char) : Option (Anchor × List Char) :=
  match s with
  | '\x7b' :: t =>
    match m.skip t with
    | [] => none
    | c :: _ =>
      if c.isAlpha || c == '-' then do
        let (name, rest) ← readBraced? m t.length t
        return (← namedBoundary? m name, rest)
      else some (.wordBoundary m.asciiOnly, s)
  | _ => some (.wordBoundary m.asciiOnly, s)

/-- The control characters named by a letter. -/
def controlLetters : List (Char × Char) :=
  [('a', '\x07'), ('f', '\x0c'), ('t', '\t'), ('n', '\n'), ('r', '\r'), ('v', '\x0b')]

/-- An escape, after the backslash. In ASCII mode two digits name a byte, and bytes beyond ASCII
are no characters. -/
def readEscape? (m : Mode) : List Char → Option (Escape × List Char)
  | [] => none
  | c :: s =>
    match c with
    | 'x' => do
      let (c, rest) ← readCodePoint? m 2 s
      if m.asciiOnly && 128 ≤ c.toNat && (m.skip s).head? != some '\x7b' then none
      else some (.char c, rest)
    | 'u' => (readCodePoint? m 4 s).map fun (c, rest) => (.char c, rest)
    | 'U' => (readCodePoint? m 8 s).map fun (c, rest) => (.char c, rest)
    | 'p' => (readProperty? m false s).map fun (set, rest) => (.set set, rest)
    | 'P' => (readProperty? m true s).map fun (set, rest) => (.set set, rest)
    | 'A' => some (.anchor .textStart, s)
    | 'z' => some (.anchor .textEnd, s)
    | 'b' => (readBoundary? m s).map fun (a, rest) => (.anchor a, rest)
    | 'B' => some (.anchor (.notWordBoundary m.asciiOnly), s)
    | '<' => some (.anchor (.wordStart m.asciiOnly), s)
    | '>' => some (.anchor (.wordEnd m.asciiOnly), s)
    | _ =>
      match m.letterClass? c, m.letterClass? c.toLower, controlLetters.lookup c with
      | some set, _, _ => some (.set set, s)
      | none, some set, _ =>
        if m.asciiOnly then none else some (.set set.complement, s)
      | none, none, some control => some (.char control, s)
      | none, none, none => if isEscapable c then some (.char c, s) else none

/-! ### Bracketed sets -/

/-- A part that has been read, and the number of levels on which its own parts are nested. -/
structure Nested (α : Type) where
  value : α
  depth : Nat := 0

/-- The greatest number of levels of a pattern. -/
def maxDepth : Nat := 250

/-- A class in brackets and colons, after the opening bracket: whether it is negated, the set,
and the rest. -/
def readAsciiClass? (s : List Char) : Option (Bool × CharSet × List Char) :=
  match s with
  | ':' :: t =>
    let (negated, body) := match t with
      | '^' :: u => (true, u)
      | _ => (false, t)
    let name := body.takeWhile (· != ':')
    match body.dropWhile (· != ':') with
    | ':' :: ']' :: rest =>
      (CharSet.asciiClass? (String.ofList name)).map fun set => (negated, set, rest)
    | _ => none
  | _ => none

/-- A character or an escape within a bracketed set. -/
def readSetItem? (m : Mode) (s : List Char) : Option (Escape × List Char) := do
  let (item, rest) ← match s with
    | [] => none
    | '\\' :: s => readEscape? m s
    | c :: s => some (.char c, s)
  match item with
  | .char c => if m.asciiOnly && 128 ≤ c.toNat then none else some (item, rest)
  | _ => some (item, rest)

/-- The character behind a hyphen that decides whether there is a range. Blanks are passed over
if the mode skips them; of a comment the first character behind the blanks decides. -/
def Mode.peek? (m : Mode) (s : List Char) : Option Char :=
  if m.spaced then
    match Text.skipBlanks s with
    | '#' :: t => (Text.skipBlanks t).head?.or s.head?
    | t => t.head?.or s.head?
  else s.head?

/-- A range, a character or a class within a bracketed set. A hyphen before the closing bracket
or another hyphen makes no range. -/
def readSetRange? (m : Mode) (s : List Char) : Option (CharSet × List Char) := do
  let (item, rest) ← readSetItem? m s
  let rest := m.skip rest
  let single : Option (CharSet × List Char) :=
    match item with
    | .char c => some (.single c, rest)
    | .set set => some (set, rest)
    | .anchor _ => none
  match rest with
  | [] => none
  | '-' :: t =>
    match m.peek? t with
    | some ']' => single
    | some '-' => single
    | _ =>
      let (item', rest') ← readSetItem? m (m.skip t)
      match item, item' with
      | .char a, .char b => if a ≤ b then some (.range a b, rest') else none
      | _, _ => none
  | _ => single

/-- The operations on sets within brackets. -/
inductive SetOperation where
  | inter
  | diff
  | symmDiff

/-- The set of an operation. Letter case is put aside on both sides first. -/
def SetOperation.apply (m : Mode) (op : SetOperation) (s t : CharSet) : CharSet :=
  match op with
  | .inter => (m.cased s).inter (m.cased t)
  | .diff => (m.cased s).diff (m.cased t)
  | .symmDiff => (m.cased s).symmDiff (m.cased t)

/-- The set so far: what stands before the last operation, the sets that have been read since,
and the levels of the deepest of these. -/
structure OpenSet where
  left? : Option (Nested CharSet × SetOperation) := none
  sets : List CharSet := []
  depth : Nat := 0

namespace OpenSet

/-- The union of the sets since the last operation; more than one are a level of their own. -/
def right (s : OpenSet) : Nested CharSet :=
  ⟨.unions s.sets, if s.sets.length ≤ 1 then s.depth else s.depth + 1⟩

def close (m : Mode) (s : OpenSet) : Nested CharSet :=
  match s.left? with
  | some (left, op) =>
    ⟨op.apply m left.value s.right.value, max left.depth s.right.depth + 1⟩
  | none => s.right

def add (s : OpenSet) (t : CharSet) (depth : Nat) : OpenSet :=
  { s with sets := t :: s.sets, depth := max s.depth depth }

def operate (m : Mode) (op : SetOperation) (s : OpenSet) : OpenSet :=
  { left? := some (s.close m, op) }

end OpenSet

/-- The hyphens at the front of a bracketed set stand for themselves. -/
def readHyphens (m : Mode) : Nat → OpenSet → List Char → OpenSet × List Char
  | 0, set, s => (set, s)
  | n + 1, set, s =>
    match s with
    | '-' :: t => readHyphens m n (set.add (.single '-') 0) (m.skip t)
    | _ => (set, s)

/-- The start of a bracketed set, after the opening bracket: whether it is negated, and the
hyphens or else the bracket that stand for themselves there. -/
def readSetOpening (m : Mode) (s : List Char) : Bool × OpenSet × List Char :=
  let s := m.skip s
  let (negated, s) := match s with
    | '^' :: t => (true, m.skip t)
    | _ => (false, s)
  match s with
  | ']' :: t => (negated, ({} : OpenSet).add (.single ']') 0, m.skip t)
  | _ =>
    let (set, rest) := readHyphens m s.length {} s
    (negated, set, rest)

mutual

/-- A bracketed set, after the opening bracket. The first number bounds the depth of the calls,
and each call but the first has a shorter text; the second one is the level of the set. -/
def readSet? (m : Mode) : Nat → Nat → List Char → Option (Nested CharSet × List Char)
  | 0, _, _ => none
  | n + 1, level, s => do
    if maxDepth < level then none
    let (negated, set, rest) := readSetOpening m s
    let (set, rest) ← readSetBody? m n level set rest
    return (⟨← m.finish? negated set.value, set.depth + 1⟩, rest)

/-- The rest of a bracketed set, up to and with the closing bracket. -/
def readSetBody? (m : Mode) :
    Nat → Nat → OpenSet → List Char → Option (Nested CharSet × List Char)
  | 0, _, _, _ => none
  | n + 1, level, set, s =>
    match m.skip s with
    | [] => none
    | ']' :: rest => some (set.close m, rest)
    | '[' :: t =>
      match readAsciiClass? t with
      | some (negated, inner, rest) =>
        match m.finish? negated inner with
        | some inner => readSetBody? m n level (set.add inner 0) rest
        | none => none
      | none =>
        match readSet? m n (level + 1) t with
        | some (inner, rest) => readSetBody? m n level (set.add inner.value inner.depth) rest
        | none => none
    | '&' :: '&' :: t => readSetBody? m n level (set.operate m .inter) t
    | '-' :: '-' :: t => readSetBody? m n level (set.operate m .diff) t
    | '~' :: '~' :: t => readSetBody? m n level (set.operate m .symmDiff) t
    | t =>
      match readSetRange? m t with
      | some (inner, rest) => readSetBody? m n level (set.add inner 0) rest
      | none => none

end

/-! ### Groups and repetitions -/

/-- The flags of a group, up to the colon or the parenthesis after them. A flag is set once, a
hyphen turns the flags after it off and does not come last. -/
def readFlags? (m : Mode) (seen : List Char) : List Char → Option (Mode × List Char × List Char)
  | [] => none
  | c :: s =>
    if c = ':' ∨ c = ')' then
      if seen.head? = some '-' then none else some (m, seen, c :: s)
    else if seen.contains c then none
    else
      let on := !seen.contains '-'
      match c with
      | '-' => readFlags? m (c :: seen) s
      | 'i' => readFlags? { m with anyCase := on } (c :: seen) s
      | 'm' => readFlags? { m with lines := on } (c :: seen) s
      | 's' => readFlags? { m with dotAll := on } (c :: seen) s
      | 'R' => readFlags? { m with crlf := on } (c :: seen) s
      | 'u' => readFlags? { m with asciiOnly := !on } (c :: seen) s
      | 'x' => readFlags? { m with spaced := on } (c :: seen) s
      | 'U' => readFlags? { m with swapped := on } (c :: seen) s
      | _ => none

/-- The name of a group, with the bracket that closes it. -/
def readGroupName? (s : List Char) : Option (List Char × List Char) :=
  match s.takeWhile (· != '>'), s.dropWhile (· != '>') with
  | c :: cs, _ :: rest =>
    if CharSet.nameStart.mem c && cs.all CharSet.nameContinue.mem then some (c :: cs, rest)
    else none
  | _, _ => none

/-- What an opening parenthesis starts. -/
inductive Opening where
  /-- A group with a number, and with a name if it has one. -/
  | group (name? : Option (List Char))
  /-- A group without a number, read in a mode of its own. -/
  | plain (m : Mode)
  /-- A change of the mode for what follows in the same group. -/
  | mode (m : Mode)

/-- What follows an opening parenthesis and is not the group's own pattern. -/
def readOpening? (m : Mode) (s : List Char) : Option (Opening × List Char) :=
  match m.skip s with
  | '?' :: 'P' :: '<' :: t =>
    (readGroupName? t).map fun (name, rest) => (.group (some name), rest)
  | '?' :: '<' :: '=' :: _ => none
  | '?' :: '<' :: '!' :: _ => none
  | '?' :: '<' :: t =>
    (readGroupName? t).map fun (name, rest) => (.group (some name), rest)
  | '?' :: t =>
    match readFlags? m [] t with
    | some (m', _, ':' :: rest) => some (.plain m', rest)
    | some (m', seen, _ :: rest) => if seen.isEmpty then none else some (.mode m', rest)
    | _ => none
  | t => some (.group none, t)

/-- Decimal digits, after each of which the mode may skip something. -/
def readDigits (m : Mode) : Nat → List Char → List Char × List Char
  | 0, s => ([], s)
  | n + 1, s =>
    match s with
    | c :: t =>
      if c.isDigit then
        let (digits, rest) := readDigits m n (m.skip t)
        (c :: digits, rest)
      else ([], s)
    | [] => ([], [])

/-- A decimal number between blanks, of 32 bits. -/
def readCount? (m : Mode) (s : List Char) : Option (Nat × List Char) :=
  let t := Text.skipBlanks s
  let (digits, rest) := readDigits m t.length t
  let n := digits.foldl (fun n c => 10 * n + (c.toNat - '0'.toNat)) 0
  if digits.isEmpty || UInt32.size ≤ n then none else some (n, Text.skipBlanks rest)

/-- The bounds of a counted repetition, after the opening brace, with the closing one. -/
def readBounds? (m : Mode) (s : List Char) : Option (Nat × Option Nat × List Char) := do
  let (min, rest) ← readCount? m (m.skip s)
  match rest with
  | '\x7d' :: rest => return (min, some min, rest)
  | ',' :: t =>
    match m.skip t with
    | '\x7d' :: rest => return (min, none, rest)
    | u =>
      let (max, rest) ← readCount? m u
      match rest with
      | '\x7d' :: rest => if min ≤ max then return (min, some max, rest) else none
      | _ => none
  | _ => none

/-- Whether a repetition is greedy, which a mark after it tells. -/
def readGreed (m : Mode) : List Char → Bool × List Char
  | '?' :: s => (m.swapped, s)
  | s => (!m.swapped, s)

/-! ### Patterns -/

/-- What an escape or a character matches. -/
def Mode.ofEscape (m : Mode) : Escape → Pattern
  | .char c =>
    if m.asciiOnly && 128 ≤ c.toNat then .text [c] else ofSet (m.cased (.single c))
  | .set s => ofSet s
  | .anchor a => .anchor a

/-- The anchors `^` and `$`. -/
def Mode.startAnchor (m : Mode) : Anchor :=
  if !m.lines then .textStart else if m.crlf then .lineStartCrlf else .lineStart

def Mode.endAnchor (m : Mode) : Anchor :=
  if !m.lines then .textEnd else if m.crlf then .lineEndCrlf else .lineEnd

/-- An item of a group: a pattern, or a change of the mode, which matches nothing and cannot be
repeated. -/
inductive Item where
  | pattern (p : Nested Pattern)
  | mode

namespace Item

def toPattern : Item → Pattern
  | .pattern p => p.value
  | .mode => .empty

def depth : Item → Nat
  | .pattern p => p.depth
  | .mode => 0

end Item

/-- The part of a group that has been read: the alternatives before the last one, and the items
of that one, both with the last first. -/
structure OpenGroup where
  alternatives : List (Nested Pattern) := []
  items : List Item := []

/-- The levels of something with parts; a single part is no level of its own. -/
def depthOf (parts : List Nat) : Nat :=
  let deepest := parts.foldl max 0
  if parts.length ≤ 1 then deepest else deepest + 1

namespace OpenGroup

/-- The items of the last alternative, in sequence. -/
def sequence (g : OpenGroup) : Nested Pattern :=
  ⟨.sequence (g.items.reverse.map Item.toPattern), depthOf (g.items.map Item.depth)⟩

/-- All alternatives. -/
def close (g : OpenGroup) : Nested Pattern :=
  let all := g.sequence :: g.alternatives
  ⟨.alternation (all.reverse.map (·.value)), depthOf (all.map (·.depth))⟩

def add (g : OpenGroup) (p : Pattern) (depth : Nat) : OpenGroup :=
  { g with items := .pattern ⟨p, depth⟩ :: g.items }

def addMode (g : OpenGroup) : OpenGroup :=
  { g with items := .mode :: g.items }

def bar (g : OpenGroup) : OpenGroup :=
  ⟨g.sequence :: g.alternatives, []⟩

/-- The group with its last item repeated. -/
def repeat? (g : OpenGroup) (min : Nat) (max : Option Nat) (greedy : Bool) : Option OpenGroup :=
  match g.items with
  | .pattern p :: items =>
    some { g with items := .pattern ⟨repetition p.value min max greedy, p.depth + 1⟩ :: items }
  | _ => none

end OpenGroup

/-- The groups with a number so far. -/
structure Groups where
  count : Nat := 0
  names : List (List Char) := []

/-- The groups with one more. No two have the same name. -/
def Groups.add? (groups : Groups) (name? : Option (List Char)) : Option Groups :=
  if name?.any groups.names.contains then none
  else some ⟨groups.count + 1, name?.toList ++ groups.names⟩

/-- The rest of a group, up to the parenthesis that closes it or the end, with the groups so
far. The first number bounds the depth of the calls, each of which has a shorter text; the second
one is the level of the group. -/
def readBody? :
    Nat → Nat → Mode → Groups → OpenGroup → List Char →
      Option (Nested Pattern × Groups × List Char)
  | 0, _, _, _, _, _ => none
  | n + 1, level, m, groups, g, s =>
    if maxDepth < level then none
    else match m.skip s with
    | [] => some (g.close, groups, [])
    | ')' :: t => some (g.close, groups, ')' :: t)
    | '|' :: t => readBody? n level m groups g.bar t
    | '(' :: t => do
      match ← readOpening? m t with
      | (.mode m', rest) => readBody? n level m' groups g.addMode rest
      | (.plain m', rest) =>
        let (p, groups, rest) ← readBody? n (level + 1) m' groups {} rest
        match rest with
        | ')' :: rest => readBody? n level m groups (g.add p.value (p.depth + 1)) rest
        | _ => none
      | (.group name?, rest) =>
        let opened ← groups.add? name?
        let (p, groups, rest) ← readBody? n (level + 1) m opened {} rest
        match rest with
        | ')' :: rest =>
          readBody? n level m groups (g.add (.group opened.count p.value) (p.depth + 1)) rest
        | _ => none
    | '[' :: t => do
      let (set, rest) ← readSet? m (2 * t.length + 2) 1 t
      readBody? n level m groups (g.add (ofSet set.value) set.depth) rest
    | '?' :: t => do
      let (greedy, t) := readGreed m t
      readBody? n level m groups (← g.repeat? 0 (some 1) greedy) t
    | '*' :: t => do
      let (greedy, t) := readGreed m t
      readBody? n level m groups (← g.repeat? 0 none greedy) t
    | '+' :: t => do
      let (greedy, t) := readGreed m t
      readBody? n level m groups (← g.repeat? 1 none greedy) t
    | '\x7b' :: t => do
      let (min, max, rest) ← readBounds? m t
      let (greedy, rest) := readGreed m (m.skip rest)
      readBody? n level m groups (← g.repeat? min max greedy) rest
    | '\\' :: t => do
      let (e, rest) ← readEscape? m t
      readBody? n level m groups (g.add (m.ofEscape e) 0) rest
    | '.' :: t => do readBody? n level m groups (g.add (ofSet (← m.dot?)) 0) t
    | '^' :: t => readBody? n level m groups (g.add (.anchor m.startAnchor) 0) t
    | '$' :: t => readBody? n level m groups (g.add (.anchor m.endAnchor) 0) t
    | c :: t => readBody? n level m groups (g.add (m.ofEscape (.char c)) 0) t

/-- The pattern that a text spells. -/
def read? (source : List Char) : Option Pattern := do
  match ← readBody? (source.length + 1) 0 {} {} {} source with
  | (p, _, []) => if p.depth ≤ maxDepth && p.value.hasRoom then some p.value else none
  | _ => none

end StarSchema.Pattern
