import StarSchema.Toml.Document
import StarSchema.Toml.Text

/-!
# Reading documents

A document in TOML 1.1, read as a node or refused as a whole; why it is refused is not
reported.

Each reader takes its part from the front of a text and returns it with the rest.

Main definitions: `Toml.read?`, and the limits `Toml.maxParts` and `Toml.maxNesting`.
-/

namespace StarSchema.Toml

/-- What follows blanks on the line. -/
def skipBlanks (s : List Char) : List Char :=
  s.dropWhile fun c => c == ' ' || c == '\t'

/-- What follows a comment, if there is one and it holds plain characters only. -/
def skipComment? : List Char → Option (List Char)
  | '#' :: s =>
    let comment := s.takeWhile (· != '\n')
    let body := if comment.getLast? = some '\r' then comment.dropLast else comment
    let rest := s.drop body.length
    if body.all isPlain then some rest else none
  | s => some s

/-- What follows blanks, an optional comment and the end of the line. -/
def endLine? (s : List Char) : Option (List Char) := do
  match ← skipComment? (skipBlanks s) with
  | [] => some []
  | '\n' :: rest => some rest
  | '\r' :: '\n' :: rest => some rest
  | _ => none

/-- What follows blanks, comments and line ends. The number bounds how many lines there are. -/
def skipLines? : Nat → List Char → Option (List Char)
  | 0, s => some s
  | n + 1, s =>
    match skipBlanks s with
    | '#' :: t => do skipLines? n (← skipComment? ('#' :: t))
    | '\n' :: t => skipLines? n t
    | '\r' :: '\n' :: t => skipLines? n t
    | t => some t

/-- A key has no more parts than this. -/
def maxParts : Nat := 80

/-- Lists and tables in braces are not nested deeper than this. -/
def maxNesting : Nat := 80

def isBareKeyChar (c : Char) : Bool :=
  c.isAlphanum || c == '_' || c == '-'

/-- One part of a dotted key: bare, or a string on one line. -/
def readKeyPart? (s : List Char) : Option (String × List Char) :=
  match s with
  | '"' :: t => (basic? t).map fun (key, rest) => (String.ofList key, rest)
  | '\'' :: t => (literal? t).map fun (key, rest) => (String.ofList key, rest)
  | _ =>
    let key := s.takeWhile isBareKeyChar
    if key.isEmpty then none else some (String.ofList key, s.dropWhile isBareKeyChar)

/-- A dotted key with blanks around its parts, of which there are no more than the number. -/
def readParts? : Nat → List Char → Option (Path × List Char)
  | 0, _ => none
  | n + 1, s => do
    let (part, rest) ← readKeyPart? (skipBlanks s)
    match skipBlanks rest with
    | '.' :: t => do
      let (path, rest) ← readParts? n t
      return (part :: path, rest)
    | t => return ([part], t)

/-- A dotted key. -/
def readKey? (s : List Char) : Option (Path × List Char) :=
  readParts? maxParts s

/-- The characters of a scalar without quotes. -/
def isScalarChar (c : Char) : Bool :=
  c.isAlphanum || c == '_' || c == '-' || c == '+' || c == '.' || c == ':'

/-- A scalar without quotes. A blank may stand between a date and a time of day. -/
def readScalar? (s : List Char) : Option (Node × List Char) :=
  let first := s.takeWhile isScalarChar
  let rest := s.dropWhile isScalarChar
  let (text, rest) := match (afterDate? first).map List.isEmpty, rest with
    | some true, ' ' :: c :: t =>
      if c.isDigit then
        (first ++ ' ' :: (c :: t).takeWhile isScalarChar, (c :: t).dropWhile isScalarChar)
      else (first, rest)
    | _, _ => (first, rest)
  (scalar? text).map (·, rest)

mutual

/-- A value in which lists and tables may be nested as deep as `room` says. The other number
bounds the depth of the calls. -/
def readValue? (room : Nat) : Nat → List Char → Option (Node × List Char)
  | 0, _ => none
  | n + 1, s =>
    match s with
    | '"' :: _ => (quoted? s).map fun (text, rest) => (.str (String.ofList text), rest)
    | '\'' :: _ => (quoted? s).map fun (text, rest) => (.str (String.ofList text), rest)
    | '[' :: t =>
      if room = 0 then none
      else do
        let (items, rest) ← readItems? (room - 1) n t
        return (.array items, rest)
    | '\x7b' :: t =>
      if room = 0 then none
      else do
        let (entries, rest) ← readPairs? (room - 1) n t
        return (← inlineTable? entries, rest)
    | _ => readScalar? s

/-- The items of a list with commas between them, and one perhaps after the last, up to the
closing bracket. -/
def readItems? (room : Nat) : Nat → List Char → Option (List Node × List Char)
  | 0, _ => none
  | n + 1, s => do
    match ← skipLines? s.length s with
    | ']' :: rest => return ([], rest)
    | t => do
      let (item, rest) ← readValue? room n t
      match ← skipLines? rest.length rest with
      | ',' :: rest => do
        let (items, rest) ← readItems? room n rest
        return (item :: items, rest)
      | ']' :: rest => return ([item], rest)
      | _ => none

/-- The entries of a table in braces with commas between them, and one perhaps after the last, up
to the closing brace. -/
def readPairs? (room : Nat) : Nat → List Char → Option (List (Path × Node) × List Char)
  | 0, _ => none
  | n + 1, s => do
    match ← skipLines? s.length s with
    | '\x7d' :: rest => return ([], rest)
    | t => do
      let (path, rest) ← readKey? t
      let '=' :: u := rest | none
      let (value, rest) ← readValue? room n (skipBlanks u)
      match ← skipLines? rest.length rest with
      | ',' :: rest => do
        let (pairs, rest) ← readPairs? room n rest
        return ((path, value) :: pairs, rest)
      | '\x7d' :: rest => return ([(path, value)], rest)
      | _ => none

end

/-- A header or an entry, with the end of its line. -/
def readStatement? (s : List Char) : Option (Statement × List Char) := do
  match s with
  | '[' :: '[' :: t => do
    let (path, rest) ← readKey? t
    let ']' :: ']' :: rest := rest | none
    return (.listHeader path, ← endLine? rest)
  | '[' :: t => do
    let (path, rest) ← readKey? t
    let ']' :: rest := rest | none
    return (.header path, ← endLine? rest)
  | _ => do
    let (path, rest) ← readKey? s
    let '=' :: t := rest | none
    let u := skipBlanks t
    let (value, rest) ← readValue? maxNesting (u.length + 1) u
    return (.entry path value, ← endLine? rest)

/-- All statements. The number bounds how many there are. -/
def readStatements? : Nat → List Char → Option (List Statement)
  | 0, _ => none
  | n + 1, s => do
    match ← skipLines? s.length s with
    | [] => return []
    | t => do
      let (statement, rest) ← readStatement? t
      return statement :: (← readStatements? n rest)

/-- The table of a document. A byte order mark in front of it is skipped. -/
def read? (source : String) : Option Node := do
  let s := match source.toList with
    | '\uFEFF' :: t => t
    | t => t
  assemble? (← readStatements? (s.length + 1) s)

end StarSchema.Toml
