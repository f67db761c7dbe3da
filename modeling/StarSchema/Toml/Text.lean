import StarSchema.Toml.Scalar

/-!
# Quoted strings of documents

Four kinds of strings: with escapes or literal, on one line or on several. Each reader starts
after the opening quotes and returns the contents with what follows the closing ones.

Main definitions: `Toml.basic?`, `Toml.literal?`, `Toml.multilineBasic?`,
`Toml.multilineLiteral?`.
-/

namespace StarSchema.Toml

/-- The characters that a string or a comment may hold as they are. -/
def isPlain (c : Char) : Bool :=
  c == '\t' || (0x20 ≤ c.toNat && c.toNat != 0x7F)

/-- The character with the code point that hexadecimal digits give. -/
def scalarOfHex? (digits : List Char) : Option Char :=
  let n := inBase 16 digits
  if digits.all isHexDigit && n.isValidChar then some (Char.ofNat n) else none

/-- The character that a letter after a backslash stands for. -/
def letterEscape? : Char → Option Char
  | 'b' => some '\x08'
  | 't' => some '\t'
  | 'n' => some '\n'
  | 'f' => some '\x0c'
  | 'r' => some '\r'
  | 'e' => some '\x1b'
  | '"' => some '"'
  | '\\' => some '\\'
  | _ => none

/-- A character in front of the contents that follow. -/
def before (c? : Option Char) (rest : Option (List Char × List Char)) :
    Option (List Char × List Char) := do
  let c ← c?
  let (s, t) ← rest
  return (c :: s, t)

/-- A string on one line with escapes. -/
def basic? : List Char → Option (List Char × List Char)
  | [] => none
  | '"' :: s => some ([], s)
  | '\\' :: 'x' :: a :: b :: s => before (scalarOfHex? [a, b]) (basic? s)
  | '\\' :: 'u' :: a :: b :: c :: d :: s => before (scalarOfHex? [a, b, c, d]) (basic? s)
  | '\\' :: 'U' :: a :: b :: c :: d :: e :: f :: g :: h :: s =>
    before (scalarOfHex? [a, b, c, d, e, f, g, h]) (basic? s)
  | '\\' :: c :: s => before (letterEscape? c) (basic? s)
  | c :: s => if isPlain c then before (some c) (basic? s) else none

/-- A string on one line without escapes. -/
def literal? : List Char → Option (List Char × List Char)
  | [] => none
  | '\'' :: s => some ([], s)
  | c :: s => if isPlain c then before (some c) (literal? s) else none

/-- The line end right after the opening quotes is not part of the contents. -/
def dropLineEnd : List Char → List Char
  | '\n' :: s => s
  | '\r' :: '\n' :: s => s
  | s => s

/-- Whether only blanks are left on the line. -/
def endsLine : List Char → Bool
  | [] => false
  | '\n' :: _ => true
  | '\r' :: '\n' :: _ => true
  | c :: s => (c == ' ' || c == '\t') && endsLine s

def isSpace (c : Char) : Bool :=
  c == ' ' || c == '\t' || c == '\n'

/-- The end of a string on several lines: up to two more quotes are part of the contents. -/
def closing (quote : Char) (s : List Char) : List Char × List Char :=
  match s with
  | a :: b :: t =>
    if a = quote then if b = quote then ([a, b], t) else ([a], b :: t) else ([], s)
  | [a] => if a = quote then ([a], []) else ([], s)
  | [] => ([], [])

/-- A string on several lines with escapes. A line end is kept as it is written, but after a
backslash at the end of a line all blanks and line ends are skipped. -/
def multilineBasic? (skipping : Bool) : List Char → Option (List Char × List Char)
  | [] => none
  | c :: s =>
    if skipping && isSpace c then multilineBasic? true s
    else match c, s with
      | '"', '"' :: '"' :: t => some (closing '"' t)
      | '\\', 'x' :: a :: b :: t => before (scalarOfHex? [a, b]) (multilineBasic? false t)
      | '\\', 'u' :: a :: b :: c :: d :: t =>
        before (scalarOfHex? [a, b, c, d]) (multilineBasic? false t)
      | '\\', 'U' :: a :: b :: c :: d :: e :: f :: g :: h :: t =>
        before (scalarOfHex? [a, b, c, d, e, f, g, h]) (multilineBasic? false t)
      | '\\', e :: t =>
        if endsLine (e :: t) then multilineBasic? true t
        else before (letterEscape? e) (multilineBasic? false t)
      | '\n', t => before (some '\n') (multilineBasic? false t)
      | '\r', '\n' :: t =>
        if skipping then multilineBasic? true t
        else before (some '\r') (before (some '\n') (multilineBasic? false t))
      | c, t => if isPlain c then before (some c) (multilineBasic? false t) else none

/-- A string on several lines without escapes. A line end is kept as it is written. -/
def multilineLiteral? : List Char → Option (List Char × List Char)
  | [] => none
  | '\'' :: '\'' :: '\'' :: s => some (closing '\'' s)
  | '\n' :: s => before (some '\n') (multilineLiteral? s)
  | '\r' :: '\n' :: s => before (some '\r') (before (some '\n') (multilineLiteral? s))
  | c :: s => if isPlain c then before (some c) (multilineLiteral? s) else none

/-- A quoted string of any kind, with its opening quotes. -/
def quoted? : List Char → Option (List Char × List Char)
  | '"' :: '"' :: '"' :: s => multilineBasic? false (dropLineEnd s)
  | '"' :: s => basic? s
  | '\'' :: '\'' :: '\'' :: s => multilineLiteral? (dropLineEnd s)
  | '\'' :: s => literal? s
  | _ => none

end StarSchema.Toml
