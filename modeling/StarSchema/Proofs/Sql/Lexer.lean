import Mathlib.Tactic.SplitIfs
import StarSchema.Sql.Token

/-!
# Reading SQL text

How a database cuts a text into lexemes, by the lexical rules that its dialect documents. Nothing
here looks at how the texts are written: the rules are stated from the reader's side, and that the
two sides fit together is proved in `Proofs/Sql/Lexing` and `Proofs/Sql/Statement`.

## The rules

A name stands in quotes of its own and a string in single quotes; inside, the closing character
written twice stands for itself. MySQL alone reads a backslash in a string as an escape, and only
T-SQL lets an `N` in front mark a string. Two minus signs open a comment that ends with the line,
and `/*` one that ends with `*/`. A minus sign directly before a digit belongs to the number.

Main definitions: `Lexeme`, `LexicalRules`, `Dialect.lexicalRules`, `lex`.

Main results: `lex_cons`, `exists_of_lex_cons`.
-/

namespace StarSchema.Sql

/-- What a reader of SQL tells apart in a text. -/
inductive Lexeme where
  /-- A keyword, or the name of a type or function. -/
  | word (s : String)
  | number (s : String)
  /-- A quoted name, by what it names. -/
  | name (s : String)
  /-- A string literal, by what it denotes. -/
  | string (s : String)
  | symbol (s : Symbol)
  /-- Two vertical bars. -/
  | bars
  | comment
deriving DecidableEq

/-- What dialects read differently. -/
structure LexicalRules where
  /-- The characters around a name. -/
  nameQuotes : Char × Char
  /-- Whether a backslash in a string is an escape. -/
  escapesBackslash : Bool
  /-- Whether an `N` may stand before a string. -/
  allowsNational : Bool

def Dialect.lexicalRules : Dialect → LexicalRules
  | .duckdb | .postgres | .sqlite => ⟨('"', '"'), false, false⟩
  | .mysql => ⟨('\x60', '\x60'), true, false⟩
  | .tsql => ⟨('[', ']'), false, true⟩

/-! ### The parts of a text

Each reader takes its part from the front of a text and returns it with the rest. -/

/-- What a backslash and the character after it stand for. -/
def unescaped : Char → List Char
  | '0' => ['\x00']
  | 'b' => ['\x08']
  | 'n' => ['\n']
  | 'r' => ['\r']
  | 't' => ['\t']
  | 'Z' => ['\x1a']
  -- these two stay escaped, for a pattern that the text may be used as
  | '%' => ['\\', '%']
  | '_' => ['\\', '_']
  | c => [c]

/-- A text that goes on from what has been read of it. -/
def continued (read : List Char) :
    Option (List Char × List Char) → Option (List Char × List Char) :=
  Option.map fun (text, rest) => (read ++ text, rest)

/-- A quoted text, after the opening character. -/
def readQuoted (closing : Char) (escapes : Bool) : List Char → Option (List Char × List Char)
  | [] => none
  | [c] => if c = closing then some ([], []) else none
  | c :: x :: s =>
    if escapes ∧ c = '\\' then continued (unescaped x) (readQuoted closing escapes s)
    else if c ≠ closing then continued [c] (readQuoted closing escapes (x :: s))
    else if x = closing then continued [closing] (readQuoted closing escapes s)
    else some ([], x :: s)

/-- A point and the digits after it. -/
def readPoint (s : List Char) : List Char × List Char :=
  match s with
  | '.' :: t => ('.' :: t.takeWhile Char.isDigit, t.dropWhile Char.isDigit)
  | _ => ([], s)

/-- The sign in front of a power of ten. -/
def readPowerSign (s : List Char) : List Char × List Char :=
  match s with
  | '-' :: t => (['-'], t)
  | '+' :: t => (['+'], t)
  | _ => ([], s)

/-- A power of ten. An `e` without digits is none. -/
def readPower (s : List Char) : List Char × List Char :=
  match s with
  | [] => ([], [])
  | c :: t =>
    let (sign, afterSign) := readPowerSign t
    let digits := afterSign.takeWhile Char.isDigit
    if c.toLower = 'e' ∧ digits ≠ [] then
      (c :: sign ++ digits, afterSign.dropWhile Char.isDigit)
    else ([], s)

/-- A number without its sign. -/
def readNumber (s : List Char) : List Char × List Char :=
  let (places, afterPlaces) := readPoint (s.dropWhile Char.isDigit)
  let (power, rest) := readPower afterPlaces
  (s.takeWhile Char.isDigit ++ places ++ power, rest)

/-- What follows a comment, after its opening. -/
def skipComment : List Char → Option (List Char)
  | '*' :: '/' :: s => some s
  | _ :: s => skipComment s
  | [] => none

def readSymbol? : List Char → Option (Lexeme × List Char)
  | '<' :: '>' :: s => some (.symbol .ne, s)
  | '<' :: '=' :: s => some (.symbol .le, s)
  | '>' :: '=' :: s => some (.symbol .ge, s)
  | '|' :: '|' :: s => some (.bars, s)
  | ',' :: s => some (.symbol .comma, s)
  | '.' :: s => some (.symbol .dot, s)
  | '(' :: s => some (.symbol .leftParen, s)
  | ')' :: s => some (.symbol .rightParen, s)
  | '=' :: s => some (.symbol .eq, s)
  | '<' :: s => some (.symbol .lt, s)
  | '>' :: s => some (.symbol .gt, s)
  | '+' :: s => some (.symbol .plus, s)
  | '-' :: s => some (.symbol .minus, s)
  | '*' :: s => some (.symbol .times, s)
  | '/' :: s => some (.symbol .divide, s)
  | _ => none

def isSpace (c : Char) : Bool :=
  c == ' ' || c == '\n' || c == '\t' || c == '\r'

def isWordStart (c : Char) : Bool :=
  c.isAlpha || c == '_'

def isWordChar (c : Char) : Bool :=
  c.isAlphanum || c == '_'

/-- A string literal, after its opening quote. -/
def readString (r : LexicalRules) (s : List Char) : Option (List Lexeme × List Char) :=
  (readQuoted '\'' r.escapesBackslash s).map fun (text, rest) =>
    ([.string (String.ofList text)], rest)

/-- The lexeme that starts with a character, and the rest of the text; a blank gives none. -/
def lexOne (r : LexicalRules) (c : Char) (s : List Char) : Option (List Lexeme × List Char) :=
  if isSpace c then some ([], s)
  else if c = r.nameQuotes.1 then
    (readQuoted r.nameQuotes.2 false s).map fun (text, rest) => ([.name (String.ofList text)], rest)
  else if c = '\'' then readString r s
  else if r.allowsNational ∧ c = 'N' ∧ s.head? = some '\'' then readString r s.tail
  else if c = '-' ∧ s.head? = some '-' then some ([.comment], s.dropWhile (· != '\n'))
  else if c = '/' ∧ s.head? = some '*' then (skipComment s.tail).map ([.comment], ·)
  else if c.isDigit then
    some ([.number (String.ofList (readNumber (c :: s)).1)], (readNumber (c :: s)).2)
  else if c = '-' ∧ s.head?.any Char.isDigit then
    some ([.number (String.ofList ('-' :: (readNumber s).1))], (readNumber s).2)
  else if isWordStart c then
    some ([.word (String.ofList (c :: s.takeWhile isWordChar))], s.dropWhile isWordChar)
  else (readSymbol? (c :: s)).map fun (l, rest) => ([l], rest)

/-! ### Every lexeme takes something from the text -/

theorem continued_eq_some_iff {read text rest : List Char}
    {x : Option (List Char × List Char)} :
    continued read x = some (text, rest) ↔
      ∃ text', x = some (text', rest) ∧ text = read ++ text' := by
  simp only [continued, Option.map_eq_some_iff, Prod.exists, Prod.mk.injEq]
  constructor
  · rintro ⟨text', rest', h, rfl, rfl⟩
    exact ⟨text', h, rfl⟩
  · rintro ⟨text', h, rfl⟩
    exact ⟨text', rest, h, rfl, rfl⟩

theorem length_readQuoted_lt {closing : Char} {escapes : Bool} {s text rest : List Char}
    (h : readQuoted closing escapes s = some (text, rest)) : rest.length < s.length := by
  fun_induction readQuoted closing escapes s generalizing text rest with
  | case1 => cases h
  | case2 =>
    cases h
    simp
  | case3 => cases h
  | case4 c x s _ ih | case5 c x s _ _ ih | case6 x s _ _ ih =>
    obtain ⟨text', h', -⟩ := continued_eq_some_iff.mp h
    have := ih h'
    simp only [List.length_cons] at this ⊢
    omega
  | case7 =>
    cases h
    simp

theorem length_dropWhile_le (p : Char → Bool) (s : List Char) :
    (s.dropWhile p).length ≤ s.length :=
  (List.dropWhile_sublist p).length_le

theorem length_readPoint_le (s : List Char) : (readPoint s).2.length ≤ s.length := by
  unfold readPoint
  split
  · next t =>
    have := length_dropWhile_le Char.isDigit t
    simp only [List.length_cons]
    omega
  · exact Nat.le_refl _

theorem length_readPowerSign_le (s : List Char) : (readPowerSign s).2.length ≤ s.length := by
  unfold readPowerSign
  split <;> simp

theorem length_readPower_le (s : List Char) : (readPower s).2.length ≤ s.length := by
  unfold readPower
  split
  · exact Nat.le_refl _
  · next c t =>
    have sign := length_readPowerSign_le t
    have digits := length_dropWhile_le Char.isDigit (readPowerSign t).2
    dsimp only
    split_ifs
    · simp only [List.length_cons]
      omega
    · exact Nat.le_refl _

theorem length_readNumber_le (s : List Char) :
    (readNumber s).2.length ≤ (s.dropWhile Char.isDigit).length :=
  Nat.le_trans (length_readPower_le _) (length_readPoint_le _)

theorem length_skipComment_le {s rest : List Char} (h : skipComment s = some rest) :
    rest.length ≤ s.length := by
  fun_induction skipComment s with
  | case1 s =>
    cases h
    simp only [List.length_cons]
    omega
  | case2 c s _ ih =>
    have := ih h
    simp only [List.length_cons]
    omega
  | case3 => cases h

theorem length_readSymbol?_lt {s rest : List Char} {l : Lexeme}
    (h : readSymbol? s = some (l, rest)) : rest.length < s.length := by
  unfold readSymbol? at h
  split at h <;> cases h <;> simp only [List.length_cons] <;> omega

theorem length_readString_lt {r : LexicalRules} {s rest : List Char} {ls : List Lexeme}
    (h : readString r s = some (ls, rest)) : rest.length < s.length := by
  obtain ⟨⟨text, rest'⟩, hq, heq⟩ := Option.map_eq_some_iff.mp h
  cases heq
  exact length_readQuoted_lt hq

theorem length_lexOne_le {r : LexicalRules} {c : Char} {s rest : List Char} {ls : List Lexeme}
    (h : lexOne r c s = some (ls, rest)) : rest.length ≤ s.length := by
  unfold lexOne at h
  split_ifs at h with space name quote national dashes comment digit sign word
  · cases h
    exact Nat.le_refl _
  · obtain ⟨⟨text, rest'⟩, hq, heq⟩ := Option.map_eq_some_iff.mp h
    cases heq
    exact Nat.le_of_lt (length_readQuoted_lt hq)
  · exact Nat.le_of_lt (length_readString_lt h)
  · have := length_readString_lt h
    simp only [List.length_tail] at this
    omega
  · cases h
    exact length_dropWhile_le _ s
  · obtain ⟨rest', hs, heq⟩ := Option.map_eq_some_iff.mp h
    cases heq
    have := length_skipComment_le hs
    simp only [List.length_tail] at this
    omega
  · cases h
    have := length_readNumber_le (c :: s)
    rw [List.dropWhile_cons_of_pos digit] at this
    exact Nat.le_trans this (length_dropWhile_le _ s)
  · cases h
    exact Nat.le_trans (length_readNumber_le s) (length_dropWhile_le _ s)
  · cases h
    exact length_dropWhile_le _ s
  · obtain ⟨⟨l, rest'⟩, hs, heq⟩ := Option.map_eq_some_iff.mp h
    cases heq
    have := length_readSymbol?_lt hs
    simp only [List.length_cons] at this
    omega

/-! ### A whole text -/

/-- The lexemes of a text; none where a quoted text or a comment has no end, or a character starts
no lexeme. -/
def lex (r : LexicalRules) : List Char → Option (List Lexeme)
  | [] => some []
  | c :: s =>
    match h : lexOne r c s with
    | none => none
    | some (ls, rest) =>
      have : rest.length ≤ s.length := length_lexOne_le h
      (lex r rest).map (ls ++ ·)
termination_by s => s.length

@[simp]
theorem lex_nil (r : LexicalRules) : lex r [] = some [] := by
  rw [lex]

/-- What starts a text is read off it, and the rest is read as a text of its own. -/
theorem lex_cons {r : LexicalRules} {c : Char} {s rest : List Char} {ls : List Lexeme}
    (h : lexOne r c s = some (ls, rest)) : lex r (c :: s) = (lex r rest).map (ls ++ ·) := by
  rw [lex]
  split
  · next h' =>
    rw [h] at h'
    cases h'
  · next h' =>
    rw [h] at h'
    cases h'
    rfl

/-- A text that is read starts with something that is read, and the rest is read as well. -/
theorem exists_of_lex_cons {r : LexicalRules} {c : Char} {s : List Char} {ls : List Lexeme}
    (h : lex r (c :: s) = some ls) : ∃ first rest others,
      lexOne r c s = some (first, rest) ∧ lex r rest = some others ∧ ls = first ++ others := by
  cases one : lexOne r c s with
  | none =>
    rw [lex] at h
    split at h
    · cases h
    · next h' => simp [one] at h'
  | some taken =>
    rw [lex_cons one, Option.map_eq_some_iff] at h
    obtain ⟨others, read, rfl⟩ := h
    exact ⟨taken.1, taken.2, others, rfl, read, rfl⟩

end StarSchema.Sql
