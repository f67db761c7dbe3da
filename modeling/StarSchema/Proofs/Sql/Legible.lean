import StarSchema.Proofs.Sql.Lexing
import StarSchema.Sql.Expr

/-!
# Tokens are read as what they stand for

A list of tokens is legible in a dialect when its text is read as the lexemes that the tokens stand
for. Each token is legible alone; lists are put together at seams, and the ways in which statements
put tokens together keep to them.

Main definitions: `Token.lexemes`, `Legible`, `SeamFirst`, `Expr.Plain`.

Main result: `Expr.legible_tokens`.
-/

namespace StarSchema.Sql

/-! ### What a token stands for -/

/-- The words of a keyword. -/
def Keyword.words : Keyword → List String
  | .groupBy => ["GROUP", "BY"]
  | .orderBy => ["ORDER", "BY"]
  | k => [k.text]

/-- The functions whose calls are written here. -/
def knownFunctions : List String :=
  ["COUNT", "SUM", "AVG", "CONCAT", "DATE"]

namespace Dialect

/-- The name of a column type is one word, with three exceptions. -/
def typeLexemes (d : Dialect) (t : DataType) : List Lexeme :=
  match d, t with
  | .postgres, .float => [.word "DOUBLE", .word "PRECISION"]
  | .mysql, .bool => [.word "TINYINT", .symbol .leftParen, .number "1", .symbol .rightParen]
  | .tsql, .str => [.word "NVARCHAR", .symbol .leftParen, .word "MAX", .symbol .rightParen]
  | _, _ => [.word (d.spelling.columnType t)]

/-- A truth value, which two dialects have words for. -/
def boolLexeme (d : Dialect) (b : Bool) : Lexeme :=
  match d with
  | .duckdb | .postgres => .word (if b then "true" else "false")
  | _ => .number (if b then "1" else "0")

/-- A date, which two dialects mark with a word. -/
def dateLexemes (d : Dialect) (s : String) : List Lexeme :=
  match d with
  | .duckdb | .postgres => [.word "DATE", .string s]
  | _ => [.string s]

/-- A concatenation, which in T-SQL is a sum. -/
def concatLexeme : Dialect → Lexeme
  | .tsql => .symbol .plus
  | _ => .bars

end Dialect

/-- The lexemes that a token stands for in a dialect: none for a blank, and a name or a string by
what it says. -/
def Token.lexemes (d : Dialect) : Token → List Lexeme
  | .keyword k => k.words.map .word
  | .symbol s => [.symbol s]
  | .concat => [d.concatLexeme]
  | .space | .newline | .indent _ => []
  | .name s => [.name s]
  | .int n => [.number (String.ofList (Numeral.ofInt n.toInt))]
  | .float x =>
    match x.sqlLiteral? with
    | some s => [.number (String.ofList s)]
    | none => [.word "NULL"]
  | .string s => [.string s]
  | .bool b => [d.boolLexeme b]
  | .date s => d.dateLexemes s
  | .null => [.word "NULL"]
  | .columnType t => d.typeLexemes t
  | .function f => [.word (String.ofList (Text.upper f.toList))]

/-! ### Lists of tokens -/

/-- The text of the tokens is read as what they stand for, whatever comes after a seam. -/
def Legible (d : Dialect) (ts : List Token) : Prop :=
  ∀ rest, Seam rest → lex d.lexicalRules (ts.flatMap (Token.chars d) ++ rest) =
    (lex d.lexicalRules rest).map (ts.flatMap (Token.lexemes d) ++ ·)

/-- A token whose text starts with a seam. -/
def Token.isSeam : Token → Bool
  | .space | .newline | .symbol .comma | .symbol .leftParen | .symbol .rightParen => true
  | _ => false

/-- Tokens that may stand after any others. -/
def SeamFirst (ts : List Token) : Prop :=
  ∀ t, ts.head? = some t → t.isSeam = true

@[simp]
theorem seamFirst_nil : SeamFirst [] := by
  simp [SeamFirst]

@[simp]
theorem seamFirst_cons {t : Token} {ts : List Token} : SeamFirst (t :: ts) ↔ t.isSeam = true := by
  simp [SeamFirst]

variable {d : Dialect} {t : Token} {ts us : List Token}

theorem SeamFirst.seam (h : SeamFirst ts) (hrest : Seam rest) :
    Seam (ts.flatMap (Token.chars d) ++ rest) := by
  cases ts with
  | nil => exact hrest
  | cons t ts =>
    have ht := seamFirst_cons.mp h
    unfold Token.isSeam at ht
    split at ht <;> first | cases ht; done | exact seam_cons.mpr (by decide)

/-- Legible tokens that may stand after any others. -/
structure Trailing (d : Dialect) (ts : List Token) : Prop where
  legible : Legible d ts
  seamFirst : SeamFirst ts

theorem legible_nil : Legible d [] := by
  intro rest _
  simp

theorem trailing_nil : Trailing d [] :=
  ⟨legible_nil, seamFirst_nil⟩

theorem Legible.append (hts : Legible d ts) (hus : Trailing d us) : Legible d (ts ++ us) := by
  intro rest hrest
  rw [List.flatMap_append, List.append_assoc, hts _ (hus.seamFirst.seam hrest),
    hus.legible rest hrest, Option.map_map, List.flatMap_append]
  simp [Function.comp_def]

/-- A token in front of others. -/
theorem Legible.cons (ht : Legible d [t]) (hts : Trailing d ts) : Legible d (t :: ts) :=
  ht.append hts

theorem Trailing.append (hts : Trailing d ts) (hus : Trailing d us) : Trailing d (ts ++ us) := by
  refine ⟨hts.legible.append hus, ?_⟩
  cases ts with
  | nil => exact hus.seamFirst
  | cons t ts => exact seamFirst_cons.mpr (seamFirst_cons.mp hts.seamFirst)

theorem Trailing.flatMap {α : Type} {f : α → List Token} {xs : List α}
    (h : ∀ x ∈ xs, Trailing d (f x)) : Trailing d (xs.flatMap f) := by
  induction xs with
  | nil => exact trailing_nil
  | cons x xs ih =>
    rw [List.flatMap_cons]
    exact (h x List.mem_cons_self).append (ih fun y hy => h y (List.mem_cons_of_mem _ hy))

theorem Legible.space (h : Legible d ts) : Trailing d (.space :: ts) :=
  ⟨fun rest hrest => (lex_space _).trans (h rest hrest), seamFirst_cons.mpr rfl⟩

theorem Legible.newline (h : Legible d ts) : Trailing d (.newline :: ts) :=
  ⟨fun rest hrest => (lex_newline _).trans (h rest hrest), seamFirst_cons.mpr rfl⟩

theorem lex_blanks (count : Nat) (s : List Char) :
    lex d.lexicalRules (List.replicate count ' ' ++ s) = lex d.lexicalRules s := by
  induction count with
  | zero => rfl
  | succ count ih => exact (lex_space _).trans ih

theorem Legible.indent (depth : Nat) (h : Legible d ts) : Legible d (.indent depth :: ts) := by
  intro rest hrest
  rw [List.flatMap_cons, List.append_assoc]
  exact (lex_blanks _ _).trans (h rest hrest)

/-- A symbol that ends what stands before it leaves what follows as it is. -/
theorem Legible.seam {x : Symbol} (hx : (Token.symbol x).isSeam = true) (h : Legible d ts) :
    Trailing d (.symbol x :: ts) := by
  have isOpen : x.isOpen = true := by
    cases x <;> first | rfl | cases hx
  refine ⟨fun rest hrest => ?_, seamFirst_cons.mpr hx⟩
  rw [List.flatMap_cons, List.append_assoc, List.flatMap_cons]
  show lex d.lexicalRules (x.text.toList ++ _) = _
  rw [lex_open isOpen, h rest hrest, Option.map_map]
  rfl

/-- A token is read on its own where its text is read as its lexemes. -/
theorem legible_singleton
    (h : ∀ rest, Seam rest → lex d.lexicalRules (t.chars d ++ rest) =
      (lex d.lexicalRules rest).map (t.lexemes d ++ ·)) :
    Legible d [t] := by
  intro rest hrest
  rw [List.flatMap_singleton, List.flatMap_singleton]
  exact h rest hrest

/-! ### Single tokens -/

theorem legible_keyword (k : Keyword) : Legible d [.keyword k] := by
  have text : k.text.toList = List.intercalate [' '] (k.words.map String.toList) := by
    cases k <;> rfl
  have words : ∀ w ∈ k.words, IsWord w.toList := by
    cases k <;> decide
  refine legible_singleton fun rest hrest => ?_
  show lex d.lexicalRules (k.text.toList ++ rest) = _
  rw [text]
  exact lex_words hrest k.words words

theorem legible_symbol (x : Symbol) : Legible d [.symbol x] :=
  legible_singleton fun _ hrest => lex_symbol hrest x

theorem legible_concat : Legible d [.concat] := by
  refine legible_singleton fun rest hrest => ?_
  cases d with
  | tsql => exact lex_symbol hrest .plus
  | _ => exact lex_cons rfl

theorem legible_name (s : String) : Legible d [.name s] := by
  refine legible_singleton fun rest hrest => ?_
  show lex d.lexicalRules (d.spelling.quotedName s.toList ++ rest) = _
  rw [lex_quotedName (.inl hrest), String.ofList_toList]
  rfl

/-- A column is written with a point, and no blank, between its two names. -/
theorem legible_column (table column : String) :
    Legible d [.name table, .symbol .dot, .name column] := by
  intro rest hrest
  have point := legible_name (d := d) column rest hrest
  rw [List.flatMap_cons, List.append_assoc, Token.chars, lex_quotedName (.inr rfl),
    String.ofList_toList, List.flatMap_cons, List.append_assoc, Token.chars, lex_open rfl, point,
    Option.map_map, Option.map_map]
  rfl

theorem legible_string (s : String) : Legible d [.string s] := by
  refine legible_singleton fun rest hrest => ?_
  show lex d.lexicalRules (d.spelling.quotedString s.toList ++ rest) = _
  rw [lex_quotedString (hrest.head?_ne (by decide)), String.ofList_toList]
  rfl

theorem legible_int (n : Int64) : Legible d [.int n] := by
  refine legible_singleton fun rest hrest => ?_
  obtain ⟨negative, t, text⟩ := exists_ofInt_eq n.toInt
  show lex d.lexicalRules (Numeral.ofInt n.toInt ++ rest) =
    (lex d.lexicalRules rest).map ([.number (String.ofList (Numeral.ofInt n.toInt))] ++ ·)
  rw [text]
  exact lex_number hrest negative t

theorem legible_null : Legible d [.null] :=
  legible_singleton fun _ hrest => lex_word (w := "NULL".toList) hrest (by decide)

/-- A finite number is a sign and the parts of a number. -/
theorem exists_sqlLiteral?_eq {x : Binary64} {s : List Char} (h : x.sqlLiteral? = some s) :
    ∃ (negative : Bool) (t : Binary64.NumberText), s = Binary64.signText negative ++ t.text := by
  cases x with
  | nan | infinity => cases h
  | finite negative m e canonical =>
    cases h
    split_ifs
    · exact ⟨negative, ⟨['0'], some ['0'], none, by decide, by simp⟩, rfl⟩
    · obtain ⟨t, count, text, -⟩ := Binary64.Decimal.exists_numberText
        (Binary64.shortest .toEven m e)
      exact ⟨negative, t, by rw [text]⟩

theorem legible_float (x : Binary64) : Legible d [.float x] := by
  refine legible_singleton fun rest hrest => ?_
  rw [Token.chars, Token.lexemes]
  cases literal : x.sqlLiteral? with
  | none => exact lex_word hrest (by decide)
  | some s =>
    obtain ⟨negative, t, rfl⟩ := exists_sqlLiteral?_eq literal
    exact lex_number hrest negative t

theorem lex_digit {rest : List Char} (hrest : Seam rest) {c : Char} (hc : c.isDigit = true) :
    lex d.lexicalRules (c :: rest) =
      (lex d.lexicalRules rest).map ([.number (String.ofList [c])] ++ ·) :=
  lex_number hrest false ⟨[c], none, none, List.cons_ne_nil _ _, by simp [hc]⟩

theorem legible_bool (b : Bool) : Legible d [.bool b] := by
  refine legible_singleton fun rest hrest => ?_
  cases d with
  | duckdb | postgres => cases b <;> exact lex_word hrest (by decide)
  | sqlite | mysql | tsql => cases b <;> exact lex_digit hrest rfl

/-- A date in bare quotes is read up to the first quote that stands alone. -/
theorem lex_bareDate {s rest content after : List Char} (bare : d.spelling.dates ≠ .string)
    (split : s ++ '\'' :: rest = Quoted.doubled '\'' content ++ '\'' :: after)
    (h : after.head? ≠ some '\'') :
    lex d.lexicalRules (d.spelling.dateLiteral s ++ rest) =
      (lex d.lexicalRules after).map (d.dateLexemes (String.ofList content) ++ ·) := by
  have marked (text : lex d.lexicalRules (Quoted.bare s ++ rest) =
      (lex d.lexicalRules after).map ([.string (String.ofList content)] ++ ·)) :
      lex d.lexicalRules ("DATE".toList ++ (' ' :: (Quoted.bare s ++ rest))) =
        (lex d.lexicalRules after).map
          ([.word "DATE", .string (String.ofList content)] ++ ·) := by
    rw [lex_word (by simp [seams]) (by decide), lex_space, text, Option.map_map]
    rfl
  cases d with
  | duckdb | postgres => exact marked (lex_bare rfl split h)
  | sqlite | mysql => exact absurd rfl bare
  | tsql => exact lex_bare rfl split h

/-- A date ends with its literal where the dialect doubles its quotes, and where it has none. -/
theorem lex_dateLiteral {s rest : List Char} (closed : d.spelling.dates = .string ∨ '\'' ∉ s)
    (h : rest.head? ≠ some '\'') :
    lex d.lexicalRules (d.spelling.dateLiteral s ++ rest) =
      (lex d.lexicalRules rest).map (d.dateLexemes (String.ofList s) ++ ·) := by
  by_cases quoted : d.spelling.dates = .string
  · cases d with
    | sqlite | mysql => exact lex_quotedString h s
    | duckdb | postgres | tsql => cases quoted
  · exact lex_bareDate quoted (by rw [doubled_eq_self (closed.resolve_left quoted)]) h

/-- The text of a day has no quote. -/
theorem quote_notMem_date_text (day : Date) : '\'' ∉ day.text := by
  have padded (width n : Nat) : '\'' ∉ Numeral.padded width n := by
    intro h
    cases Numeral.isDigit_of_mem_padded h
  unfold Date.text Date.yearText
  split_ifs <;> simp [padded]

theorem legible_date (day : Date) : Legible d [.date (String.ofList day.text)] := by
  refine legible_singleton fun rest hrest => ?_
  show lex d.lexicalRules (d.spelling.dateLiteral (String.ofList day.text).toList ++ rest) = _
  rw [String.toList_ofList]
  exact lex_dateLiteral (.inr (quote_notMem_date_text day)) (hrest.head?_ne (by decide))

/-- A type with an argument, which is one lexeme. -/
theorem lex_typeArgument {w arg : List Char} {l : Lexeme} (hw : IsWord w)
    (harg : ∀ rest, Seam rest →
      lex d.lexicalRules (arg ++ rest) = (lex d.lexicalRules rest).map ([l] ++ ·))
    (rest : List Char) :
    lex d.lexicalRules (w ++ ('(' :: (arg ++ (')' :: rest)))) =
      (lex d.lexicalRules rest).map
        ([.word (String.ofList w), .symbol .leftParen, l, .symbol .rightParen] ++ ·) := by
  have opening := lex_open (d := d) (x := .leftParen) rfl (arg ++ (')' :: rest))
  have closing := lex_open (d := d) (x := .rightParen) rfl rest
  change lex _ ('(' :: (arg ++ (')' :: rest))) = _ at opening
  change lex _ (')' :: rest) = _ at closing
  rw [lex_word (by simp [seams]) hw, opening, harg _ (by simp [seams]), closing, Option.map_map,
    Option.map_map, Option.map_map]
  rfl

theorem legible_columnType (t : DataType) : Legible d [.columnType t] := by
  refine legible_singleton fun rest hrest => ?_
  have number := @lex_typeArgument d "TINYINT".toList ['1'] _ (by decide)
    (fun _ hrest => lex_digit hrest rfl) rest
  have longest := @lex_typeArgument d "NVARCHAR".toList "MAX".toList _ (by decide)
    (fun _ hrest => lex_word hrest (by decide)) rest
  cases d <;> cases t
  case postgres.float => exact lex_words hrest ["DOUBLE", "PRECISION"] (by decide)
  case mysql.bool => exact number
  case tsql.str => exact longest
  all_goals exact lex_word hrest (by decide)

theorem legible_function {f : String} (hf : f ∈ knownFunctions) : Legible d [.function f] := by
  have word : IsWord (Text.upper f.toList) := by
    revert f
    decide
  exact legible_singleton fun _ hrest => lex_word hrest word

/-! ### Tokens put together -/

theorem Legible.before (k : Keyword) (h : Legible d ts) : Legible d (Token.before k ts) :=
  (legible_keyword k).cons h.space

theorem Legible.phrase (ks : List Keyword) (h : Legible d ts) : Legible d (Token.phrase ks ts) := by
  induction ks with
  | nil => exact h
  | cons k ks ih => exact ih.before k

theorem Legible.parenthesized (h : Legible d ts) : Trailing d (Token.parenthesized ts) :=
  (h.append (legible_nil.seam rfl)).seam rfl

/-- Items with separators between them that leave what follows as it is. -/
theorem legible_intercalate {sep : List Token} {items : List (List Token)}
    (hsep : ∀ ts, Legible d ts → Trailing d (sep ++ ts)) (h : ∀ ts ∈ items, Legible d ts) :
    Legible d (List.intercalate sep items) := by
  induction items with
  | nil => exact legible_nil
  | cons ts items ih =>
    have hts := h ts List.mem_cons_self
    have ih := ih fun us hus => h us (List.mem_cons_of_mem _ hus)
    cases items with
    | nil => simpa using hts
    | cons us items =>
      rw [List.intercalate_cons_cons, List.append_assoc]
      exact hts.append (hsep _ ih)

theorem legible_commaList {items : List (List Token)} (h : ∀ ts ∈ items, Legible d ts) :
    Legible d (Token.commaList items) :=
  legible_intercalate (fun _ hts => hts.space.legible.seam rfl) h

theorem trailing_commaLines {items : List (List Token)} (h : ∀ ts ∈ items, Legible d ts) :
    Trailing d (Token.commaLines items) := by
  constructor
  · refine @legible_intercalate d [.symbol .comma] _ (fun _ hts => hts.seam rfl) ?_
    intro line hline
    obtain ⟨ts, hts, rfl⟩ := List.mem_map.mp hline
    exact ((h ts hts).indent 1).newline.legible
  · -- the first line starts with its line break
    match items with
    | [] => exact seamFirst_nil
    | [_] => exact seamFirst_cons.mpr rfl
    | _ :: _ :: _ => exact seamFirst_cons.mpr rfl

/-! ### Expressions -/

/-- A date is a day of the calendar; any other literal is free. -/
def Literal.Plain : Literal → Prop
  | .date s => ∃ day : Date, s = String.ofList day.text
  | _ => True

namespace Expr

mutual

/-- Functions are known ones and dates are days; names and strings are free. -/
def Plain : Expr → Prop
  | .column _ _ => True
  | .literal l => l.Plain
  | .binary _ left right => left.Plain ∧ right.Plain
  | .call function args => function ∈ knownFunctions ∧ PlainArgs args
  | .like subject pattern _ _ => subject.Plain ∧ pattern.Plain
  | .dateOf e => e.Plain
  | .paren e => e.Plain

def PlainArgs : List Expr → Prop
  | [] => True
  | e :: es => e.Plain ∧ PlainArgs es

end

end Expr

theorem legible_literal {l : Literal} (h : l.Plain) : Legible d [l.token] := by
  cases l with
  | int n => exact legible_int n
  | float x => exact legible_float x
  | string s => exact legible_string s
  | bool b => exact legible_bool b
  | date s =>
    obtain ⟨day, rfl⟩ := h
    exact legible_date day
  | null => exact legible_null

theorem legible_binaryOp (op : BinaryOp) : Legible d [op.token] := by
  cases op with
  | and => exact legible_keyword .and
  | concat => exact legible_concat
  | _ => exact legible_symbol _

theorem legible_callTokens {f : String} (hf : f ∈ knownFunctions) {args : List (List Token)}
    (hargs : ∀ ts ∈ args, Legible d ts) : Legible d (Expr.callTokens f args) :=
  (legible_function hf).cons (legible_commaList hargs).parenthesized

theorem dateFunction_mem {f : String} (h : d.spelling.dateFunction? = some f) :
    f ∈ knownFunctions := by
  cases d <;> cases h
  decide

mutual

/-- **An expression is legible**: no name and no string in it reaches beyond its quotes. -/
theorem Expr.legible_tokens : ∀ e : Expr, e.Plain → Legible d (e.tokens d)
  | .column t c, _ => by
    rw [Expr.tokens]
    exact legible_column t c
  | .literal l, h => by
    rw [Expr.Plain] at h
    rw [Expr.tokens]
    exact legible_literal h
  | .binary op left right, h => by
    rw [Expr.Plain] at h
    have hleft := Expr.legible_tokens left h.1
    have hright := Expr.legible_tokens right h.2
    rw [Expr.tokens]
    split_ifs
    · refine legible_callTokens (by decide) ?_
      rintro ts (_ | ⟨_, _ | ⟨_, ⟨⟩⟩⟩)
      · exact hleft
      · exact hright
    · exact hleft.append ((legible_binaryOp op).cons hright.space).space
  | .call f args, h => by
    rw [Expr.Plain] at h
    rw [Expr.tokens]
    exact legible_callTokens h.1 (Expr.legible_argTokens args h.2)
  | .like subject pattern escape negated, h => by
    rw [Expr.Plain] at h
    have hsubject := Expr.legible_tokens subject h.1
    have hpattern := Expr.legible_tokens pattern h.2
    have hnot : Trailing d (if negated then [.space, .keyword .not] else []) := by
      cases negated
      · exact trailing_nil
      · exact (legible_keyword .not).space
    have hescape : Legible d (Token.before .escape [.string (String.singleton escape)]) :=
      (legible_string _).before .escape
    rw [Expr.tokens]
    exact ((hsubject.append hnot).append (hpattern.before .like).space).append hescape.space
  | .dateOf e, h => by
    rw [Expr.Plain] at h
    have he := Expr.legible_tokens e h
    rw [Expr.tokens]
    have asDate : Legible d (Token.before .as [.columnType .date]) :=
      (legible_columnType .date).before .as
    split
    · next function known =>
      refine legible_callTokens (dateFunction_mem known) ?_
      rintro ts (_ | ⟨_, ⟨⟩⟩)
      exact he
    · exact (legible_keyword .cast).cons (he.append asDate.space).parenthesized
  | .paren e, h => by
    rw [Expr.Plain] at h
    rw [Expr.tokens]
    exact (Expr.legible_tokens e h).parenthesized.legible

theorem Expr.legible_argTokens : ∀ es : List Expr, Expr.PlainArgs es →
    ∀ ts ∈ Expr.argTokens d es, Legible d ts
  | [], _ => by
    intro ts hts
    rw [Expr.argTokens] at hts
    cases hts
  | e :: es, h => by
    rw [Expr.PlainArgs] at h
    rw [Expr.argTokens]
    rintro ts (_ | ⟨_, hts⟩)
    · exact Expr.legible_tokens e h.1
    · exact Expr.legible_argTokens es h.2 ts hts

end

end StarSchema.Sql
