import StarSchema.Proofs.Sql.Legible

/-!
# Where a date literal ends

The text of a date stands in quotes. Two dialects double the quotes inside, like those of any
string, and a date of theirs is read as it was given whatever its text is. The three others write
the text as it stands. There a date is closed just if its text has no quote, and what follows a
quote that stands alone is read as SQL.

## Implementation notes

A reader without escapes takes exactly the doubled text and one closing character, so from a text
that comes back as it was given the quotes can be counted: doubled and not doubled they are as many,
which leaves none.

Main definition: `Dialect.ClosesDate`.

Main results: `readQuoted_eq_some_iff`, `closesDate_iff`.
-/

namespace StarSchema.Sql

variable {d : Dialect}

/-! ### What has been read of a quoted text -/

/-- Without escapes, a quoted text is read to the end of what it says, written with its closing
character doubled. -/
theorem readQuoted_eq_some_iff {closing : Char} {s text rest : List Char} (hq : closing ≠ '\\') :
    readQuoted closing false s = some (text, rest) ↔
      s = Quoted.doubled closing text ++ closing :: rest ∧ rest.head? ≠ some closing := by
  constructor
  · intro h
    fun_induction readQuoted closing false s generalizing text rest with
    | case1 => cases h
    | case2 =>
      cases h
      simp
    | case3 => cases h
    | case4 c x s escape _ => cases escape.1
    | case5 c x s _ plain ih =>
      obtain ⟨text', h', rfl⟩ := continued_eq_some_iff.mp h
      obtain ⟨split, open_⟩ := ih h'
      rw [split]
      exact ⟨by simp [Quoted.doubled, plain], open_⟩
    | case6 c s _ closes ih =>
      obtain ⟨text', h', rfl⟩ := continued_eq_some_iff.mp h
      obtain ⟨split, open_⟩ := ih h'
      rw [split]
      exact ⟨by simp_all [Quoted.doubled], open_⟩
    | case7 c x s _ closes alone =>
      cases h
      exact ⟨by simp_all, by simpa using alone⟩
  · rintro ⟨rfl, open_⟩
    have read := @readQuoted_doubled closing false rest hq open_ text
    rwa [if_neg Bool.false_ne_true] at read

/-- A text in bare quotes that is read as it stands has no quote. -/
theorem quote_notMem_of_lex_bare {s : List Char} (escapes : d.spelling.escapesBackslash = false)
    (h : lex d.lexicalRules (Quoted.bare s) = some [.string (String.ofList s)]) : '\'' ∉ s := by
  have rules : d.lexicalRules.escapesBackslash = false := by
    rw [← escapes]
    cases d <;> rfl
  obtain ⟨first, rest, others, one, -, parts⟩ := exists_of_lex_cons h
  rw [lexOne_quote, readString, rules, Option.map_eq_some_iff] at one
  obtain ⟨⟨text, rest'⟩, read, taken⟩ := one
  cases taken
  obtain ⟨split, -⟩ := (readQuoted_eq_some_iff (by decide)).mp read
  have same : s = text := String.ofList_injective (by simpa using congrArg List.head? parts)
  rw [← same] at split
  have quotes : s.count '\'' + 1 = 2 * s.count '\'' + (rest.count '\'' + 1) := by
    have counts := congrArg (List.count '\'') split
    simpa [Quoted.count_doubled] using counts
  exact List.count_eq_zero.mp (by omega)

/-! ### Dates -/

theorem toList_sql_date (s : String) :
    ((Expr.literal (.date s)).sql d).toList = d.spelling.dateLiteral s.toList := by
  simp [Expr.sql, Expr.tokens, Literal.token, render, Token.chars]

/-- The text of a date is read as that date and nothing else, in front of anything but one more
quote. -/
def Dialect.ClosesDate (d : Dialect) (s : String) : Prop :=
  ∀ rest : List Char, rest.head? ≠ some '\'' →
    lex d.lexicalRules (((Expr.literal (.date s)).sql d).toList ++ rest) =
      (lex d.lexicalRules rest).map (d.dateLexemes s ++ ·)

theorem dates_eq_string_iff : d.spelling.dates = .string ↔ d = .mysql ∨ d = .sqlite := by
  cases d <;> decide

theorem closesDate_of_closed {s : String} (closed : d.spelling.dates = .string ∨ '\'' ∉ s.toList) :
    d.ClosesDate s := by
  intro rest h
  rw [toList_sql_date, lex_dateLiteral closed h, String.ofList_toList]

/-- A date that is read as it was given has no quote, unless the dialect doubles them. -/
theorem quote_notMem_of_lex_date {s : String} (bare : d.spelling.dates ≠ .string)
    (h : lex d.lexicalRules (d.spelling.dateLiteral s.toList) = some (d.dateLexemes s)) :
    '\'' ∉ s.toList := by
  have unmarked (h : lex d.lexicalRules ("DATE".toList ++ (' ' :: Quoted.bare s.toList)) =
      some [.word "DATE", .string s]) :
      lex d.lexicalRules (Quoted.bare s.toList) = some [.string (String.ofList s.toList)] := by
    rw [lex_word (by simp [seams]) (by decide), lex_space, Option.map_eq_some_iff] at h
    obtain ⟨ls, read, parts⟩ := h
    rw [read, String.ofList_toList]
    simpa using parts
  cases d with
  | duckdb | postgres => exact quote_notMem_of_lex_bare rfl (unmarked h)
  | sqlite | mysql => exact absurd rfl bare
  | tsql => exact quote_notMem_of_lex_bare (d := .tsql) rfl (by rwa [String.ofList_toList])

/-- **A date is closed just if its quotes are doubled or it has none.** If a date is read as it was
given, then wherever it stands. Where it is not, and a quote stands alone in its text, the literal
ends there and the rest of the text is read as SQL. -/
theorem closesDate_iff (d : Dialect) (s : String) :
    (d.ClosesDate s ↔ d = .mysql ∨ d = .sqlite ∨ '\'' ∉ s.toList) ∧
    (lex d.lexicalRules ((Expr.literal (.date s)).sql d).toList = some (d.dateLexemes s) ↔
      d.ClosesDate s) ∧
    ∀ (content code : List Char) (c : Char), d ≠ .mysql → d ≠ .sqlite → c ≠ '\'' →
      s.toList = Quoted.doubled '\'' content ++ '\'' :: c :: code →
      ∀ rest, lex d.lexicalRules (((Expr.literal (.date s)).sql d).toList ++ rest) =
        (lex d.lexicalRules (c :: code ++ '\'' :: rest)).map
          (d.dateLexemes (String.ofList content) ++ ·) := by
  have alone (h : d.ClosesDate s) :
      lex d.lexicalRules ((Expr.literal (.date s)).sql d).toList = some (d.dateLexemes s) := by
    simpa using h [] (by simp)
  have closed (h : lex d.lexicalRules ((Expr.literal (.date s)).sql d).toList =
      some (d.dateLexemes s)) : d.spelling.dates = .string ∨ '\'' ∉ s.toList := by
    rw [toList_sql_date] at h
    exact Decidable.or_iff_not_imp_left.mpr fun bare => quote_notMem_of_lex_date bare h
  refine ⟨?_, ⟨fun h => closesDate_of_closed (closed h), alone⟩, ?_⟩
  · rw [← or_assoc, ← dates_eq_string_iff]
    exact ⟨fun h => closed (alone h), closesDate_of_closed⟩
  · intro content code c hmysql hsqlite hc text rest
    have bare : d.spelling.dates ≠ .string := by
      rw [Ne, dates_eq_string_iff]
      simp [hmysql, hsqlite]
    rw [toList_sql_date]
    refine lex_bareDate bare ?_ (by simpa using hc)
    simp [text]

/-- A condition behind a day, with the last quote in a comment. -/
def dayOrAnything : String := "2020-01-01' OR 1 = 1 --"

theorem closesDate_iff_dayOrAnything :
    (¬ Dialect.postgres.ClosesDate dayOrAnything ∧ Dialect.mysql.ClosesDate dayOrAnything) ∧
    dayOrAnything.toList =
      Quoted.doubled '\'' "2020-01-01".toList ++ '\'' :: ' ' :: "OR 1 = 1 --".toList ∧
    lex Dialect.postgres.lexicalRules ((Expr.literal (.date dayOrAnything)).sql .postgres).toList =
      some [.word "DATE", .string "2020-01-01", .word "OR", .number "1", .symbol .eq, .number "1",
        .comment] := by
  have text : dayOrAnything.toList =
      Quoted.doubled '\'' "2020-01-01".toList ++ '\'' :: ' ' :: "OR 1 = 1 --".toList := by decide
  have condition : lex Dialect.postgres.lexicalRules (' ' :: "OR 1 = 1 --".toList ++ ['\'']) =
      some [.word "OR", .number "1", .symbol .eq, .number "1", .comment] := by decide +kernel
  obtain ⟨closed, -, read⟩ := closesDate_iff .postgres dayOrAnything
  refine ⟨⟨?_, (closesDate_iff .mysql dayOrAnything).1.mpr (.inl rfl)⟩, text, ?_⟩
  · rw [closed]
    decide
  · have whole := read _ _ _ (by decide) (by decide) (by decide) text []
    rw [List.append_nil, condition] at whole
    exact whole

end StarSchema.Sql
