import Mathlib.Algebra.Group.Int.Defs
import StarSchema.Proofs.Sql.Lines
import StarSchema.Proofs.Sql.Statement

/-!
# Row caps as they are read

A capped query ends with a clause on a line of its own, and in T-SQL a clause that orders the rows
stands before it. The number in the clause is what a reader takes for the cap. It is the cap as long
as that is in the signed range; a cap from `2 ^ 63` on is written as the negative number of the same
64 bits.

## Implementation notes

Nothing is assumed of the expressions in the query, so its text need not be readable as a whole. The
clause is therefore read by itself, and with the text before it where that is read: a line break
separates them, which is all that this takes.

Main definitions: `Dialect.readRowCap?`, `Query.orderText`, `Query.IsCapped`.

Main result: `Query.exists_isCapped`.
-/

namespace StarSchema.Sql

variable {d : Dialect} {q : Query}

/-! ### The reader's side -/

/-- The number that digits after an optional sign denote. No width bounds it. -/
def wholeNumber? (s : String) : Option Int :=
  let (negative, digits) := Numeral.splitSign s.toList
  if digits.isEmpty || !digits.all Char.isDigit then none
  else some (if negative then -Numeral.natOfDigits digits else Numeral.natOfDigits digits)

/-- The cap that a clause sets by the grammar of the dialect. In T-SQL the clause skips no row and
fetches the next ones. -/
def Dialect.readRowCap? (d : Dialect) (clause : List Lexeme) : Option Int :=
  match d, clause with
  | .tsql, [.word "OFFSET", .number "0", .word "ROWS", .word "FETCH", .word "NEXT", .number n,
      .word "ROWS", .word "ONLY"] => wholeNumber? n
  | .tsql, _ => none
  | _, [.word "LIMIT", .number n] => wholeNumber? n
  | _, _ => none

/-- The text of the keys that the rows are ordered by: those of the query, or a constant if it has
none, which leaves the order open. -/
def Query.orderText (d : Dialect) (q : Query) : List Char :=
  if q.orderBy.isEmpty then "(SELECT NULL)".toList
  else (Token.commaList (q.orderBy.map (SortKey.tokens d))).flatMap (Token.chars d)

/-- The text of a query ends in a clause that caps its rows at a number, and in T-SQL the clause
before that one orders them. -/
structure Query.IsCapped (q : Query) (d : Dialect) (before clause : List Char) (cap : Int) :
    Prop where
  text : (q.sql d).toList = before ++ '\n' :: clause
  oneLine : '\n' ∉ clause
  /-- Alone, the clause is read as one that caps the rows. -/
  read : (lex d.lexicalRules clause).bind d.readRowCap? = some cap
  /-- It is read in the same way at its place. -/
  inPlace : ∀ ls, lex d.lexicalRules before = some ls →
    lex d.lexicalRules (q.sql d).toList = (lex d.lexicalRules clause).map (ls ++ ·)
  ordered : d = .tsql → ∃ front,
    before = front ++ '\n' :: ("ORDER BY ".toList ++ q.orderText d) ∧
    ∀ ls, lex d.lexicalRules front = some ls → lex d.lexicalRules before =
      (lex d.lexicalRules (q.orderText d)).map (ls ++ .word "ORDER" :: .word "BY" :: ·)

/-! ### The number -/

/-- A printed integer is read as it was, whatever its size. -/
theorem wholeNumber?_ofInt (n : Int) : wholeNumber? (String.ofList (Numeral.ofInt n)) = some n := by
  rw [wholeNumber?, String.toList_ofList, Numeral.splitSign_ofInt]
  simp only [Numeral.all_isDigit_digitsOfNat, Numeral.natOfDigits_digitsOfNat, Bool.not_true,
    Bool.or_self, Bool.false_eq_true, if_false, decide_eq_true_eq, Option.some.injEq]
  split <;> omega

/-- The signed number of the same 64 bits. -/
theorem toInt_toInt64 (n : UInt64) :
    n.toInt64.toInt = if n.toNat < 2 ^ 63 then (n.toNat : Int) else n.toNat - 2 ^ 64 := by
  have bits : n.toInt64.toInt =
      if 2 * n.toNat < 2 ^ 64 then (n.toNat : Int) else n.toNat - 2 ^ 64 :=
    BitVec.toInt_eq_toNat_cond n.toBitVec
  rw [bits]
  split <;> split <;> omega

theorem toInt_toInt64_eq_iff (n : UInt64) : n.toInt64.toInt = n.toNat ↔ n.toNat < 2 ^ 63 := by
  rw [toInt_toInt64]
  split <;> omega

theorem newline_notMem_ofInt (n : Int) : '\n' ∉ Numeral.ofInt n := by
  have digits : '\n' ∉ Numeral.digitsOfNat n.natAbs := by
    intro h
    cases Numeral.isDigit_of_mem_digitsOfNat h
  unfold Numeral.ofInt
  split <;> simp [digits]

/-! ### The clauses -/

theorem readRowCap?_rowCapTokens (cap : UInt64) :
    (lex d.lexicalRules ((d.rowCapTokens cap).flatMap (Token.chars d))).bind d.readRowCap? =
      some cap.toInt64.toInt := by
  have read := legible_rowCap (d := d) cap [] seam_nil
  rw [List.append_nil, lex_nil, Option.map_some, List.append_nil] at read
  rw [read, Option.bind_some]
  cases d <;> exact wholeNumber?_ofInt _

/-- The clause is one line, since only blanks, words and numbers stand in it. -/
theorem newline_notMem_rowCapTokens (cap : UInt64) :
    '\n' ∉ (d.rowCapTokens cap).flatMap (Token.chars d) := by
  have keyword (k : Keyword) : '\n' ∉ k.text.toList := by
    cases k <;> decide
  rw [Dialect.rowCapTokens]
  split <;> simp [Token.before, Token.phrase, Token.chars, keyword, newline_notMem_ofInt]

/-- In T-SQL a capped query is always ordered. -/
theorem chars_orderTokens {cap : UInt64} (h : q.limit? = some cap) :
    (q.orderTokens .tsql).flatMap (Token.chars .tsql) =
      '\n' :: ("ORDER BY ".toList ++ q.orderText .tsql) := by
  rw [Query.orderTokens, Query.orderText, h]
  cases q.orderBy <;> rfl

theorem lex_orderBy (keys : List Char) :
    lex d.lexicalRules ("ORDER BY ".toList ++ keys) =
      (lex d.lexicalRules keys).map (.word "ORDER" :: .word "BY" :: ·) := by
  have blank : Seam (' ' :: keys) := by simp [seams]
  have words := lex_words (d := d) blank ["ORDER", "BY"] (by decide)
  rw [lex_space] at words
  exact words

/-! ### The query -/

theorem exists_tokens_eq {cap : UInt64} (h : q.limit? = some cap) :
    ∃ front, q.tokens d = front ++ q.orderTokens d ++ .newline :: d.rowCapTokens cap := by
  rw [Query.tokens, h]
  exact ⟨_, rfl⟩

theorem isCapped_of_tokens_eq {cap : UInt64} {front : List Token} (h : q.limit? = some cap)
    (tokens : q.tokens d = front ++ q.orderTokens d ++ .newline :: d.rowCapTokens cap) :
    q.IsCapped d ((front ++ q.orderTokens d).flatMap (Token.chars d))
      ((d.rowCapTokens cap).flatMap (Token.chars d)) cap.toInt64.toInt := by
  have text : (q.sql d).toList = (front ++ q.orderTokens d).flatMap (Token.chars d) ++
      '\n' :: (d.rowCapTokens cap).flatMap (Token.chars d) := by
    rw [Query.sql, render, String.toList_ofList, tokens, List.flatMap_append, List.flatMap_cons]
    rfl
  refine ⟨text, newline_notMem_rowCapTokens cap, readRowCap?_rowCapTokens cap, ?_, ?_⟩
  · intro ls read
    rw [text]
    exact lex_append_newline read _
  · rintro rfl
    rw [List.flatMap_append, chars_orderTokens h]
    refine ⟨front.flatMap (Token.chars .tsql), rfl, ?_⟩
    intro ls read
    rw [lex_append_newline read, lex_orderBy, Option.map_map]
    rfl

/-- **A row cap is written as it is in the signed range and nowhere else.** Every query with a limit
ends in a clause that caps its rows at some number, after an order in T-SQL; the number is the limit
just if that is below `2 ^ 63`, and otherwise it is negative. -/
theorem Query.exists_isCapped {q : Query} {cap : UInt64} (h : q.limit? = some cap) (d : Dialect) :
    ∃ before clause written, q.IsCapped d before clause written ∧
      (written = cap.toNat ↔ cap.toNat < 2 ^ 63) ∧
      (2 ^ 63 ≤ cap.toNat → written = cap.toNat - 2 ^ 64 ∧ written < 0) := by
  obtain ⟨front, tokens⟩ := exists_tokens_eq (d := d) h
  refine ⟨_, _, _, isCapped_of_tokens_eq h tokens, toInt_toInt64_eq_iff cap, ?_⟩
  intro large
  have bound := cap.toNat_lt
  rw [toInt_toInt64, if_neg (by omega)]
  omega

/-- A query that asks for as many rows as a limit can say. -/
def allRows : Query where
  select := [⟨.column "orders" "id", none⟩]
  from? := some "orders"
  limit? := some 18446744073709551615

theorem exists_isCapped_allRows : allRows.limit? = some 18446744073709551615 ∧
    ∃ before clause, allRows.IsCapped .tsql before clause (-1) := by
  obtain ⟨before, clause, written, capped, -, large⟩ :=
    Query.exists_isCapped (q := allRows) rfl .tsql
  obtain ⟨value, -⟩ := large (by decide)
  have last : written = -1 := value
  rw [last] at capped
  exact ⟨rfl, before, clause, capped⟩

end StarSchema.Sql
