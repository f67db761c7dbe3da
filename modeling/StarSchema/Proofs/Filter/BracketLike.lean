import StarSchema.Proofs.Filter.Like
import StarSchema.Proofs.Sql.BracketPattern
import StarSchema.Proofs.Sql.Legible

/-!
# Text filters in T-SQL

What a text filter stands for is taken here from the text that is written for T-SQL: behind the
subject stands a test for a pattern, and the pattern is read by the rules of that dialect. It asks
for the user's text literally just if that text has no opening bracket in it.

Main definitions: `Sql.LikeTest`, `Sql.tsqlLikeHolds?`, `Operator.literally?`.

Main results: `Sql.tsqlLikeHolds?_like`, `Filter.tsqlLikeHolds?_iff`.
-/

namespace StarSchema

open Sql

namespace Sql

/-! ### Reading a test -/

/-- A test for a pattern, without its subject. -/
structure LikeTest where
  negated : Bool
  pattern : String
  escape : Char

namespace LikeTest

/-- The test that some lexemes are, if it is not negated. -/
def ofPositive? : List Lexeme → Option LikeTest
  | [.word "LIKE", .string pattern, .word "ESCAPE", .string escape] =>
    match escape.toList with
    | [c] => some ⟨false, pattern, c⟩
    | _ => none
  | _ => none

/-- The test that some lexemes are. -/
def ofLexemes? : List Lexeme → Option LikeTest
  | .word "NOT" :: ls => (ofPositive? ls).map fun test => { test with negated := true }
  | ls => ofPositive? ls

/-- The tokens of a test, behind its subject. -/
def tokens (test : LikeTest) : List Token :=
  (if test.negated then [.space, .keyword .not] else []) ++
    .space :: .keyword .like :: .space :: .string test.pattern ::
      [.space, .keyword .escape, .space, .string (String.singleton test.escape)]

theorem trailing_tokens (d : Dialect) (test : LikeTest) : Trailing d test.tokens := by
  have escape := (legible_string (d := d) (String.singleton test.escape)).before .escape
  have positive := ((legible_string test.pattern).cons escape.space).before .like
  obtain ⟨negated, pattern, escape⟩ := test
  cases negated with
  | false => exact positive.space
  | true => exact ((legible_keyword .not).cons positive.space).space

theorem tokens_like (d : Dialect) (subject : Expr) (test : LikeTest) :
    (Expr.like subject (.string test.pattern) test.escape test.negated).tokens d =
      subject.tokens d ++ test.tokens := by
  rw [Expr.tokens, List.append_assoc, List.append_assoc]
  rfl

/-- A test is read as what it says. -/
theorem ofLexemes?_tokens (d : Dialect) (test : LikeTest) :
    ofLexemes? (test.tokens.flatMap (Token.lexemes d)) = some test := by
  obtain ⟨negated, pattern, escape⟩ := test
  have positive : ofPositive? [.word "LIKE", .string pattern, .word "ESCAPE",
      .string (String.singleton escape)] = some ⟨false, pattern, escape⟩ := by
    simp only [ofPositive?, String.toList_singleton]
  cases negated with
  | false => exact positive
  | true => exact congrArg (Option.map _) positive

end LikeTest

/-! ### The meaning of a text -/

/-- Whether a condition written for T-SQL holds where its subject has the text `x`. There is no
answer if the condition is no test of that subject, or if its pattern is malformed. -/
def tsqlLikeHolds? (order : Char → Char → Bool) (subject condition : String) (x : List Char) :
    Option Bool := do
  let rest ← subject.toList.isPrefixOf? condition.toList
  let lexemes ← lex Dialect.tsql.lexicalRules rest
  let test ← LikeTest.ofLexemes? lexemes
  let items ← BracketItem.read? test.escape test.pattern.toList
  return BracketItem.accepts order items x != test.negated

theorem tsqlLikeHolds?_like (order : Char → Char → Bool) (subject : Expr) (test : LikeTest)
    (x : List Char) :
    tsqlLikeHolds? order (subject.sql .tsql)
        ((Expr.like subject (.string test.pattern) test.escape test.negated).sql .tsql) x =
      (BracketItem.read? test.escape test.pattern.toList).map
        fun items => BracketItem.accepts order items x != test.negated := by
  have prefixed : (subject.sql .tsql).toList.isPrefixOf?
      ((Expr.like subject (.string test.pattern) test.escape test.negated).sql .tsql).toList =
        some (test.tokens.flatMap (Token.chars .tsql)) := by
    rw [List.isPrefixOf?_eq_some_iff_append_eq, Expr.sql, Expr.sql, LikeTest.tokens_like, render,
      render, String.toList_ofList, String.toList_ofList, List.flatMap_append]
  have lexed := (test.trailing_tokens .tsql).legible [] seam_nil
  rw [List.append_nil, lex_nil, Option.map_some, List.append_nil] at lexed
  rw [tsqlLikeHolds?, prefixed]
  simp only [Option.bind_eq_bind, Option.bind_some, lexed, LikeTest.ofLexemes?_tokens,
    Option.pure_def, Option.map_eq_bind, Function.comp_def]

end Sql

/-! ### What the operators ask -/

/-- What an operator that looks for a text asks of the subject, if it takes the text literally. -/
def Operator.literally? : Operator → Option (List Char → List Char → Bool)
  | .like => some fun s x => decide (s <:+: x)
  | .notLike => some fun s x => !decide (s <:+: x)
  | .startsWith => some fun s x => decide (s <+: x)
  | .endsWith => some fun s x => decide (s <:+ x)
  | _ => none

theorem Operator.exists_test_of_literally? {op : Operator} {asks : List Char → List Char → Bool}
    (h : op.literally? = some asks) :
    ∃ anyBefore anyAfter negated, op.test = .contains anyBefore anyAfter negated ∧
      ∀ s x, asks s x =
        (PatternItem.accepts (PatternItem.likeItems anyBefore anyAfter s) x != negated) := by
  cases op with
  | like =>
    obtain rfl := Option.some.inj h
    exact ⟨true, true, false, rfl, fun s x => by rw [PatternItem.accepts_anywhere, Bool.bne_false]⟩
  | notLike =>
    obtain rfl := Option.some.inj h
    exact ⟨true, true, true, rfl, fun s x => by rw [PatternItem.accepts_anywhere, Bool.bne_true]⟩
  | startsWith =>
    obtain rfl := Option.some.inj h
    exact ⟨false, true, false, rfl, fun s x => by rw [PatternItem.accepts_at_start, Bool.bne_false]⟩
  | endsWith =>
    obtain rfl := Option.some.inj h
    exact ⟨true, false, false, rfl, fun s x => by rw [PatternItem.accepts_at_end, Bool.bne_false]⟩
  | _ => cases h

/-- The condition of an operator that looks for a text takes it literally just if it has no opening
bracket. -/
theorem Operator.tsqlLikeHolds?_predicate_iff (order : Char → Char → Bool) {op : Operator}
    {asks : List Char → List Char → Bool} (h : op.literally? = some asks) (subject : Expr)
    (s : String) :
    (∀ x, tsqlLikeHolds? order (subject.sql .tsql) ((op.predicate subject (.str s)).sql .tsql) x =
      some (asks s.toList x)) ↔ '[' ∉ s.toList := by
  obtain ⟨anyBefore, anyAfter, negated, test, asked⟩ := exists_test_of_literally? h
  have holds (x : List Char) := tsqlLikeHolds?_like order subject
    ⟨negated, String.ofList (likePattern anyBefore anyAfter s.toList), likeEscape⟩ x
  simp only [String.toList_ofList] at holds
  rw [predicate_of_contains test, ← BracketItem.literal_iff order anyBefore anyAfter s.toList]
  simp only [holds, asked, Option.map_eq_some_iff, Bool.bne_left_inj]
  constructor
  · intro literally
    obtain ⟨items, read, -⟩ := literally []
    refine ⟨items, read, fun x => ?_⟩
    obtain ⟨items', read', same⟩ := literally x
    cases read.symm.trans read'
    exact same
  · rintro ⟨items, read, literally⟩ x
    exact ⟨items, read, literally x⟩

namespace Filter

/-- **In T-SQL a text filter matches the user's text literally just if there is no opening bracket
in it.** Take a filter on texts, whatever was done to it since it was made. The value that it holds
is a text, and the filter stands for a condition. As that is written for T-SQL, the condition of
`like` holds of exactly the subjects in which the text stands, that of `notLike` of exactly those in
which it does not, that of `startsWith` of exactly those that start with it and that of `endsWith`
of exactly those that end with it, unless the text has an opening bracket; and if it has one, there
is a subject for which the condition does not, in whatever order characters are. -/
theorem tsqlLikeHolds?_iff {f : Filter} (text : f.dataType = .str) (unset : f.value? = none)
    (steps : List FilterStep) {v : Value} (held : (f.run steps).value? = some v) :
    ∃ s e, v = .str s ∧ (f.run steps).predicate? = some e ∧
      ∀ order asks, f.operator.literally? = some asks →
        ((∀ x, tsqlLikeHolds? order (f.subject.sql .tsql) (e.sql .tsql) x =
          some (asks s.toList x)) ↔ '[' ∉ s.toList) := by
  have same := f.sameQuestion_run steps
  have typed := typed_run (typed_of_value?_eq_none unset) steps
  obtain ⟨s, rfl⟩ : ∃ s, v = .str s := by
    refine Value.eq_str_of_dataType ?_
    rw [(typed v held).1, same.dataType, text]
  refine ⟨s, f.operator.predicate f.subject (.str s), rfl, ?_, ?_⟩
  · rw [typed.predicate?_eq_some held, same.operator, same.subject]
  · intro order asks family
    exact Operator.tsqlLikeHolds?_predicate_iff order family f.subject s

/-- A filter for a part of a name. -/
def namePart : Filter where
  fieldName := "Name"
  dataType := .str
  operator := .like
  subject := .column "customers" "name"

/-- A text with the two other wildcards in it, and one that is read as a set of three letters. -/
theorem tsqlLikeHolds?_iff_namePart :
    let holds? (e : Expr) : List Char → Option Bool :=
      tsqlLikeHolds? (fun c c' => decide (c ≤ c')) (namePart.subject.sql .tsql) (e.sql .tsql)
    namePart.dataType = .str ∧ namePart.value? = none ∧
    (∃ e, (namePart.run [.set (.str "50%_")]).value? = some (.str "50%_") ∧
      (namePart.run [.set (.str "50%_")]).predicate? = some e ∧
      ∀ x, holds? e x = some (decide ("50%_".toList <:+: x))) ∧
    ∃ e, (namePart.run [.set (.str "[a-c]")]).value? = some (.str "[a-c]") ∧
      (namePart.run [.set (.str "[a-c]")]).predicate? = some e ∧
      (¬ ∀ x, holds? e x = some (decide ("[a-c]".toList <:+: x))) ∧ holds? e ['b'] = some true := by
  intro holds?
  have wild : (namePart.run [.set (.str "50%_")]).value? = some (.str "50%_") := by
    decide +kernel
  have bracket : (namePart.run [.set (.str "[a-c]")]).value? = some (.str "[a-c]") := by
    decide +kernel
  obtain ⟨s, e, value, predicate, literally⟩ :=
    @tsqlLikeHolds?_iff namePart rfl rfl [.set (.str "50%_")] _ wild
  cases value
  obtain ⟨s', e', value', predicate', literally'⟩ :=
    @tsqlLikeHolds?_iff namePart rfl rfl [.set (.str "[a-c]")] _ bracket
  cases value'
  refine ⟨rfl, rfl, ⟨e, wild, predicate, (literally _ _ rfl).mpr (by decide)⟩,
    e', bracket, predicate', fun h => (literally' _ _ rfl).mp h (by decide), ?_⟩
  have condition : (namePart.run [.set (.str "[a-c]")]).predicate? =
      some (Operator.like.predicate namePart.subject (.str "[a-c]")) :=
    (typed_run (typed_of_value?_eq_none rfl) _).predicate?_eq_some bracket
  cases condition.symm.trans predicate'
  decide +kernel

end Filter

end StarSchema
