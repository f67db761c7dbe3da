import StarSchema.Proofs.Sql.Precedence

/-!
# Reading gives the tree back

The text of a well-parenthesised expression is read as the expression, up to what the dialect
spells alike.

## The invariant

When a well-parenthesised tree has been read, the operators on its right edge still wait, each with
its left operand, in front of the last operand (`spine`). Whatever comes next, if it binds no more
tightly than the tree, ends them all and finds the tree (`ReadsTo.reduce`).

Main definitions: `spine`, `Expr.ReadsTo`.

Main result: `Expr.readExpr?_sql`.
-/

namespace StarSchema.Sql

variable {d : Dialect} {e t left right : Expr} {op : BinaryOp}

/-! ### Levels of identified expressions -/

theorem BinaryOp.identified_of_ne (h : op ≠ .concat) : op.identified d = op := by
  cases op with
  | concat => exact absurd rfl h
  | _ => rfl

theorem BinaryOp.level_le_identified (op : BinaryOp) : op.level ≤ (op.identified d).level := by
  by_cases concat : op = .concat
  · subst concat
    cases d <;> decide
  · rw [identified_of_ne concat]

theorem Expr.level_le_identified (e : Expr) : e.level ≤ (e.identified d).level := by
  cases e with
  | binary op left right =>
    rw [identified]
    exact op.level_le_identified
  | _ => rfl

theorem Expr.isLike_identified (e : Expr) : (e.identified d).isLike = e.isLike := by
  cases e <;> rw [identified] <;> rfl

theorem Expr.level_of_isLike (h : e.isLike = true) : e.level = 1 := by
  cases e with
  | like => rfl
  | _ => cases h

theorem BinaryOp.Admits.identified (h : op.Admits left right) (d : Dialect) :
    (op.identified d).level ≤ (left.identified d).level ∧
      (op.identified d).level < (right.identified d).level := by
  by_cases concat : op = .concat
  · obtain ⟨hleft, hright⟩ := h.concat concat
    have below := (op.identified d).level_lt_five
    refine ⟨?_, Nat.lt_of_lt_of_le below (hright ▸ right.level_le_identified)⟩
    rcases hleft with atom | chain
    · exact Nat.le_trans (Nat.le_of_lt below) (atom ▸ left.level_le_identified)
    · unfold Expr.isConcat at chain
      split at chain
      · rw [concat, Expr.identified]
        exact Nat.le_refl _
      · cases chain
  · rw [identified_of_ne concat]
    exact ⟨Nat.le_trans h.level_le left.level_le_identified,
      Nat.lt_of_lt_of_le h.level_lt right.level_le_identified⟩

/-! ### Waiting operators -/

/-- The last of the operators that wait binds less tightly than the level. -/
def Below (level : Nat) (ws : Waiting) : Prop :=
  ∀ w, ws.head? = some w → w.2.level < level

theorem below_nil (level : Nat) : Below level [] := by
  intro w hw
  cases hw

theorem below_cons {level : Nat} {ws : Waiting} (h : op.level < level) :
    Below level ((e, op) :: ws) := by
  rintro w ⟨⟩
  exact h

theorem Below.mono {level level' : Nat} {ws : Waiting} (h : Below level ws)
    (le : level ≤ level') : Below level' ws :=
  fun w hw => Nat.lt_of_lt_of_le (h w hw) le

/-- Operators that bind less tightly keep waiting. -/
theorem reduce_of_below {level : Nat} {ws : Waiting} (h : Below level ws) (e : Expr) :
    reduce level ws e = (ws, e) := by
  match ws with
  | [] => rfl
  | (left, op) :: ws => rw [reduce, if_neg (Nat.not_le.mpr (h _ rfl))]

/-- What waits when a tree has been read, and the last operand. A concatenation that is a call
leaves nothing waiting. -/
def spine (d : Dialect) : Expr → Waiting → Waiting × Expr
  | .binary op left right, ws =>
    if op = .concat ∧ d.spelling.concatIsFunction = true then (ws, .binary op left right)
    else spine d right ((left, op) :: ws)
  | e, ws => (ws, e)

/-- The lexemes of an expression. -/
def Expr.lexemes (d : Dialect) (e : Expr) : List Lexeme :=
  (e.tokens d).flatMap (Token.lexemes d)

/-- The expression is read as the tree, wherever it may stand. -/
structure Expr.ReadsTo (d : Dialect) (e t : Expr) : Prop where
  read : ∀ ls stack ws, Below e.level ws →
    readTerm d (e.lexemes d ++ ls) stack ws =
      readAfter d ls stack (spine d t ws).1 (spine d t ws).2
  reduce : ∀ level ws, level ≤ t.level →
    Sql.reduce level (spine d t ws).1 (spine d t ws).2 = Sql.reduce level ws t

namespace Expr.ReadsTo

theorem finish (h : e.ReadsTo d t) : Sql.finish (spine d t []).1 (spine d t []).2 = t := by
  rw [Sql.finish, h.reduce 0 [] (Nat.zero_le _), reduce_of_below (below_nil 0)]

/-- A tree that leaves nothing waiting is read as one operand. -/
theorem of_spine (spine : ∀ ws, spine d t ws = (ws, t))
    (read : ∀ ls stack ws, readTerm d (e.lexemes d ++ ls) stack ws = readAfter d ls stack ws t) :
    e.ReadsTo d t := by
  refine ⟨fun ls stack ws _ => ?_, fun level ws _ => ?_⟩
  · rw [spine, read]
  · rw [spine]

end Expr.ReadsTo

/-! ### Names and literals -/

theorem readsTo_column (t c : String) : (Expr.column t c).ReadsTo d (.column t c) := by
  refine .of_spine (fun _ => rfl) fun ls stack ws => ?_
  rw [Expr.lexemes, Expr.tokens]
  rfl

theorem readTerm_number {s : String} {l : Literal} (h : numberLiteral? s.toList = some l)
    (ls : List Lexeme) (stack : List Frame) (ws : Waiting) :
    readTerm d (.number s :: ls) stack ws = readAfter d ls stack ws (.literal l) := by
  rw [readTerm, h]

theorem readTerm_wordLiteral {w : String} {l : Literal} (h : wordLiteral? w = some l)
    (ls : List Lexeme) (stack : List Frame) (ws : Waiting) :
    readTerm d (.word w :: ls) stack ws = readAfter d ls stack ws (.literal l) := by
  unfold readTerm
  rw [h]

theorem readTerm_literal {l : Literal} (h : l.Readable) (ls : List Lexeme) (stack : List Frame)
    (ws : Waiting) :
    readTerm d (Token.lexemes d l.token ++ ls) stack ws =
      readAfter d ls stack ws (.literal (l.identified d)) := by
  cases l with
  | int n =>
    refine readTerm_number ?_ ls stack ws
    rw [String.toList_ofList, numberLiteral?, Numeral.integer?_ofInt]
    rfl
  | float x =>
    obtain ⟨s, literal⟩ : ∃ s, x.sqlLiteral? = some s := by
      cases x with
      | finite => exact ⟨_, rfl⟩
      | nan | infinity => cases h
    rw [Literal.token, Token.lexemes, literal]
    refine readTerm_number ?_ ls stack ws
    rw [String.toList_ofList, numberLiteral?, Binary64.integer?_sqlLiteral? literal,
      Binary64.decimal?_sqlLiteral? literal]
    rfl
  | string s => rfl
  | bool b =>
    cases d with
    | duckdb | postgres => cases b <;> exact readTerm_wordLiteral rfl ls stack ws
    | sqlite | mysql | tsql => cases b <;> exact readTerm_number rfl ls stack ws
  | date s => cases d <;> rfl
  | null => exact readTerm_wordLiteral rfl ls stack ws

theorem readsTo_literal {l : Literal} (h : l.Readable) :
    (Expr.literal l).ReadsTo d (.literal (l.identified d)) := by
  refine .of_spine (fun _ => rfl) fun ls stack ws => ?_
  rw [Expr.lexemes, Expr.tokens, List.flatMap_singleton]
  exact readTerm_literal h ls stack ws

/-! ### Operators -/

theorem readAfter_operator {l : Lexeme} (h : l.operator? = some op) (ls : List Lexeme)
    (stack : List Frame) (ws : Waiting) (e : Expr) :
    readAfter d (l :: ls) stack ws e =
      if (reduce op.level ws e).2.isLike = true ∧ 1 < op.level then none
      else readTerm d ls stack (((reduce op.level ws e).2, op) :: (reduce op.level ws e).1) := by
  cases l with
  | symbol s =>
    cases s with
    | comma | dot | leftParen | rightParen => cases h
    | _ =>
      cases h
      rfl
  | bars =>
    cases h
    rfl
  | word w =>
    obtain ⟨rfl, rfl⟩ : w = "AND" ∧ op = .and := by
      simpa [Lexeme.operator?, eq_comm] using h
    rfl
  | _ => cases h

/-- The operator is one lexeme, unless it is a function. -/
theorem exists_operator_lexeme (op : BinaryOp)
    (infix_ : ¬ (op = .concat ∧ d.spelling.concatIsFunction = true)) :
    ∃ l : Lexeme, Token.lexemes d op.token = [l] ∧ l.operator? = some (op.identified d) := by
  cases op with
  | concat =>
    cases d with
    | mysql => exact absurd ⟨rfl, rfl⟩ infix_
    | _ => exact ⟨_, rfl, rfl⟩
  | _ => exact ⟨_, rfl, rfl⟩

theorem readsTo_operator {t u : Expr} (hleft : left.ReadsTo d t) (hright : right.ReadsTo d u)
    (admits : op.Admits left right)
    (level_le : (op.identified d).level ≤ t.level) (level_lt : (op.identified d).level < u.level)
    (like : t.isLike = left.isLike)
    (infix_ : ¬ (op = .concat ∧ d.spelling.concatIsFunction = true)) :
    (Expr.binary op left right).ReadsTo d (.binary (op.identified d) t u) := by
  obtain ⟨l, token, operator⟩ := @exists_operator_lexeme d op infix_
  have opened (ws : Waiting) :
      spine d (.binary (op.identified d) t u) ws = spine d u ((t, op.identified d) :: ws) := by
    rw [spine, if_neg]
    rintro ⟨concat, function⟩
    refine infix_ ⟨?_, function⟩
    by_cases h : op = .concat
    · exact h
    · rwa [BinaryOp.identified_of_ne h] at concat
  refine ⟨fun ls stack ws below => ?_, fun level ws le => ?_⟩
  · have lexemes : (Expr.binary op left right).lexemes d ++ ls =
        left.lexemes d ++ (l :: (right.lexemes d ++ ls)) := by
      rw [Expr.lexemes, Expr.tokens, if_neg infix_, List.flatMap_append, List.flatMap_cons,
        List.flatMap_cons, token]
      simp [Expr.lexemes, Token.lexemes]
    have below_op : Below (op.identified d).level ws := below.mono op.level_le_identified
    have operand : ¬ (t.isLike = true ∧ 1 < (op.identified d).level) := by
      rintro ⟨hlike, high⟩
      have level := Expr.level_of_isLike (like ▸ hlike)
      have low := admits.level_le
      by_cases concat : op = .concat
      · subst concat
        rw [level] at low
        exact absurd low (by decide)
      · rw [BinaryOp.identified_of_ne concat] at high
        omega
    rw [lexemes, hleft.read _ _ _ (below.mono admits.level_le), readAfter_operator operator,
      hleft.reduce _ _ level_le, reduce_of_below below_op, if_neg operand, opened]
    refine hright.read ls stack _ (below_cons ?_)
    by_cases concat : op = .concat
    · rw [(admits.concat concat).2]
      exact BinaryOp.level_lt_five _
    · rw [BinaryOp.identified_of_ne concat]
      exact admits.level_lt
  · have le : level ≤ (op.identified d).level := le
    rw [opened, hright.reduce _ _ (Nat.le_trans le (Nat.le_of_lt level_lt)), Sql.reduce, if_pos le]

/-! ### Calls -/

theorem upper_of_mem {f : String} (hf : f ∈ knownFunctions) :
    String.ofList (Text.upper f.toList) = f := by
  revert f
  decide

theorem readTerm_call {f : String} (hf : f ∈ knownFunctions) (ls : List Lexeme)
    (stack : List Frame) (ws : Waiting) :
    readTerm d (.word f :: .symbol .leftParen :: ls) stack ws =
      readTerm d ls (.call ws f [] :: stack) [] := by
  have known : wordLiteral? f = none ∧ f ≠ "CAST" := by
    revert f
    decide
  rw [readTerm, known.1]
  dsimp only
  rw [if_neg known.2]

/-- The arguments of a call, after some that have been read. -/
theorem readTerm_arguments {e t : Expr} {es ts : List Expr} (h : e.ReadsTo d t)
    (hs : List.Forall₂ (Expr.ReadsTo d) es ts) (ls : List Lexeme) (stack : List Frame)
    (before : Waiting) (f : String) (args : List Expr) :
    readTerm d ((Token.commaList (Expr.argTokens d (e :: es))).flatMap (Token.lexemes d) ++
        .symbol .rightParen :: ls) (.call before f args :: stack) [] =
      readAfter d ls stack before (d.application f (args ++ t :: ts)) := by
  induction hs generalizing e t args with
  | nil =>
    have lexemes : (Token.commaList (Expr.argTokens d [e])).flatMap (Token.lexemes d) =
        e.lexemes d := by
      simp [Token.commaList, Expr.argTokens, Expr.lexemes]
    rw [lexemes, h.read _ _ _ (below_nil _), readAfter, h.finish]
  | @cons e' t' es ts h' hs ih =>
    have lexemes : (Token.commaList (Expr.argTokens d (e :: e' :: es))).flatMap (Token.lexemes d) =
        e.lexemes d ++ .symbol .comma ::
          (Token.commaList (Expr.argTokens d (e' :: es))).flatMap (Token.lexemes d) := by
      simp [Token.commaList, Expr.argTokens, Expr.lexemes, List.intercalate_cons_cons,
        Token.lexemes]
    rw [lexemes, List.append_assoc, List.cons_append, h.read _ _ _ (below_nil _), readAfter,
      h.finish, ih h', List.append_assoc]
    rfl

theorem readTerm_callTokens {f : String} (hf : f ∈ knownFunctions) {es ts : List Expr}
    (hs : List.Forall₂ (Expr.ReadsTo d) es ts) (ls : List Lexeme) (stack : List Frame)
    (ws : Waiting) :
    readTerm d ((Expr.callTokens f (Expr.argTokens d es)).flatMap (Token.lexemes d) ++ ls)
        stack ws =
      readAfter d ls stack ws (d.application f ts) := by
  have lexemes : (Expr.callTokens f (Expr.argTokens d es)).flatMap (Token.lexemes d) ++ ls =
      .word f :: .symbol .leftParen ::
        ((Token.commaList (Expr.argTokens d es)).flatMap (Token.lexemes d) ++
          .symbol .rightParen :: ls) := by
    simp [Expr.callTokens, Token.parenthesized, Token.lexemes, upper_of_mem hf]
  rw [lexemes, readTerm_call hf]
  cases hs with
  | nil =>
    rw [Expr.argTokens]
    rfl
  | cons h hs => exact readTerm_arguments h hs ls stack ws f []

theorem readsTo_concat_mysql {t u : Expr} (hleft : left.ReadsTo .mysql t)
    (hright : right.ReadsTo .mysql u) :
    (Expr.binary .concat left right).ReadsTo .mysql (.binary .concat t u) := by
  refine .of_spine (fun _ => rfl) fun ls stack ws => ?_
  rw [Expr.lexemes, Expr.tokens, if_pos ⟨rfl, rfl⟩]
  exact readTerm_callTokens (by decide) (.cons hleft (.cons hright .nil)) ls stack ws

theorem known_of_aggregate {f : String} (hf : f ∈ aggregateFunctions) : f ∈ knownFunctions := by
  revert f
  decide

theorem readsTo_call {f : String} (hf : f ∈ aggregateFunctions) {es ts : List Expr}
    (hs : List.Forall₂ (Expr.ReadsTo d) es ts) : (Expr.call f es).ReadsTo d (.call f ts) := by
  have known := known_of_aggregate hf
  have application : d.application f ts = .call f ts := by
    rcases List.mem_cons.mp hf with rfl | hf
    · cases d <;> rfl
    rcases List.mem_cons.mp hf with rfl | hf
    · cases d <;> rfl
    obtain rfl := List.mem_singleton.mp hf
    cases d <;> rfl
  refine .of_spine (fun _ => rfl) fun ls stack ws => ?_
  rw [Expr.lexemes, Expr.tokens, readTerm_callTokens known hs, application]

theorem readsTo_dateOf {e t : Expr} (h : e.ReadsTo d t) : e.dateOf.ReadsTo d t.dateOf := by
  refine .of_spine (fun _ => rfl) fun ls stack ws => ?_
  have dateType : d.typeLexemes .date = [.word "DATE"] := by
    cases d <;> rfl
  have cast (function : d.spelling.dateFunction? = none) :
      readTerm d ((e.dateOf).lexemes d ++ ls) stack ws = readAfter d ls stack ws t.dateOf := by
    have lexemes : (e.dateOf).lexemes d ++ ls = .word "CAST" :: .symbol .leftParen ::
        (e.lexemes d ++ (.word "AS" :: .word "DATE" :: .symbol .rightParen :: ls)) := by
      rw [Expr.lexemes, Expr.tokens, function]
      simp [Expr.lexemes, Token.parenthesized, Token.lexemes, Keyword.words, Keyword.text, dateType]
    rw [lexemes]
    show readTerm d (e.lexemes d ++ _) (.cast ws :: stack) [] = _
    rw [h.read _ _ _ (below_nil _), readAfter, h.finish]
  cases d with
  | sqlite =>
    rw [Expr.lexemes, Expr.tokens]
    exact readTerm_callTokens (by decide) (.cons h .nil) ls stack ws
  | _ => exact cast rfl

theorem readsTo_paren {e t : Expr} (h : e.ReadsTo d t) : e.paren.ReadsTo d t.paren := by
  refine .of_spine (fun _ => rfl) fun ls stack ws => ?_
  have lexemes : e.paren.lexemes d ++ ls =
      .symbol .leftParen :: (e.lexemes d ++ (.symbol .rightParen :: ls)) := by
    simp [Expr.lexemes, Expr.tokens, Token.parenthesized, Token.lexemes]
  rw [lexemes, readTerm, h.read _ _ _ (below_nil _), readAfter, h.finish]

/-! ### Patterns -/

theorem readsTo_like {subject pattern t u : Expr} (hsubject : subject.ReadsTo d t)
    (hpattern : pattern.ReadsTo d u) (level : 1 < subject.level) (level_le : 1 ≤ t.level)
    (level_lt : 1 < u.level) (escape : Char) (negated : Bool) :
    (Expr.like subject pattern escape negated).ReadsTo d (.like t u escape negated) := by
  refine ⟨fun ls stack ws below => ?_, fun _ _ _ => rfl⟩
  have lexemes : (Expr.like subject pattern escape negated).lexemes d ++ ls =
      subject.lexemes d ++ ((if negated then [.word "NOT"] else []) ++ .word "LIKE" ::
        (pattern.lexemes d ++ .word "ESCAPE" :: .string (String.singleton escape) :: ls)) := by
    cases negated <;> simp [Expr.lexemes, Expr.tokens, Token.lexemes, Keyword.words, Keyword.text]
  have opened : readAfter d ((if negated then [.word "NOT"] else []) ++ .word "LIKE" ::
        (pattern.lexemes d ++ .word "ESCAPE" :: .string (String.singleton escape) :: ls)) stack
        (spine d t ws).1 (spine d t ws).2 =
      readTerm d (pattern.lexemes d ++ .word "ESCAPE" :: .string (String.singleton escape) :: ls)
        (.pattern ws t negated :: stack) [] := by
    have reduced := (hsubject.reduce 1 ws level_le).trans (reduce_of_below below t)
    cases negated
    · show readTerm d _ (.pattern (reduce 1 _ _).1 (reduce 1 _ _).2 false :: stack) [] = _
      rw [reduced]
    · show readTerm d _ (.pattern (reduce 1 _ _).1 (reduce 1 _ _).2 true :: stack) [] = _
      rw [reduced]
  rw [lexemes, hsubject.read _ _ _ (below.mono (Nat.le_of_lt level)), opened,
    hpattern.read _ _ _ (below_nil _), readAfter, hpattern.finish]
  rw [String.toList_singleton]
  dsimp only
  rw [if_pos level_lt]
  rfl

/-! ### Whole expressions -/

mutual

/-- A well-parenthesised expression is read as itself, wherever its level lets it stand. -/
theorem Expr.readsTo_identified (d : Dialect) : ∀ e : Expr, e.WellParenthesised → e.Readable →
    e.ReadsTo d (e.identified d)
  | .column t c, _, _ => by
    rw [Expr.identified]
    exact readsTo_column t c
  | .literal l, _, readable => by
    rw [Expr.Readable] at readable
    rw [Expr.identified]
    exact readsTo_literal readable
  | .binary op left right, well, readable => by
    rw [Expr.WellParenthesised] at well
    rw [Expr.Readable] at readable
    obtain ⟨admits, hleft, hright⟩ := well
    have readsLeft := Expr.readsTo_identified d left hleft readable.1
    have readsRight := Expr.readsTo_identified d right hright readable.2
    rw [Expr.identified]
    by_cases function : op = .concat ∧ d.spelling.concatIsFunction = true
    · obtain ⟨rfl, function⟩ := function
      cases d with
      | mysql => exact readsTo_concat_mysql readsLeft readsRight
      | _ => cases function
    · obtain ⟨level_le, level_lt⟩ := admits.identified d
      exact readsTo_operator readsLeft readsRight admits level_le level_lt
        left.isLike_identified function
  | .call f args, well, readable => by
    rw [Expr.WellParenthesised] at well
    rw [Expr.Readable] at readable
    rw [Expr.identified]
    exact readsTo_call readable.1 (Expr.readsTo_identifiedArgs d args well readable.2)
  | .like subject pattern escape negated, well, readable => by
    rw [Expr.WellParenthesised] at well
    rw [Expr.Readable] at readable
    obtain ⟨level, level', hsubject, hpattern⟩ := well
    rw [Expr.identified]
    exact readsTo_like (Expr.readsTo_identified d subject hsubject readable.1)
      (Expr.readsTo_identified d pattern hpattern readable.2) level
      (Nat.le_trans (Nat.le_of_lt level) subject.level_le_identified)
      (Nat.lt_of_lt_of_le level' pattern.level_le_identified) escape negated
  | .dateOf e, well, readable => by
    rw [Expr.WellParenthesised] at well
    rw [Expr.Readable] at readable
    rw [Expr.identified]
    exact readsTo_dateOf (Expr.readsTo_identified d e well readable)
  | .paren e, well, readable => by
    rw [Expr.WellParenthesised] at well
    rw [Expr.Readable] at readable
    rw [Expr.identified]
    exact readsTo_paren (Expr.readsTo_identified d e well readable)

theorem Expr.readsTo_identifiedArgs (d : Dialect) : ∀ es : List Expr,
    Expr.WellParenthesisedArgs es → Expr.ReadableArgs es →
      List.Forall₂ (Expr.ReadsTo d) es (Expr.identifiedArgs d es)
  | [], _, _ => .nil
  | e :: es, well, readable => by
    rw [Expr.WellParenthesisedArgs] at well
    rw [Expr.ReadableArgs] at readable
    rw [Expr.identifiedArgs]
    exact .cons (Expr.readsTo_identified d e well.1 readable.1)
      (Expr.readsTo_identifiedArgs d es well.2 readable.2)

end

mutual

/-- What can be told apart in a text is legible. -/
theorem Expr.Readable.plain : ∀ {e : Expr}, e.Readable → e.Plain
  | .column _ _, _ => by
    rw [Expr.Plain]
    trivial
  | .literal l, h => by
    rw [Expr.Readable] at h
    rw [Expr.Plain]
    cases l with
    | date s => exact h
    | _ => trivial
  | .binary _ _ _, h => by
    rw [Expr.Readable] at h
    rw [Expr.Plain]
    exact ⟨Expr.Readable.plain h.1, Expr.Readable.plain h.2⟩
  | .call f _, h => by
    rw [Expr.Readable] at h
    rw [Expr.Plain]
    exact ⟨known_of_aggregate h.1, Expr.ReadableArgs.plain h.2⟩
  | .like _ _ _ _, h => by
    rw [Expr.Readable] at h
    rw [Expr.Plain]
    exact ⟨Expr.Readable.plain h.1, Expr.Readable.plain h.2⟩
  | .dateOf _, h => by
    rw [Expr.Readable] at h
    rw [Expr.Plain]
    exact Expr.Readable.plain h
  | .paren _, h => by
    rw [Expr.Readable] at h
    rw [Expr.Plain]
    exact Expr.Readable.plain h

theorem Expr.ReadableArgs.plain : ∀ {es : List Expr}, Expr.ReadableArgs es → Expr.PlainArgs es
  | [], _ => by
    rw [Expr.PlainArgs]
    trivial
  | _ :: _, h => by
    rw [Expr.ReadableArgs] at h
    rw [Expr.PlainArgs]
    exact ⟨Expr.Readable.plain h.1, Expr.ReadableArgs.plain h.2⟩

end

/-- **Rendering keeps the tree**: the text of a well-parenthesised expression is read as the
expression, up to what the dialect spells alike. -/
theorem Expr.readExpr?_sql {e : Expr} (well : e.WellParenthesised) (readable : e.Readable)
    (d : Dialect) : d.readExpr? (e.sql d) = some (e.identified d) := by
  have lexed := @Expr.legible_tokens d e readable.plain [] seam_nil
  have reads := e.readsTo_identified d well readable
  have read := reads.read [] [] [] (below_nil _)
  rw [List.append_nil] at read
  rw [List.append_nil, lex_nil] at lexed
  rw [Dialect.readExpr?, sql, render, String.toList_ofList, lexed, Option.map_some,
    Option.bind_some, List.append_nil]
  refine read.trans ?_
  rw [readAfter, reads.finish]

end StarSchema.Sql
