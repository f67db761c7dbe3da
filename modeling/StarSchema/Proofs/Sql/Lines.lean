import StarSchema.Proofs.Sql.Lexing

/-!
# A line break ends what stands before it

A text that is read to its end is read in the same way in front of a line break, and what follows
the break is then read as a text of its own. A break goes on with no lexeme and ends a comment that
runs to the end of its line; a text that leaves a quotation open is not read at all.

Main result: `lex_append_newline`.
-/

namespace StarSchema.Sql

variable {s rest t : List Char}

/-! ### The parts of a text -/

theorem takeWhile_append_stop {p : Char → Bool} {c : Char} (hc : p c = false) (s t : List Char) :
    (s ++ c :: t).takeWhile p = s.takeWhile p := by
  induction s with
  | nil => simp [hc]
  | cons x s ih => simp [List.takeWhile_cons, ih]

theorem dropWhile_append_stop {p : Char → Bool} {c : Char} (hc : p c = false) (s t : List Char) :
    (s ++ c :: t).dropWhile p = s.dropWhile p ++ c :: t := by
  induction s with
  | nil => simp [hc]
  | cons x s ih =>
    simp only [List.cons_append, List.dropWhile_cons, ih]
    split <;> rfl

theorem readQuoted_append {closing : Char} {escapes : Bool} {text : List Char}
    (hq : closing ≠ '\\') (ht : t.head? ≠ some closing)
    (h : readQuoted closing escapes s = some (text, rest)) :
    readQuoted closing escapes (s ++ t) = some (text, rest ++ t) := by
  fun_induction readQuoted closing escapes s generalizing text rest with
  | case1 => cases h
  | case2 =>
    cases h
    exact readQuoted_end hq ht
  | case3 => cases h
  | case4 c x s escape ih =>
    obtain ⟨text', h', rfl⟩ := continued_eq_some_iff.mp h
    rw [List.cons_append, List.cons_append, readQuoted, if_pos escape, ih h']
    rfl
  | case5 c x s escape plain ih =>
    obtain ⟨text', h', rfl⟩ := continued_eq_some_iff.mp h
    rw [List.cons_append, List.cons_append, readQuoted, if_neg escape, if_pos plain,
      ← List.cons_append, ih h']
    rfl
  | case6 c s escape closes ih =>
    obtain ⟨text', h', rfl⟩ := continued_eq_some_iff.mp h
    rw [List.cons_append, List.cons_append, readQuoted, if_neg escape, if_neg closes, if_pos rfl,
      ih h']
    rfl
  | case7 c x s escape closes alone =>
    cases h
    rw [List.cons_append, List.cons_append, readQuoted, if_neg escape, if_neg closes, if_neg alone]

theorem readString_append {r : LexicalRules} {ls : List Lexeme} (ht : t.head? ≠ some '\'')
    (h : readString r s = some (ls, rest)) : readString r (s ++ t) = some (ls, rest ++ t) := by
  obtain ⟨⟨text, rest'⟩, read, taken⟩ := Option.map_eq_some_iff.mp h
  cases taken
  rw [readString, readQuoted_append (by decide) ht read]
  rfl

theorem skipComment_append (h : skipComment s = some rest) :
    skipComment (s ++ t) = some (rest ++ t) := by
  fun_induction skipComment s with
  | case1 s =>
    cases h
    rfl
  | case2 c s _ ih =>
    cases s with
    | nil => cases h
    | cons x s =>
      rw [List.cons_append, skipComment]
      · exact ih h
      · simp_all
  | case3 => cases h

theorem readPoint_append_newline (s t : List Char) :
    readPoint (s ++ '\n' :: t) = ((readPoint s).1, (readPoint s).2 ++ '\n' :: t) := by
  cases s with
  | nil => rfl
  | cons c s =>
    by_cases hc : c = '.'
    · subst hc
      simp [readPoint, takeWhile_append_stop, dropWhile_append_stop]
    · simp [readPoint, hc]

theorem readPowerSign_append_newline (s t : List Char) :
    readPowerSign (s ++ '\n' :: t) = ((readPowerSign s).1, (readPowerSign s).2 ++ '\n' :: t) := by
  unfold readPowerSign
  rcases s with _ | ⟨c, s⟩
  · rfl
  · simp only [List.cons_append]
    split <;> simp_all

theorem readPower_append_newline (s t : List Char) :
    readPower (s ++ '\n' :: t) = ((readPower s).1, (readPower s).2 ++ '\n' :: t) := by
  cases s with
  | nil => simp [readPower, readPowerSign]
  | cons c s =>
    have digits := takeWhile_append_stop (p := Char.isDigit) (c := '\n') rfl (readPowerSign s).2 t
    have others := dropWhile_append_stop (p := Char.isDigit) (c := '\n') rfl (readPowerSign s).2 t
    simp only [List.cons_append, readPower, readPowerSign_append_newline, digits, others]
    split_ifs <;> rfl

theorem readNumber_append_newline (s t : List Char) :
    readNumber (s ++ '\n' :: t) = ((readNumber s).1, (readNumber s).2 ++ '\n' :: t) := by
  simp [readNumber, takeWhile_append_stop, dropWhile_append_stop, readPoint_append_newline,
    readPower_append_newline]

theorem readSymbol?_append_newline {l : Lexeme} (h : readSymbol? s = some (l, rest)) :
    readSymbol? (s ++ '\n' :: t) = some (l, rest ++ '\n' :: t) := by
  unfold readSymbol? at h
  split at h <;> cases h
  -- these two could have been longer, but not by a line break
  case h_10 | h_11 => cases rest <;> simp_all [readSymbol?]
  all_goals rfl

theorem head?_append_newline_iff {x : Char} (hx : x ≠ '\n') :
    (s ++ '\n' :: t).head? = some x ↔ s.head? = some x := by
  cases s <;> simp [hx.symm]

variable {d : Dialect}

theorem lexOne_append_newline {c : Char} {ls : List Lexeme}
    (h : lexOne d.lexicalRules c s = some (ls, rest)) :
    lexOne d.lexicalRules c (s ++ '\n' :: t) = some (ls, rest ++ '\n' :: t) := by
  have closes : d.lexicalRules.nameQuotes.2 ≠ '\\' ∧ d.lexicalRules.nameQuotes.2 ≠ '\n' := by
    cases d <;> decide
  have quoteNext := head?_append_newline_iff (s := s) (t := t) (x := '\'') (by decide)
  have dashNext := head?_append_newline_iff (s := s) (t := t) (x := '-') (by decide)
  have starNext := head?_append_newline_iff (s := s) (t := t) (x := '*') (by decide)
  have digitNext : (s ++ '\n' :: t).head?.any Char.isDigit = s.head?.any Char.isDigit := by
    cases s <;> rfl
  unfold lexOne at h ⊢
  simp only [quoteNext, dashNext, starNext, digitNext]
  by_cases space : isSpace c = true
  · rw [if_pos space] at h ⊢
    cases h
    rfl
  rw [if_neg space] at h ⊢
  by_cases name : c = d.lexicalRules.nameQuotes.1
  · rw [if_pos name] at h ⊢
    obtain ⟨⟨text, rest'⟩, read, taken⟩ := Option.map_eq_some_iff.mp h
    cases taken
    rw [readQuoted_append closes.1 (by simpa using closes.2.symm) read]
    rfl
  rw [if_neg name] at h ⊢
  by_cases quote : c = '\''
  · rw [if_pos quote] at h ⊢
    exact readString_append (by simp) h
  rw [if_neg quote] at h ⊢
  by_cases national : d.lexicalRules.allowsNational = true ∧ c = 'N' ∧ s.head? = some '\''
  · rw [if_pos national] at h ⊢
    rw [List.tail_append_of_ne_nil (by rintro rfl; cases national.2.2)]
    exact readString_append (by simp) h
  rw [if_neg national] at h ⊢
  by_cases dashes : c = '-' ∧ s.head? = some '-'
  · rw [if_pos dashes] at h ⊢
    cases h
    rw [dropWhile_append_stop rfl]
  rw [if_neg dashes] at h ⊢
  by_cases comment : c = '/' ∧ s.head? = some '*'
  · rw [if_pos comment] at h ⊢
    obtain ⟨rest', skipped, taken⟩ := Option.map_eq_some_iff.mp h
    cases taken
    rw [List.tail_append_of_ne_nil (by rintro rfl; cases comment.2), skipComment_append skipped]
    rfl
  rw [if_neg comment] at h ⊢
  by_cases number : c.isDigit = true
  · rw [if_pos number] at h ⊢
    cases h
    rw [← List.cons_append, readNumber_append_newline]
  rw [if_neg number] at h ⊢
  by_cases sign : c = '-' ∧ s.head?.any Char.isDigit = true
  · rw [if_pos sign] at h ⊢
    cases h
    rw [readNumber_append_newline]
  rw [if_neg sign] at h ⊢
  by_cases word : isWordStart c = true
  · rw [if_pos word] at h ⊢
    cases h
    rw [takeWhile_append_stop rfl, dropWhile_append_stop rfl]
  rw [if_neg word] at h ⊢
  obtain ⟨⟨l, rest'⟩, read, taken⟩ := Option.map_eq_some_iff.mp h
  cases taken
  rw [← List.cons_append, readSymbol?_append_newline read]
  rfl

/-- **A line break ends what stands before it.** -/
theorem lex_append_newline {ls : List Lexeme} (h : lex d.lexicalRules s = some ls)
    (t : List Char) :
    lex d.lexicalRules (s ++ '\n' :: t) = (lex d.lexicalRules t).map (ls ++ ·) := by
  fun_induction lex d.lexicalRules s generalizing ls with
  | case1 =>
    cases h
    simp [lex_newline]
  | case2 c s h' => cases h
  | case3 c s ls' rest h' _ ih =>
    obtain ⟨others, read, rfl⟩ := Option.map_eq_some_iff.mp h
    rw [List.cons_append, lex_cons (lexOne_append_newline h'), ih read, Option.map_map]
    simp [Function.comp_def]

end StarSchema.Sql
