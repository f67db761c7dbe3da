import StarSchema.Proofs.Binary64.Literal
import StarSchema.Proofs.Sql.Lexer

/-!
# Reading back what is written

Each kind of text that a statement is made of (a quoted name, a string, a number, a word, a symbol)
is read as one lexeme, provided that what follows starts with a blank, a comma or a parenthesis.
This is the only place where the writer's quoting meets the reader's rules.

Main definition: `Seam`.

Main results: `lex_quotedName`, `lex_quotedString`, `lex_bare`, `lex_number`, `lex_words`,
`lex_symbol`.
-/

namespace StarSchema.Sql

/-! ### Where a lexeme may end -/

/-- The characters that start no lexeme's continuation. -/
def seams : List Char := [' ', '\n', ',', '(', ')']

theorem mem_seams_iff {c : Char} :
    c ∈ seams ↔ c = ' ' ∨ c = '\n' ∨ c = ',' ∨ c = '(' ∨ c = ')' := by
  simp [seams]

/-- The text is at its end, or goes on with a character that ends any lexeme before it. -/
def Seam (s : List Char) : Prop :=
  ∀ c, s.head? = some c → c ∈ seams

@[simp]
theorem seam_nil : Seam [] := by
  simp [Seam]

@[simp]
theorem seam_cons {c : Char} {s : List Char} : Seam (c :: s) ↔ c ∈ seams := by
  simp [Seam]

variable {r : LexicalRules} {d : Dialect} {s rest : List Char}

theorem Seam.head?_ne {x : Char} (h : Seam rest) (hx : x ∉ seams) : rest.head? ≠ some x :=
  fun head => hx (h x head)

theorem Seam.stops {p : Char → Bool} (h : Seam rest) (hp : seams.any p = false) :
    ∀ c, rest.head? = some c → p c = false :=
  fun c hc => Bool.eq_false_iff.mpr (List.any_eq_false.mp hp c (h c hc))

/-! ### Quoted texts -/

section Quoted

variable {closing : Char} {escapes : Bool} {s rest : List Char}

theorem readQuoted_end (hq : closing ≠ '\\') (h : rest.head? ≠ some closing) :
    readQuoted closing escapes (closing :: rest) = some ([], rest) := by
  cases rest with
  | nil => simp [readQuoted]
  | cons x rest => simp_all [readQuoted]

theorem readQuoted_pair (hq : closing ≠ '\\') :
    readQuoted closing escapes (closing :: closing :: s) =
      continued [closing] (readQuoted closing escapes s) := by
  simp [readQuoted, hq]

theorem readQuoted_escape (x : Char) :
    readQuoted closing true ('\\' :: x :: s) =
      continued (unescaped x) (readQuoted closing true s) := by
  simp [readQuoted]

theorem readQuoted_plain {c : Char} (hc : c ≠ closing) (he : escapes = true → c ≠ '\\')
    (hs : s ≠ []) :
    readQuoted closing escapes (c :: s) = continued [c] (readQuoted closing escapes s) := by
  obtain ⟨x, t, rfl⟩ := List.exists_cons_of_ne_nil hs
  rw [readQuoted, if_neg (fun h => he h.1 h.2), if_pos hc]

/-- Reading undoes the doubling, up to a closing character that is not followed by another. -/
theorem readQuoted_doubled (hq : closing ≠ '\\') (h : rest.head? ≠ some closing)
    (s : List Char) :
    readQuoted closing escapes
        (Quoted.doubled closing (if escapes then Quoted.doubled '\\' s else s) ++
          closing :: rest) =
      some (s, rest) := by
  induction s with
  | nil =>
    rw [Quoted.doubled_nil, ite_self, Quoted.doubled_nil]
    exact readQuoted_end hq h
  | cons c s ih =>
    have grows (t : List Char) : t ++ closing :: rest ≠ [] :=
      List.append_ne_nil_of_right_ne_nil t (List.cons_ne_nil _ _)
    have go_on : continued [c] (some (s, rest)) = some (c :: s, rest) := rfl
    by_cases escaped : escapes = true ∧ c = '\\'
    · obtain ⟨rfl, rfl⟩ := escaped
      simp only [if_true] at ih ⊢
      rw [Quoted.doubled, if_pos rfl, Quoted.doubled, if_neg hq.symm, Quoted.doubled,
        if_neg hq.symm, List.cons_append, List.cons_append, readQuoted_escape, ih]
      exact go_on
    · have unescaped : (if escapes then Quoted.doubled '\\' (c :: s) else c :: s) =
          c :: if escapes then Quoted.doubled '\\' s else s := by
        cases escapes
        · rfl
        · simp_all [Quoted.doubled]
      rw [unescaped, Quoted.doubled]
      by_cases hc : c = closing
      · subst hc
        rw [if_pos rfl, List.cons_append, List.cons_append, readQuoted_pair hq, ih]
        exact go_on
      · rw [if_neg hc, List.cons_append,
          readQuoted_plain hc (fun he hc => escaped ⟨he, hc⟩) (grows _), ih]
        exact go_on

end Quoted

theorem enclose_append (opening closing : Char) (s rest : List Char) :
    Quoted.enclose opening closing s ++ rest =
      opening :: (Quoted.doubled closing s ++ closing :: rest) := by
  simp [Quoted.enclose]

theorem bare_append (s rest : List Char) : Quoted.bare s ++ rest = '\'' :: (s ++ '\'' :: rest) := by
  simp [Quoted.bare]

theorem nameQuotes_lexicalRules (d : Dialect) :
    d.lexicalRules.nameQuotes = d.spelling.nameQuotes := by
  cases d <;> rfl

theorem lex_quotedName (h : Seam rest ∨ rest.head? = some '.') (s : List Char) :
    lex d.lexicalRules (d.spelling.quotedName s ++ rest) =
      (lex d.lexicalRules rest).map ([.name (String.ofList s)] ++ ·) := by
  have open_ : rest.head? ≠ some d.lexicalRules.nameQuotes.2 := by
    rcases h with h | h
    · refine h.head?_ne ?_
      cases d <;> decide
    · rw [h]
      cases d <;> decide
  have notSpace : isSpace d.lexicalRules.nameQuotes.1 = false := by cases d <;> rfl
  have read := @readQuoted_doubled _ false rest (by cases d <;> decide) open_ s
  rw [if_neg Bool.false_ne_true] at read
  rw [Spelling.quotedName, enclose_append, ← nameQuotes_lexicalRules]
  refine lex_cons ?_
  rw [lexOne, if_neg (by simp [notSpace]), if_pos rfl, read]
  rfl

theorem readString_doubled (h : rest.head? ≠ some '\'') (s : List Char) :
    readString d.lexicalRules (Quoted.doubled '\'' (if d.spelling.escapesBackslash
        then Quoted.doubled '\\' s else s) ++ '\'' :: rest) =
      some ([.string (String.ofList s)], rest) := by
  have rules : d.spelling.escapesBackslash = d.lexicalRules.escapesBackslash := by cases d <;> rfl
  rw [readString, rules, readQuoted_doubled (by decide) h]
  rfl

theorem lexOne_quote (s : List Char) :
    lexOne d.lexicalRules '\'' s = readString d.lexicalRules s := by
  cases d <;> rfl

theorem lexOne_national (h : d.spelling.marksNational = true) (s : List Char) :
    lexOne d.lexicalRules 'N' ('\'' :: s) = readString d.lexicalRules s := by
  cases d <;> first | rfl | cases h

theorem lex_quotedString (h : rest.head? ≠ some '\'') (s : List Char) :
    lex d.lexicalRules (d.spelling.quotedString s ++ rest) =
      (lex d.lexicalRules rest).map ([.string (String.ofList s)] ++ ·) := by
  have read := readString_doubled (d := d) h s
  rw [Spelling.quotedString]
  by_cases national : (d.spelling.marksNational && s.any fun c => 128 ≤ c.toNat) = true
  · rw [if_pos national, List.cons_append, enclose_append]
    refine lex_cons ?_
    rw [lexOne_national (Bool.and_eq_true_iff.mp national).1]
    exact read
  · rw [if_neg national, enclose_append]
    refine lex_cons ?_
    rw [lexOne_quote]
    exact read

/-- A text without special characters needs no doubling. -/
theorem doubled_eq_self {c : Char} {s : List Char} (h : c ∉ s) : Quoted.doubled c s = s := by
  induction s with
  | nil => rfl
  | cons x s ih =>
    rw [List.mem_cons, not_or] at h
    rw [Quoted.doubled, if_neg (Ne.symm h.1), ih h.2]

/-- What stands in bare quotes is read up to the first quote that stands alone, wherever that is:
`content` is what has been read by then and `after` is what follows. -/
theorem lex_bare {content after : List Char} (escapes : d.spelling.escapesBackslash = false)
    (split : s ++ '\'' :: rest = Quoted.doubled '\'' content ++ '\'' :: after)
    (h : after.head? ≠ some '\'') :
    lex d.lexicalRules (Quoted.bare s ++ rest) =
      (lex d.lexicalRules after).map ([.string (String.ofList content)] ++ ·) := by
  have read := readString_doubled (d := d) h content
  rw [escapes, if_neg Bool.false_ne_true, ← split] at read
  rw [bare_append]
  refine lex_cons ?_
  rw [lexOne_quote]
  exact read

/-! ### Numbers -/

theorem readPoint_of_ne (h : s.head? ≠ some '.') : readPoint s = ([], s) := by
  unfold readPoint
  split
  · simp at h
  · rfl

theorem readPoint_places {ds : List Char} (hds : ∀ c ∈ ds, c.isDigit = true)
    (stops : ∀ c, rest.head? = some c → c.isDigit = false) :
    readPoint ('.' :: ds ++ rest) = ('.' :: ds, rest) := by
  rw [List.cons_append, readPoint, takeWhile_append_of_stops hds stops,
    dropWhile_append_of_stops hds stops]

theorem readPower_seam (h : Seam rest) : readPower rest = ([], rest) := by
  cases rest with
  | nil => rfl
  | cons c rest =>
    have no_e : c.toLower ≠ 'e' := by
      rcases mem_seams_iff.mp (seam_cons.mp h) with rfl | rfl | rfl | rfl | rfl <;> decide
    simp [readPower, no_e]

theorem readPowerSign_digits {ds : List Char} (some_digit : ds ≠ [])
    (hds : ∀ c ∈ ds, c.isDigit = true) :
    readPowerSign (ds ++ rest) = ([], ds ++ rest) := by
  obtain ⟨c, ds, rfl⟩ := List.exists_cons_of_ne_nil some_digit
  have := hds c List.mem_cons_self
  rw [List.cons_append]
  unfold readPowerSign
  split <;> simp_all

theorem readPower_ofInt (h : Seam rest) (n : Int) :
    readPower ('e' :: Numeral.ofInt n ++ rest) = ('e' :: Numeral.ofInt n, rest) := by
  have hds : ∀ c ∈ Numeral.digitsOfNat n.natAbs, c.isDigit = true := fun _ =>
    Numeral.isDigit_of_mem_digitsOfNat
  have some_digit := Numeral.digitsOfNat_ne_nil n.natAbs
  have taken := takeWhile_append_of_stops hds (h.stops rfl)
  have dropped := dropWhile_append_of_stops hds (h.stops rfl)
  unfold Numeral.ofInt
  split_ifs
  · simp [readPower, readPowerSign, taken, dropped, some_digit]
  · simp [readPower, readPowerSign_digits some_digit hds, taken, dropped, some_digit]

section NumberText

open Binary64

variable (t : NumberText)

theorem readPower_powerText (h : Seam rest) :
    readPower (t.powerText ++ rest) = (t.powerText, rest) := by
  unfold NumberText.powerText
  cases t.power? with
  | none => exact readPower_seam h
  | some power => exact readPower_ofInt h power

theorem readPoint_placesText (h : Seam rest) :
    readPoint (t.placesText ++ (t.powerText ++ rest)) = (t.placesText, t.powerText ++ rest) := by
  have isDigit := t.isDigit
  unfold NumberText.placesText
  cases places : t.places? with
  | some ds =>
    rw [places] at isDigit
    exact readPoint_places (fun c hc => isDigit c (List.mem_append_right _ hc))
      (t.powerText_stops (h.stops rfl))
  | none =>
    refine readPoint_of_ne ?_
    unfold NumberText.powerText
    cases t.power? with
    | none => exact h.head?_ne (by decide)
    | some power => simp

theorem readNumber_text (h : Seam rest) : readNumber (t.text ++ rest) = (t.text, rest) := by
  have isDigit : ∀ c ∈ t.whole, c.isDigit = true := fun c hc =>
    t.isDigit c (List.mem_append_left _ hc)
  have stops := t.placesText_stops (h.stops rfl)
  rw [readNumber, NumberText.text, List.append_assoc, List.append_assoc,
    takeWhile_append_of_stops isDigit stops, dropWhile_append_of_stops isDigit stops,
    readPoint_placesText t h]
  dsimp only
  rw [readPower_powerText t h, List.append_assoc]

end NumberText

theorem lexOne_digit {c : Char} (hc : c.isDigit = true) (s : List Char) :
    lexOne d.lexicalRules c s =
      some ([.number (String.ofList (readNumber (c :: s)).1)], (readNumber (c :: s)).2) := by
  have ne {x : Char} (hx : x.isDigit = false) : c ≠ x := by
    rintro rfl
    rw [hc] at hx
    cases hx
  have notSpace : isSpace c = false := by
    simp [isSpace, ne]
  have notQuote : c ≠ d.lexicalRules.nameQuotes.1 := by cases d <;> exact ne rfl
  rw [lexOne]
  simp [notSpace, notQuote, hc, ne]

theorem lexOne_minus {c : Char} (hc : c.isDigit = true) (s : List Char) :
    lexOne d.lexicalRules '-' (c :: s) =
      some ([.number (String.ofList ('-' :: (readNumber (c :: s)).1))],
        (readNumber (c :: s)).2) := by
  have ne : c ≠ '-' := by
    rintro rfl
    cases hc
  have notQuote : '-' ≠ d.lexicalRules.nameQuotes.1 := by cases d <;> decide
  rw [lexOne]
  simp [isSpace, notQuote, hc, ne]

/-- A number is read whole, with the sign in front of it. -/
theorem lex_number (h : Seam rest) (negative : Bool) (t : Binary64.NumberText) :
    lex d.lexicalRules (Binary64.signText negative ++ t.text ++ rest) =
      (lex d.lexicalRules rest).map
        ([.number (String.ofList (Binary64.signText negative ++ t.text))] ++ ·) := by
  obtain ⟨c, s, text, hc⟩ := t.exists_text_eq_cons
  have read := readNumber_text t h
  rw [text, List.cons_append] at read
  rw [text]
  cases negative with
  | false =>
    show lex _ (c :: (s ++ rest)) = _
    refine lex_cons ?_
    rw [lexOne_digit hc, read]
    rfl
  | true =>
    show lex _ ('-' :: (c :: (s ++ rest))) = _
    refine lex_cons ?_
    rw [lexOne_minus hc, read]
    rfl

/-- An integer is a number without a point. -/
theorem exists_ofInt_eq (n : Int) : ∃ (negative : Bool) (t : Binary64.NumberText),
    Numeral.ofInt n = Binary64.signText negative ++ t.text := by
  refine ⟨n < 0, ⟨Numeral.digitsOfNat n.natAbs, none, none, Nat.toDigits_ne_nil, ?_⟩, ?_⟩
  · intro c hc
    rw [Option.getD_none, List.append_nil] at hc
    exact Numeral.isDigit_of_mem_digitsOfNat hc
  · rw [← Binary64.Decimal.signText_append_digitText]
    simp [Binary64.NumberText.text, Binary64.NumberText.placesText,
      Binary64.NumberText.powerText, Numeral.digitsOfNat, Binary64.digitText]

/-! ### Words and symbols -/

/-- The characters of one word. -/
def IsWord (s : List Char) : Prop :=
  s.head?.any isWordStart = true ∧ s.all isWordChar = true

instance : DecidablePred IsWord := fun _ => inferInstanceAs (Decidable (_ ∧ _))

theorem isDigit_of_isWordStart {c : Char} (h : isWordStart c = true) : c.isDigit = false := by
  have above : 57 < c.toNat := by
    rw [isWordStart, Bool.or_eq_true, beq_iff_eq] at h
    rcases h with letter | rfl
    · rcases Bool.or_eq_true_iff.mp letter with upper | lower
      · have least : 65 ≤ c.toNat := (of_decide_eq_true upper).1
        omega
      · have least : 97 ≤ c.toNat := of_decide_eq_true (Bool.and_eq_true_iff.mp lower).1
        omega
    · decide
  refine Bool.eq_false_iff.mpr fun digit => ?_
  have most : c.toNat ≤ 57 := (Char.isDigit_iff_toNat.mp digit).2
  omega

theorem lexOne_wordStart {c : Char} (hc : isWordStart c = true) (national : s.head? ≠ some '\'') :
    lexOne d.lexicalRules c s =
      some ([.word (String.ofList (c :: s.takeWhile isWordChar))], s.dropWhile isWordChar) := by
  have ne {x : Char} (hx : isWordStart x = false) : c ≠ x := by
    rintro rfl
    rw [hc] at hx
    cases hx
  have notSpace : isSpace c = false := by
    simp [isSpace, ne (x := ' ') rfl, ne (x := '\n') rfl, ne (x := '\t') rfl, ne (x := '\r') rfl]
  have notQuote : c ≠ d.lexicalRules.nameQuotes.1 := by cases d <;> exact ne rfl
  have notDigit : c.isDigit = false := isDigit_of_isWordStart hc
  rw [lexOne]
  simp [notSpace, notQuote, hc, ne (x := '\'') rfl, ne (x := '-') rfl, ne (x := '/') rfl,
    national, notDigit]

theorem lex_word (h : Seam rest) {w : List Char} (hw : IsWord w) :
    lex d.lexicalRules (w ++ rest) =
      (lex d.lexicalRules rest).map ([.word (String.ofList w)] ++ ·) := by
  obtain ⟨start, chars⟩ := hw
  cases w with
  | nil => cases start
  | cons c s =>
    have hs : ∀ x ∈ s, isWordChar x = true := fun x hx =>
      List.all_eq_true.mp chars x (List.mem_cons_of_mem _ hx)
    have national : (s ++ rest).head? ≠ some '\'' := by
      cases s with
      | nil => exact h.head?_ne (by decide)
      | cons x s =>
        rintro ⟨⟩
        cases hs '\'' List.mem_cons_self
    rw [List.cons_append]
    refine lex_cons ?_
    rw [lexOne_wordStart start national, takeWhile_append_of_stops hs (h.stops rfl),
      dropWhile_append_of_stops hs (h.stops rfl)]

theorem lex_space (s : List Char) : lex d.lexicalRules (' ' :: s) = lex d.lexicalRules s := by
  rw [lex_cons (show lexOne d.lexicalRules ' ' s = some ([], s) from rfl)]
  simp

theorem lex_newline (s : List Char) : lex d.lexicalRules ('\n' :: s) = lex d.lexicalRules s := by
  rw [lex_cons (show lexOne d.lexicalRules '\n' s = some ([], s) from rfl)]
  simp

/-- Words with a blank between them are read one by one. -/
theorem lex_words (h : Seam rest) (ws : List String) (hws : ∀ w ∈ ws, IsWord w.toList) :
    lex d.lexicalRules (List.intercalate [' '] (ws.map String.toList) ++ rest) =
      (lex d.lexicalRules rest).map (ws.map Lexeme.word ++ ·) := by
  induction ws with
  | nil => simp
  | cons w ws ih =>
    have hw := hws w List.mem_cons_self
    have ih := ih fun x hx => hws x (List.mem_cons_of_mem _ hx)
    cases ws with
    | nil => simpa using lex_word h hw
    | cons v ws =>
      rw [List.map_cons, List.map_cons, List.intercalate_cons_cons, List.append_assoc,
        List.append_assoc, List.singleton_append, lex_word (by simp [seams]) hw, lex_space,
        ← List.map_cons, ih, Option.map_map]
      simp [Function.comp_def]

/-- Symbols that no character after them changes. -/
def Symbol.isOpen : Symbol → Bool
  | .comma | .dot | .leftParen | .rightParen => true
  | _ => false

theorem lex_open {x : Symbol} (hx : x.isOpen = true) (s : List Char) :
    lex d.lexicalRules (x.text.toList ++ s) =
      (lex d.lexicalRules s).map ([.symbol x] ++ ·) := by
  cases x with
  | comma | dot | leftParen | rightParen =>
    exact lex_cons (show lexOne d.lexicalRules _ s = some ([_], s) by cases d <;> rfl)
  | _ => cases hx

theorem lex_symbol (h : Seam rest) (x : Symbol) :
    lex d.lexicalRules (x.text.toList ++ rest) =
      (lex d.lexicalRules rest).map ([.symbol x] ++ ·) := by
  cases rest with
  | nil => cases x <;> exact lex_cons (by cases d <;> rfl)
  | cons c rest =>
    rcases mem_seams_iff.mp (seam_cons.mp h) with rfl | rfl | rfl | rfl | rfl <;> cases x <;>
      exact lex_cons (by cases d <;> rfl)

end StarSchema.Sql
