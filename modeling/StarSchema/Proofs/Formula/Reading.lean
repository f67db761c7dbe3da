import StarSchema.Proofs.Formula.Grammar

/-!
# The reader of formulas accepts the grammar

The reader is deterministic, so it shows more than that it accepts the right texts: a text has at
most one formula.

* What is read is spelled by the part of the text that the reader takes (`readsSpelled`), by
  induction on the bound on the depth of the calls.
* What is spelled is read, with any text behind it that may follow an operand
  (`readFormula?_of_spelled`), by recursion on the tree.
* The bound that the reader starts with is large enough (`Formula.callDepth_le`).

Main result: `Formula.parse_eq_ok_iff_spelled`.
-/

namespace StarSchema

open Binary64 (signText)

variable {s t u rest : List Char}

/-! ### Blanks -/

theorem exists_skipBlanks (s : List Char) :
    ∃ b, Blanks b ∧ s = b ++ Text.skipBlanks s := by
  obtain ⟨b, rest, rfl, -, dropped, hb, -⟩ := exists_span Text.isBlank s
  exact ⟨b, hb, by rw [Text.skipBlanks, dropped]⟩

theorem skipBlanks_append (hs : Blanks s) (rest : List Char) :
    Text.skipBlanks (s ++ rest) = Text.skipBlanks rest := by
  rw [Text.skipBlanks, List.dropWhile_append_of_pos hs]
  rfl

/-! ### What is read is spelled -/

theorem spelled_of_readOperation? {op : Operation} (h : readOperation? s = some (op, rest)) :
    ∃ t, s = t ++ rest ∧ Padded Operation.Spelled t op := by
  obtain ⟨b, hb, hs⟩ := exists_skipBlanks s
  unfold readOperation? at h
  split at h
  · next c r hr =>
    obtain ⟨op', hop, heq⟩ := Option.map_eq_some_iff.mp h
    cases heq
    obtain rfl := Operation.ofSymbol?_eq_some_iff.mp hop
    obtain ⟨b', hb', hr'⟩ := exists_skipBlanks r
    refine ⟨b ++ [op.symbol] ++ b', ?_, .intro hb (.symbol op) hb'⟩
    rw [hs, hr, List.append_assoc, List.append_assoc, List.singleton_append, ← hr']
  · cases h

/-- Places are read up to their last digit, or not at all. -/
theorem readPlaces_cases (s : List Char) :
    readPlaces s = ([], s) ∨
      ∃ ps rest, s = '.' :: (ps ++ rest) ∧ Digits ps ∧ readPlaces s = (ps, rest) := by
  unfold readPlaces
  split
  · next t =>
    obtain ⟨ps, rest, rfl, taken, dropped, hps, -⟩ := exists_span Char.isDigit t
    rw [Numeral.spanDigits, taken, dropped]
    by_cases noPlaces : ps = []
    · exact .inl (by rw [noPlaces]; rfl)
    · refine .inr ⟨ps, rest, rfl, ⟨noPlaces, hps⟩, ?_⟩
      simp [noPlaces]
  · exact .inl rfl

theorem spelled_of_readUnsigned? {negative : Bool} {a : Operand}
    (h : readUnsigned? negative s = some (a, rest)) :
    ∃ t x, s = t ++ rest ∧ a = .number x ∧ SpellsNumber (signText negative ++ t) x := by
  obtain ⟨ds, after, rfl, taken, dropped, hds, -⟩ := exists_span Char.isDigit s
  rw [readUnsigned?, Numeral.spanDigits, taken, dropped] at h
  dsimp only at h
  split at h
  · cases h
  · next nonempty =>
    have digits : Digits ds := ⟨by simpa using nonempty, hds⟩
    rcases readPlaces_cases after with none_ | ⟨ps, rest', rfl, hps, places⟩
    · rw [none_] at h
      cases h
      exact ⟨ds, _, rfl, rfl, .whole negative digits⟩
    · rw [places] at h
      cases h
      exact ⟨ds ++ '.' :: ps, _, by simp, rfl, .places negative digits hps⟩

theorem spelled_of_readNumber? {a : Operand} (h : readNumber? s = some (a, rest)) :
    ∃ t, s = t ++ rest ∧ Operand.Spelled t a := by
  unfold readNumber? at h
  split at h
  · obtain ⟨t, x, rfl, rfl, hx⟩ := spelled_of_readUnsigned? h
    exact ⟨'-' :: t, rfl, .number hx⟩
  · obtain ⟨t, x, rfl, rfl, hx⟩ := spelled_of_readUnsigned? h
    exact ⟨t, rfl, .number hx⟩

theorem spelled_of_readBracketed? {a : Operand} (h : readBracketed? s = some (a, rest)) :
    ∃ t, '[' :: s = t ++ rest ∧ Operand.Spelled t a := by
  obtain ⟨contents, after, rfl, taken, dropped, closed, stops⟩ := exists_span (· != ']') s
  rw [readBracketed?, taken, dropped] at h
  cases after with
  | nil => cases h
  | cons c after =>
    obtain rfl : c = ']' := by simpa using stops c rfl
    dsimp only at h
    split at h
    · cases h
    · next nonempty =>
      cases h
      refine ⟨'[' :: contents ++ [']'], by simp, Operand.spelled_ofBracketed ?_ ?_⟩
      · simpa using nonempty
      · intro hmem
        simpa using closed ']' hmem

/-- A reader that takes a spelled text and the blanks around it. -/
theorem padded_of_skipBlanks {α : Type} {Spells : List Char → α → Prop} {x : α}
    (h : ∃ t, Text.skipBlanks s = t ++ rest ∧ Spells t x) :
    ∃ t, s = t ++ Text.skipBlanks rest ∧ Padded Spells t x := by
  obtain ⟨t, skipped, ht⟩ := h
  obtain ⟨b, hb, hs⟩ := exists_skipBlanks s
  obtain ⟨b', hb', hrest⟩ := exists_skipBlanks rest
  refine ⟨b ++ t ++ b', ?_, .intro hb ht hb'⟩
  rw [hs, skipped, List.append_assoc, List.append_assoc, ← hrest]

/-- What a reader of some depth takes spells what it reads. -/
structure ReadsSpelled (n : Nat) : Prop where
  operand : ∀ {s a rest}, readOperand? n s = some (a, rest) →
    ∃ t, s = t ++ rest ∧ Padded Operand.Spelled t a
  formula : ∀ {s f rest}, readFormula? n s = some (f, rest) →
    ∃ t, s = t ++ rest ∧ Formula.Spelled t f
  extension : ∀ {f s t}, Formula.Spelled t f → ∃ u, s = u ++ (extendFormula n f s).2 ∧
    Formula.Spelled (t ++ u) (extendFormula n f s).1

section

variable {n : Nat}

theorem ReadsSpelled.operand_succ (h : ReadsSpelled n) {a : Operand}
    (read : readOperand? (n + 1) s = some (a, rest)) :
    ∃ t, s = t ++ rest ∧ Padded Operand.Spelled t a := by
  unfold readOperand? at read
  split at read
  · next t start =>
    obtain ⟨⟨a', rest'⟩, read', heq⟩ := Option.map_eq_some_iff.mp read
    cases heq
    exact padded_of_skipBlanks (start ▸ spelled_of_readBracketed? read')
  · next t start =>
    split at read
    · next f rest' read' =>
      cases read
      obtain ⟨u, rfl, hf⟩ := h.formula read'
      exact padded_of_skipBlanks ⟨'(' :: u ++ [')'], by rw [start]; simp, .group hf⟩
    · cases read
  · obtain ⟨⟨a', rest'⟩, read', heq⟩ := Option.map_eq_some_iff.mp read
    cases heq
    exact padded_of_skipBlanks (spelled_of_readNumber? read')

theorem ReadsSpelled.formula_succ (h : ReadsSpelled n) {f : Formula}
    (read : readFormula? (n + 1) s = some (f, rest)) :
    ∃ t, s = t ++ rest ∧ Formula.Spelled t f := by
  simp only [readFormula?, Option.bind_eq_bind, Option.bind_eq_some_iff, Prod.exists,
    Option.pure_def, Option.some.injEq] at read
  obtain ⟨a, s₁, ha, op, s₂, hop, b, s₃, hb, heq⟩ := read
  obtain ⟨t₁, rfl, ht₁⟩ := h.operand ha
  obtain ⟨t₂, rfl, ht₂⟩ := spelled_of_readOperation? hop
  obtain ⟨t₃, rfl, ht₃⟩ := h.operand hb
  obtain ⟨u, hu, hf⟩ := @h.extension _ s₃ _ (.pair ht₁ ht₂ ht₃)
  rw [heq] at hu hf
  exact ⟨t₁ ++ t₂ ++ t₃ ++ u, by rw [hu]; simp only [List.append_assoc], hf⟩

theorem ReadsSpelled.extension_succ (h : ReadsSpelled n) {f : Formula} {t : List Char}
    (ht : Formula.Spelled t f) : ∃ u, s = u ++ (extendFormula (n + 1) f s).2 ∧
      Formula.Spelled (t ++ u) (extendFormula (n + 1) f s).1 := by
  unfold extendFormula
  cases hop : readOperation? s with
  | none => exact ⟨[], rfl, by rwa [List.append_nil]⟩
  | some found =>
    obtain ⟨op, s₁⟩ := found
    dsimp only
    cases hb : readOperand? n s₁ with
    | none => exact ⟨[], rfl, by rwa [List.append_nil]⟩
    | some found =>
      obtain ⟨b, s₂⟩ := found
      obtain ⟨t₁, rfl, ht₁⟩ := spelled_of_readOperation? hop
      obtain ⟨t₂, rfl, ht₂⟩ := h.operand hb
      obtain ⟨u, hu, hf⟩ := @h.extension _ s₂ _ (.step ht ht₁ ht₂)
      refine ⟨t₁ ++ t₂ ++ u, ?_, ?_⟩
      · simp only [List.append_assoc]
        rw [← hu]
      · simpa only [List.append_assoc] using hf

end

/-- **What is read is spelled** by the text that the reader takes. -/
theorem readsSpelled (n : Nat) : ReadsSpelled n := by
  induction n with
  | zero => exact ⟨nofun, nofun, fun ht => ⟨[], rfl, by rwa [List.append_nil]⟩⟩
  | succ n ih => exact ⟨ih.operand_succ, ih.formula_succ, ih.extension_succ⟩

/-! ### What is spelled is read

What follows an operand decides where the reader stops: a number would go on with a digit or with a
point. After an operand of a formula there is a blank, an operation, a closing parenthesis or
nothing. -/

/-- The text may follow an operand. -/
def Follows (rest : List Char) : Prop :=
  ∀ c, (Text.skipBlanks rest).head? = some c → c = ')' ∨ ∃ op : Operation, c = op.symbol

/-- The text continues no number. -/
def EndsNumber (rest : List Char) : Prop :=
  ∀ c, rest.head? = some c → c.isDigit = false ∧ c ≠ '.'

theorem isBlank_symbol (op : Operation) : Text.isBlank op.symbol = false := by
  cases op <;> rfl

theorem Follows.endsNumber (h : Follows rest) : EndsNumber rest := by
  intro c hc
  cases blank : Text.isBlank c with
  | true =>
    refine ⟨isDigit_of_isBlank blank, ?_⟩
    rintro rfl
    cases blank
  | false =>
    obtain ⟨t, rfl⟩ := List.head?_eq_some_iff.mp hc
    rcases h c (by rw [Text.skipBlanks_cons_of_not_blank blank]; rfl) with rfl | ⟨op, rfl⟩
    · decide
    · cases op <;> decide

theorem Follows.append_blanks (h : Follows rest) (hs : Blanks s) : Follows (s ++ rest) := by
  intro c hc
  rw [skipBlanks_append hs] at hc
  exact h c hc

theorem follows_nil : Follows [] := by
  intro c hc
  cases hc

theorem follows_closing (rest : List Char) : Follows (')' :: rest) := by
  rintro c ⟨⟩
  exact .inl rfl

theorem follows_operation {op : Operation} (h : Padded Operation.Spelled t op)
    (rest : List Char) : Follows (t ++ rest) := by
  obtain ⟨hb, ⟨_⟩, -⟩ := h
  intro c hc
  rw [List.append_assoc, List.append_assoc, skipBlanks_append hb, List.singleton_append,
    Text.skipBlanks_cons_of_not_blank (isBlank_symbol op)] at hc
  cases hc
  exact .inr ⟨op, rfl⟩

theorem skipBlanks_skipBlanks (s : List Char) :
    Text.skipBlanks (Text.skipBlanks s) = Text.skipBlanks s := by
  obtain ⟨b, hb, hs⟩ := exists_skipBlanks s
  calc Text.skipBlanks (Text.skipBlanks s)
      = Text.skipBlanks (b ++ Text.skipBlanks s) := (skipBlanks_append hb _).symm
    _ = Text.skipBlanks s := by rw [← hs]

/-- Blanks in front of an operand are skipped in any case. -/
theorem readOperand?_skipBlanks (n : Nat) (s : List Char) :
    readOperand? n (Text.skipBlanks s) = readOperand? n s := by
  cases n with
  | zero => rfl
  | succ n => rw [readOperand?, readOperand?, skipBlanks_skipBlanks]

theorem readOperation?_of_padded {op : Operation} (h : Padded Operation.Spelled t op)
    (rest : List Char) :
    readOperation? (Text.skipBlanks (t ++ rest)) = some (op, Text.skipBlanks rest) := by
  obtain ⟨hb, ⟨_⟩, hb'⟩ := h
  rw [readOperation?, skipBlanks_skipBlanks, List.append_assoc, List.append_assoc,
    skipBlanks_append hb, List.singleton_append,
    Text.skipBlanks_cons_of_not_blank (isBlank_symbol op)]
  simp only [Operation.ofSymbol?_symbol, skipBlanks_append hb', Option.map_some]

/-! #### Single operands -/

theorem readPlaces_of_ends (h : EndsNumber rest) : readPlaces rest = ([], rest) := by
  unfold readPlaces
  split
  · exact absurd rfl (h '.' rfl).2
  · rfl

theorem readUnsigned?_whole (negative : Bool) (hs : Digits s) (h : EndsNumber rest) :
    readUnsigned? negative (s ++ rest) = some (.number (numberOfDigits negative s []), rest) := by
  have nonempty : s.isEmpty = false := List.isEmpty_eq_false_iff.mpr hs.nonempty
  rw [readUnsigned?, Numeral.spanDigits_append hs.isDigit fun c hc => (h c hc).1]
  simp only [readPlaces_of_ends h, nonempty, Bool.false_eq_true, if_false]
  rfl

theorem readUnsigned?_places (negative : Bool) (hs : Digits s) (ht : Digits t)
    (h : EndsNumber rest) :
    readUnsigned? negative (s ++ '.' :: (t ++ rest)) =
      some (.number (numberOfDigits negative s t), rest) := by
  have nonempty : s.isEmpty = false := List.isEmpty_eq_false_iff.mpr hs.nonempty
  have places : t.isEmpty = false := List.isEmpty_eq_false_iff.mpr ht.nonempty
  rw [readUnsigned?, Numeral.spanDigits_append hs.isDigit (by simp)]
  simp only [readPlaces, Numeral.spanDigits_append ht.isDigit fun c hc => (h c hc).1, nonempty,
    places, Bool.false_eq_true, if_false]
  rfl

/-- A number starts with a minus sign or with a digit, and is read by its sign. -/
theorem readNumber?_signed (negative : Bool) (hs : Digits s) (rest : List Char) :
    readNumber? (signText negative ++ (s ++ rest)) = readUnsigned? negative (s ++ rest) := by
  cases negative with
  | true => rfl
  | false =>
    obtain ⟨c, t, rfl⟩ := List.exists_cons_of_ne_nil hs.nonempty
    have hc := hs.isDigit c List.mem_cons_self
    show readNumber? (c :: (t ++ rest)) = _
    unfold readNumber?
    split
    · next heq =>
      cases heq
      cases hc
    · rfl

theorem readNumber?_of_spells {x : Binary64} (h : SpellsNumber s x) (ends : EndsNumber rest) :
    readNumber? (s ++ rest) = some (.number x, rest) := by
  cases h with
  | whole negative hds =>
    rw [List.append_assoc, readNumber?_signed negative hds]
    exact readUnsigned?_whole negative hds ends
  | places negative hds hps =>
    rw [List.append_assoc, List.append_assoc, readNumber?_signed negative hds, List.cons_append]
    exact readUnsigned?_places negative hds hps ends

theorem readBracketed?_of_closed (nonempty : s ≠ []) (closed : ']' ∉ s) (rest : List Char) :
    readBracketed? (s ++ ']' :: rest) = some (.ofBracketed s, rest) := by
  have inside : ∀ c ∈ s, (c != ']') = true := by
    intro c hc
    rw [bne_iff_ne]
    rintro rfl
    exact closed hc
  have present : s.isEmpty = false := List.isEmpty_eq_false_iff.mpr nonempty
  rw [readBracketed?, takeWhile_append_of_stops inside (by simp),
    dropWhile_append_of_stops inside (by simp)]
  simp only [present, Bool.false_eq_true, if_false]

theorem Digits.exists_start (hs : Digits s) :
    ∃ c t, s = c :: t ∧ c.isDigit = true := by
  obtain ⟨c, t, rfl⟩ := List.exists_cons_of_ne_nil hs.nonempty
  exact ⟨c, t, rfl, hs.isDigit c List.mem_cons_self⟩

/-- A number starts with its sign or with a digit. -/
theorem SpellsNumber.exists_start {x : Binary64} (h : SpellsNumber s x) :
    ∃ c t, s = c :: t ∧ isNumeralChar c = true := by
  have start (negative : Bool) {ds : List Char} (hds : Digits ds) (after : List Char) :
      ∃ c t, signText negative ++ (ds ++ after) = c :: t ∧ isNumeralChar c = true := by
    obtain ⟨c, t, rfl, digit⟩ := hds.exists_start
    cases negative with
    | true => exact ⟨'-', c :: t ++ after, rfl, rfl⟩
    | false => exact ⟨c, t ++ after, rfl, isNumeralChar_of_isDigit digit⟩
  cases h with
  | whole negative hds => simpa using start negative hds []
  | places negative hds hps => exact start negative hds _

theorem isBlank_of_isNumeralChar {c : Char} (h : isNumeralChar c = true) :
    Text.isBlank c = false := by
  refine Bool.eq_false_iff.mpr fun blank => ?_
  rcases isNumeralChar_iff.mp h with digit | rfl | rfl
  · rw [isDigit_of_isBlank blank] at digit
    cases digit
  · cases blank
  · cases blank

theorem not_spellsBracketed_nil (x : Binary64) : ¬ SpellsBracketed [] x := by
  intro h
  cases (decimal?_of_spellsBracketed h).1

theorem readOperand?_append_blanks (hs : Blanks s) (n : Nat) (rest : List Char) :
    readOperand? n (s ++ rest) = readOperand? n rest := by
  rw [← readOperand?_skipBlanks, skipBlanks_append hs, readOperand?_skipBlanks]

theorem readOperand?_of_spellsNumber {x : Binary64} (h : SpellsNumber s x)
    (ends : EndsNumber rest) (n : Nat) :
    readOperand? (n + 1) (s ++ rest) = some (.number x, Text.skipBlanks rest) := by
  have read := readNumber?_of_spells h ends
  obtain ⟨c, t, rfl, hc⟩ := h.exists_start
  rw [List.cons_append] at read ⊢
  rw [readOperand?, Text.skipBlanks_cons_of_not_blank (isBlank_of_isNumeralChar hc)]
  split
  · next heq =>
    cases heq
    cases hc
  · next heq =>
    cases heq
    cases hc
  · rw [read]
    rfl

theorem readOperand?_of_closed (nonempty : s ≠ []) (closed : ']' ∉ s) (n : Nat)
    (rest : List Char) :
    readOperand? (n + 1) ('[' :: (s ++ ']' :: rest)) =
      some (.ofBracketed s, Text.skipBlanks rest) := by
  rw [readOperand?, Text.skipBlanks_cons_of_not_blank (by decide)]
  simp only [readBracketed?_of_closed nonempty closed, Option.map_some]

theorem readOperand?_of_group {n : Nat} {f : Formula}
    (h : readFormula? n s = some (f, ')' :: rest)) :
    readOperand? (n + 1) ('(' :: s) = some (.group f, Text.skipBlanks rest) := by
  rw [readOperand?, Text.skipBlanks_cons_of_not_blank (by decide)]
  simp only [h]

/-- The blanks around an operand are read with it. -/
theorem readOperand?_of_padded {n : Nat} {a : Operand} (h : Padded Operand.Spelled t a)
    (follows : Follows rest)
    (read : ∀ {s rest : List Char}, Operand.Spelled s a → Follows rest →
      readOperand? n (s ++ rest) = some (a, Text.skipBlanks rest)) :
    readOperand? n (t ++ rest) = some (a, Text.skipBlanks rest) := by
  obtain ⟨before, hs, after⟩ := h
  rw [List.append_assoc, List.append_assoc, readOperand?_append_blanks before,
    read hs (follows.append_blanks after), skipBlanks_append after]

/-! #### Formulas

A formula is read until no operation follows, so the reader of its first operations goes on with
the later ones. The bound on the depth of the calls is spent on groups and on operations. -/

mutual

def Operand.callDepth : Operand → Nat
  | .field _ => 1
  | .number _ => 1
  | .group f => f.callDepth + 1

/-- A bound on the depth of the calls that read a formula. -/
def Formula.callDepth : Formula → Nat
  | .pair a _ b => max a.callDepth b.callDepth + 1
  | .step f _ b => f.callDepth + b.callDepth + 1

end

/-- Nothing extends a formula at the end of the text, and nothing at the end of its group. -/
theorem extendFormula_of_end (n : Nat) (f : Formula) (h : rest = [] ∨ ∃ u, rest = ')' :: u) :
    extendFormula n f rest = (f, rest) := by
  cases n with
  | zero => rfl
  | succ n =>
    obtain rfl | ⟨u, rfl⟩ := h
    · rfl
    · rw [extendFormula, readOperation?, Text.skipBlanks_cons_of_not_blank (by decide)]
      rfl

mutual

theorem readOperand?_of_spelled : ∀ (a : Operand) {n : Nat} {t rest : List Char},
    Operand.Spelled t a → a.callDepth ≤ n → Follows rest →
      readOperand? n (t ++ rest) = some (a, Text.skipBlanks rest)
  | .field _, n + 1, _, rest, .bracketedField nonempty closed noNumber, _, _ => by
    rw [List.append_assoc, List.cons_append, List.singleton_append,
      readOperand?_of_closed nonempty closed n rest, Operand.ofBracketed_of_not_spells noNumber]
  | .number _, n + 1, _, rest, @Operand.Spelled.bracketedNumber contents _ closed hx, _, _ => by
    have nonempty : contents ≠ [] := by
      rintro rfl
      exact not_spellsBracketed_nil _ hx
    rw [List.append_assoc, List.cons_append, List.singleton_append,
      readOperand?_of_closed nonempty closed n rest, Operand.ofBracketed_of_spells hx]
  | .number _, n + 1, _, _, .number hx, _, follows =>
    readOperand?_of_spellsNumber hx follows.endsNumber n
  | .group f, n + 1, _, rest, .group hf, enough, _ => by
    obtain ⟨m, -, read⟩ := readFormula?_of_spelled f hf (Nat.le_of_succ_le_succ enough)
      (follows_closing rest)
    rw [Text.skipBlanks_cons_of_not_blank (by decide), extendFormula_of_end m f (.inr ⟨_, rfl⟩)]
      at read
    rw [List.append_assoc, List.cons_append, List.singleton_append]
    exact readOperand?_of_group read

/-- **What is spelled is read**, up to the operations that follow it. -/
theorem readFormula?_of_spelled : ∀ (f : Formula) {n : Nat} {t rest : List Char},
    Formula.Spelled t f → f.callDepth ≤ n → Follows rest →
      ∃ m, n ≤ m + f.callDepth ∧
        readFormula? n (t ++ rest) = some (extendFormula m f (Text.skipBlanks rest))
  | .pair a op b, n + 1, _, rest, @Formula.Spelled.pair s t u _ _ _ ha hop hb, enough, follows => by
    have depths : max a.callDepth b.callDepth ≤ n := Nat.le_of_succ_le_succ enough
    have first := readOperand?_of_padded ha (follows_operation hop (u ++ rest))
      fun hs => readOperand?_of_spelled a hs (Nat.le_trans (Nat.le_max_left _ _) depths)
    have second := readOperand?_of_padded hb follows
      fun hs => readOperand?_of_spelled b hs (Nat.le_trans (Nat.le_max_right _ _) depths)
    refine ⟨n, by simp only [Formula.callDepth]; omega, ?_⟩
    rw [List.append_assoc, List.append_assoc, readFormula?, first]
    simp only [Option.bind_eq_bind, Option.bind_some, readOperation?_of_padded hop,
      readOperand?_skipBlanks, second, Option.pure_def]
  | .step f op b, n, _, rest, @Formula.Spelled.step s t u _ _ _ hf hop hb, enough, follows => by
    rw [Formula.callDepth] at enough
    obtain ⟨m, bound, before⟩ := readFormula?_of_spelled f hf (by omega : f.callDepth ≤ n)
      (follows_operation hop (u ++ rest))
    obtain ⟨k, rfl⟩ : ∃ k, m = k + 1 := ⟨m - 1, by omega⟩
    have next := readOperand?_of_padded hb follows
      fun hs => readOperand?_of_spelled b hs (by omega : b.callDepth ≤ k)
    refine ⟨k, by rw [Formula.callDepth]; omega, ?_⟩
    rw [List.append_assoc, List.append_assoc, before, extendFormula, readOperation?_of_padded hop]
    simp only [readOperand?_skipBlanks, next]

end

/-! #### Twice the length of the text is enough -/

theorem Padded.exists_length_le {α : Type} {Spells : List Char → α → Prop} {x : α}
    (h : Padded Spells t x) : ∃ s, Spells s x ∧ s.length ≤ t.length := by
  obtain ⟨-, hs, -⟩ := h
  refine ⟨_, hs, ?_⟩
  simp only [List.length_append]
  omega

mutual

theorem Operand.callDepth_le : ∀ (a : Operand) {t : List Char}, Operand.Spelled t a →
    a.callDepth ≤ 2 * t.length
  | .field _, _, .bracketedField _ _ _ => by
    simp only [Operand.callDepth, List.length_append, List.length_cons]
    omega
  | .number _, _, .bracketedNumber _ _ => by
    simp only [Operand.callDepth, List.length_append, List.length_cons]
    omega
  | .number _, _, .number hx => by
    obtain ⟨c, t, rfl, -⟩ := hx.exists_start
    simp only [Operand.callDepth, List.length_cons]
    omega
  | .group f, _, .group hf => by
    have inner := Formula.callDepth_le f hf
    simp only [Operand.callDepth, List.length_append, List.length_cons]
    omega

theorem Formula.callDepth_le : ∀ (f : Formula) {t : List Char}, Formula.Spelled t f →
    f.callDepth ≤ 2 * t.length
  | .pair a op b, _, .pair ha hop hb => by
    obtain ⟨s, hs, shorter⟩ := ha.exists_length_le
    obtain ⟨_, ⟨_⟩, sign⟩ := hop.exists_length_le
    obtain ⟨u, hu, shorter'⟩ := hb.exists_length_le
    have left := Operand.callDepth_le a hs
    have right := Operand.callDepth_le b hu
    simp only [Formula.callDepth, List.length_append, List.length_singleton] at sign ⊢
    omega
  | .step f op b, _, .step hf hop hb => by
    obtain ⟨_, ⟨_⟩, sign⟩ := hop.exists_length_le
    obtain ⟨u, hu, shorter⟩ := hb.exists_length_le
    have left := Formula.callDepth_le f hf
    have right := Operand.callDepth_le b hu
    simp only [Formula.callDepth, List.length_append, List.length_singleton] at sign ⊢
    omega

end

/-! ### The whole text -/

theorem Formula.read?_eq_some_iff {f : Formula} :
    Formula.read? s = some f ↔ Formula.Spelled s f := by
  rw [Formula.read?]
  constructor
  · intro h
    split at h
    · next read =>
      cases h
      obtain ⟨t, rfl, ht⟩ := (readsSpelled _).formula read
      rwa [List.append_nil]
    · cases h
  · intro h
    have enough : f.callDepth ≤ 2 * s.length + 2 := Nat.le_add_right_of_le (f.callDepth_le h)
    obtain ⟨m, -, read⟩ := readFormula?_of_spelled f h enough follows_nil
    rw [List.append_nil, Text.skipBlanks_nil, extendFormula_of_end m f (.inl rfl)] at read
    rw [read]

/-- **The parser accepts exactly the grammar.** A text parses as a formula just if the grammar
derives that formula from it and every number in it is finite, and the grammar derives at most one
formula from a text. What stands between brackets is the number that it spells once it is trimmed,
and the field of that name if it spells none. -/
theorem Formula.parse_eq_ok_iff_spelled (source : String) :
    (∀ f, Formula.parse source = .ok f ↔
      Formula.Spelled source.toList f ∧ f.isFinite = true) ∧
    (∀ f g, Formula.Spelled source.toList f → Formula.Spelled source.toList g → f = g) ∧
    ∀ contents,
      (∀ x, Operand.ofBracketed contents = .number x ↔ SpellsBracketed (Text.trim contents) x) ∧
      ∀ name, Operand.ofBracketed contents = .field name ↔
        (∀ x, ¬ SpellsBracketed (Text.trim contents) x) ∧
          name = String.ofList (Text.trim contents) := by
  refine ⟨fun f => ?_, fun f g hf hg => ?_, fun contents => ?_⟩
  · rw [← Formula.read?_eq_some_iff, Formula.parse]
    cases Formula.read? source.toList with
    | none => simp
    | some g =>
      dsimp only
      by_cases finite : g.isFinite = true
      · rw [if_pos finite, Except.ok.injEq, Option.some.injEq]
        exact ⟨fun h => ⟨h, h ▸ finite⟩, fun h => h.1⟩
      · rw [if_neg finite, Option.some.injEq]
        exact ⟨nofun, fun ⟨h, finite'⟩ => absurd (h ▸ finite') finite⟩
  · have hf := Formula.read?_eq_some_iff.mpr hf
    rw [Formula.read?_eq_some_iff.mpr hg] at hf
    exact (Option.some.inj hf).symm
  · by_cases number : ∃ x, SpellsBracketed (Text.trim contents) x
    · obtain ⟨x, hx⟩ := number
      rw [Operand.ofBracketed_of_spells hx]
      refine ⟨fun y => ⟨?_, fun hy => ?_⟩, fun name => ⟨nofun, fun h => absurd hx (h.1 x)⟩⟩
      · rintro ⟨⟩
        exact hx
      · rw [← Operand.ofBracketed_of_spells hy, Operand.ofBracketed_of_spells hx]
    · have noNumber (x : Binary64) (hx : SpellsBracketed (Text.trim contents) x) : False :=
        number ⟨x, hx⟩
      rw [Operand.ofBracketed_of_not_spells noNumber]
      refine ⟨fun x => ⟨nofun, fun hx => absurd hx (noNumber x)⟩, fun name => ⟨?_, ?_⟩⟩
      · rintro ⟨⟩
        exact ⟨noNumber, rfl⟩
      · rintro ⟨-, rfl⟩
        rfl

/-- The second minus sign stands where an operand is due. -/
theorem Formula.parse_eq_ok_iff_spelled_signed :
    let f : Formula := .pair (.field "a") .sub (.number (numberOfDigits true ['1'] []))
    Formula.Spelled "[a] --1".toList f ∧ Formula.parse "[a] --1" = .ok f ∧
      ∀ g, Formula.Spelled "[a] --1".toList g → g = f := by
  intro f
  have noNumber (x : Binary64) : ¬ SpellsBracketed (Text.trim ['a']) x := by
    intro hx
    cases (spellsBracketed_iff.mp hx).1
  have field : Operand.Spelled "[a]".toList (.field "a") :=
    .bracketedField (by decide) (by decide) noNumber
  have sign : Operation.Spelled "-".toList .sub := .symbol .sub
  have one : Operand.Spelled "-1".toList (.number (numberOfDigits true ['1'] [])) :=
    .number (.whole true ⟨by decide, List.forall_mem_singleton.mpr rfl⟩)
  have spelled : Formula.Spelled "[a] --1".toList f :=
    .pair (@Padded.intro _ _ [] _ [' '] _ (by decide) field (by decide))
      (@Padded.intro _ _ [] _ [] _ (by decide) sign (by decide))
      (@Padded.intro _ _ [] _ [] _ (by decide) one (by decide))
  obtain ⟨accepts, unique, -⟩ := Formula.parse_eq_ok_iff_spelled "[a] --1"
  exact ⟨spelled, (accepts f).mpr ⟨spelled, rfl⟩, fun g hg => unique g f hg spelled⟩

end StarSchema
