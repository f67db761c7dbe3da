import StarSchema.Formula.Parser
import StarSchema.Proofs.Text.Numeral

/-!
# The grammar of formulas

Which texts spell which formulas, said without a reader.

```
formula  := operand (operation operand)+
operand  := '[' characters other than ']' ']' | '-'? digits ('.' digits)? | '(' formula ')'
```

Blanks may stand on both sides of every operand and of every operation, and nowhere else outside
brackets. What stands between brackets is a number if it has the form of one once it is trimmed, and
the name of a field if not; the form allows a point with digits on one side of it only, which a
number without brackets may not have.

Main definitions: `Padded`, `SpellsNumber`, `SpellsBracketed`, `Operand.Spelled`, `Formula.Spelled`.

Main results: `Operand.ofBracketed_of_spells` and `Operand.ofBracketed_of_not_spells`, which say
that a bracketed text is sorted as the grammar says.
-/

namespace StarSchema

/-! ### Parts -/

def Blanks (s : List Char) : Prop :=
  ∀ c ∈ s, Text.isBlank c = true

instance (s : List Char) : Decidable (Blanks s) :=
  List.decidableBAll (fun c => Text.isBlank c = true) s

/-- A text with blanks before it and after it. -/
inductive Padded {α : Type} (Spells : List Char → α → Prop) : List Char → α → Prop where
  | intro {before s after : List Char} {x : α} (hbefore : Blanks before) (hs : Spells s x)
    (hafter : Blanks after) : Padded Spells (before ++ s ++ after) x

structure Digits (s : List Char) : Prop where
  nonempty : s ≠ []
  isDigit : ∀ c ∈ s, c.isDigit = true

/-- The double nearest to the number with the given digits before and after its point. -/
def numberOfDigits (negative : Bool) (whole places : List Char) : Binary64 :=
  Binary64.ofDecimal negative (Numeral.natOfDigits (whole ++ places)) (-places.length)

/-- A number as it may stand outside of brackets. -/
inductive SpellsNumber : List Char → Binary64 → Prop where
  | whole (negative : Bool) {ds : List Char} (hds : Digits ds) :
    SpellsNumber (Binary64.signText negative ++ ds) (numberOfDigits negative ds [])
  | places (negative : Bool) {ds ps : List Char} (hds : Digits ds) (hps : Digits ps) :
    SpellsNumber (Binary64.signText negative ++ (ds ++ '.' :: ps)) (numberOfDigits negative ds ps)

/-- A number as it may stand between brackets. -/
inductive SpellsBracketed : List Char → Binary64 → Prop where
  | number {s : List Char} {x : Binary64} (hs : SpellsNumber s x) : SpellsBracketed s x
  | finalPoint (negative : Bool) {ds : List Char} (hds : Digits ds) :
    SpellsBracketed (Binary64.signText negative ++ (ds ++ ['.'])) (numberOfDigits negative ds [])
  | leadingPoint (negative : Bool) {ps : List Char} (hps : Digits ps) :
    SpellsBracketed (Binary64.signText negative ++ '.' :: ps) (numberOfDigits negative [] ps)

inductive Operation.Spelled : List Char → Operation → Prop where
  | symbol (op : Operation) : Spelled [op.symbol] op

/-! ### Operands and formulas -/

mutual

inductive Operand.Spelled : List Char → Operand → Prop where
  | bracketedNumber {contents : List Char} {x : Binary64} (closed : ']' ∉ contents)
    (hx : SpellsBracketed (Text.trim contents) x) :
    Operand.Spelled ('[' :: contents ++ [']']) (.number x)
  | bracketedField {contents : List Char} (nonempty : contents ≠ []) (closed : ']' ∉ contents)
    (noNumber : ∀ x, ¬ SpellsBracketed (Text.trim contents) x) :
    Operand.Spelled ('[' :: contents ++ [']']) (.field (String.ofList (Text.trim contents)))
  | number {s : List Char} {x : Binary64} (hx : SpellsNumber s x) : Operand.Spelled s (.number x)
  | group {s : List Char} {f : Formula} (hf : Formula.Spelled s f) :
    Operand.Spelled ('(' :: s ++ [')']) (.group f)

inductive Formula.Spelled : List Char → Formula → Prop where
  | pair {s t u : List Char} {a b : Operand} {op : Operation}
    (ha : Padded Operand.Spelled s a) (hop : Padded Operation.Spelled t op)
    (hb : Padded Operand.Spelled u b) : Formula.Spelled (s ++ t ++ u) (.pair a op b)
  | step {s t u : List Char} {f : Formula} {b : Operand} {op : Operation}
    (hf : Formula.Spelled s f) (hop : Padded Operation.Spelled t op)
    (hb : Padded Operand.Spelled u b) : Formula.Spelled (s ++ t ++ u) (.step f op b)

end

/-! ### Numbers between brackets -/

open Binary64 (signText)

section Numbers

variable {ds ps s : List Char} {negative : Bool} {x : Binary64}

theorem zero_sub_length (ps : List Char) : (0 : Int) - (ps.length : Int) = -ps.length :=
  Int.zero_sub _

theorem unsigned?_whole (negative : Bool) (hds : Digits ds) :
    Numeral.unsigned? negative ds = some (numberOfDigits negative ds []) := by
  have span : Numeral.spanDigits ds = (ds, []) := by
    simpa using @Numeral.spanDigits_append ds [] hds.isDigit (by simp)
  have nonempty : ds.isEmpty = false := List.isEmpty_eq_false_iff.mpr hds.nonempty
  rw [Numeral.unsigned?, span]
  simp [Numeral.fraction, Numeral.powerOfTen?, nonempty, numberOfDigits]

/-- Digits on one side of a point are enough. -/
theorem unsigned?_point (negative : Bool) (hds : ∀ c ∈ ds, c.isDigit = true)
    (hps : ∀ c ∈ ps, c.isDigit = true) (nonempty : ds ≠ [] ∨ ps ≠ []) :
    Numeral.unsigned? negative (ds ++ '.' :: ps) = some (numberOfDigits negative ds ps) := by
  have whole : Numeral.spanDigits (ds ++ '.' :: ps) = (ds, '.' :: ps) :=
    Numeral.spanDigits_append hds (by simp)
  have places : Numeral.spanDigits ps = (ps, []) := by
    simpa using @Numeral.spanDigits_append ps [] hps (by simp)
  have present : (ds.isEmpty && ps.isEmpty) = false := by
    rw [Bool.and_eq_false_iff, List.isEmpty_eq_false_iff, List.isEmpty_eq_false_iff]
    exact nonempty
  rw [Numeral.unsigned?, whole]
  simp only [Numeral.fraction, places, Numeral.powerOfTen?, present, Option.map_some,
    Bool.false_eq_true, if_false, zero_sub_length, numberOfDigits]

theorem decimal?_signed {body : List Char} (unsigned : Numeral.unsigned? negative body = some x)
    (start : ∃ c t, body = c :: t ∧ c ≠ '-' ∧ c ≠ '+') :
    Numeral.decimal? (signText negative ++ body) = some x := by
  have split : Numeral.splitSign (signText negative ++ body) = (negative, body) := by
    obtain ⟨c, t, rfl, minus, plus⟩ := start
    cases negative with
    | true => rfl
    | false => simp [signText, Numeral.splitSign, minus, plus]
  rw [Numeral.decimal?, split]
  simp only [unsigned, Option.some_or]

theorem isNumeralChar_of_isDigit {c : Char} (h : c.isDigit = true) : isNumeralChar c = true := by
  simp [isNumeralChar, h]

theorem all_isNumeralChar_digits (hds : ∀ c ∈ ds, c.isDigit = true) :
    ds.all isNumeralChar = true :=
  List.all_eq_true.mpr fun c hc => isNumeralChar_of_isDigit (hds c hc)

theorem all_isNumeralChar_signText (negative : Bool) :
    (signText negative).all isNumeralChar = true := by
  cases negative <;> rfl

/-- Digits, or a point, start the part of a number after its sign. -/
theorem exists_start_of_isDigit (nonempty : ds ≠ []) (hds : ∀ c ∈ ds, c.isDigit = true)
    (rest : List Char) : ∃ c t, ds ++ rest = c :: t ∧ c ≠ '-' ∧ c ≠ '+' := by
  obtain ⟨c, t, rfl⟩ := List.exists_cons_of_ne_nil nonempty
  have hc := hds c List.mem_cons_self
  refine ⟨c, t ++ rest, rfl, ?_, ?_⟩
  · rintro rfl
    cases hc
  · rintro rfl
    cases hc

/-- What the grammar takes for a number between brackets is read as that number. -/
theorem decimal?_of_spellsBracketed (h : SpellsBracketed s x) :
    Numeral.decimal? s = some x ∧ s.all isNumeralChar = true := by
  have point (negative : Bool) {ds ps : List Char} (hds : ∀ c ∈ ds, c.isDigit = true)
      (hps : ∀ c ∈ ps, c.isDigit = true) (nonempty : ds ≠ [] ∨ ps ≠ []) :
      Numeral.decimal? (signText negative ++ (ds ++ '.' :: ps)) =
          some (numberOfDigits negative ds ps) ∧
        (signText negative ++ (ds ++ '.' :: ps)).all isNumeralChar = true := by
    refine ⟨decimal?_signed (unsigned?_point negative hds hps nonempty) ?_, ?_⟩
    · by_cases empty : ds = []
      · exact ⟨'.', ps, by rw [empty, List.nil_append], by decide, by decide⟩
      · exact exists_start_of_isDigit empty hds _
    · rw [List.all_append, List.all_append, List.all_cons, all_isNumeralChar_signText,
        all_isNumeralChar_digits hds, all_isNumeralChar_digits hps]
      rfl
  cases h with
  | number hs =>
    cases hs with
    | whole negative hds =>
      refine ⟨decimal?_signed (unsigned?_whole negative hds) ?_, ?_⟩
      · simpa using exists_start_of_isDigit hds.nonempty hds.isDigit []
      · rw [List.all_append, all_isNumeralChar_signText, all_isNumeralChar_digits hds.isDigit]
        rfl
    | places negative hds hps => exact point negative hds.isDigit hps.isDigit (.inl hds.nonempty)
  | finalPoint negative hds =>
    exact point negative hds.isDigit (List.forall_mem_nil _) (.inl hds.nonempty)
  | leadingPoint negative hps =>
    exact point negative (List.forall_mem_nil _) hps.isDigit (.inr hps.nonempty)

/-! What is read as a number and has the characters of one has the form of one. -/

theorem isNumeralChar_iff {c : Char} :
    isNumeralChar c = true ↔ c.isDigit = true ∨ c = '-' ∨ c = '.' := by
  simp [isNumeralChar, or_assoc]

theorem toNat_le_of_isNumeralChar {c : Char} (h : isNumeralChar c = true) : c.toNat ≤ 57 := by
  rcases isNumeralChar_iff.mp h with digit | rfl | rfl
  · exact (Char.isDigit_iff_toNat.mp digit).2
  · decide
  · decide

/-- A number has no letters, so it is no infinity and no NaN. -/
theorem named?_eq_none (hs : s.all isNumeralChar = true) (negative : Bool) :
    Numeral.named? negative s = none := by
  have toLower_eq (c : Char) (hc : c ∈ s) : c.toLower = c := by
    have low := toNat_le_of_isNumeralChar (List.all_eq_true.mp hs c hc)
    refine dif_neg ?_
    rintro ⟨high, -⟩
    have above : 65 ≤ c.toNat := high
    omega
  have lower : s.map Char.toLower = s := by
    rw [List.map_congr_left toLower_eq, List.map_id']
  have differs {name : List Char} (letters : name.all isNumeralChar = false) : s ≠ name := by
    rintro rfl
    rw [hs] at letters
    cases letters
  rw [Numeral.named?, lower, if_neg, if_neg (differs (by decide))]
  exact not_or.mpr ⟨differs (by decide), differs (by decide)⟩

theorem powerOfTen?_eq_none {c : Char} {t : List Char} (hc : isNumeralChar c = true) :
    Numeral.powerOfTen? (c :: t) = none := by
  have low := toNat_le_of_isNumeralChar hc
  rw [Numeral.powerOfTen?, if_neg]
  rintro (rfl | rfl)
  · exact absurd low (by decide)
  · exact absurd low (by decide)

/-- What is read as a number without sign is digits, perhaps with a point at some place. -/
theorem shape_of_unsigned? (chars : s.all isNumeralChar = true)
    (h : Numeral.unsigned? negative s = some x) :
    Digits s ∨ ∃ ds ps, s = ds ++ '.' :: ps ∧ (∀ c ∈ ds, c.isDigit = true) ∧
      (∀ c ∈ ps, c.isDigit = true) ∧ (ds ≠ [] ∨ ps ≠ []) := by
  obtain ⟨ds, rest, rfl, taken, dropped, hds, stops⟩ := exists_span Char.isDigit s
  have chars := (Bool.and_eq_true_iff.mp (List.all_append ▸ chars)).2
  rw [Numeral.unsigned?, Numeral.spanDigits, taken, dropped] at h
  cases rest with
  | nil =>
    refine .inl ⟨?_, by rwa [List.append_nil]⟩
    rw [List.append_nil]
    rintro rfl
    cases h
  | cons c t =>
    rcases isNumeralChar_iff.mp (List.all_eq_true.mp chars c List.mem_cons_self) with
      digit | rfl | rfl
    · rw [stops c rfl] at digit
      cases digit
    · simp [Numeral.fraction, @powerOfTen?_eq_none '-' t rfl] at h
    · obtain ⟨ps, rest, rfl, taken', dropped', hps, -⟩ := exists_span Char.isDigit t
      simp only [Numeral.fraction, Numeral.spanDigits, taken', dropped'] at h
      cases rest with
      | nil =>
        refine .inr ⟨ds, ps, by rw [List.append_nil], hds, hps, ?_⟩
        by_cases noWhole : ds = []
        · refine .inr fun noPlaces => ?_
          rw [noWhole, noPlaces] at h
          cases h
        · exact .inl noWhole
      | cons c t =>
        have hc := List.all_eq_true.mp chars c (by simp)
        simp [powerOfTen?_eq_none hc] at h

theorem exists_splitSign (chars : s.all isNumeralChar = true) :
    ∃ negative body, s = signText negative ++ body ∧ body.all isNumeralChar = true ∧
      Numeral.splitSign s = (negative, body) := by
  cases s with
  | nil => exact ⟨false, [], rfl, rfl, rfl⟩
  | cons c t =>
    obtain ⟨hc, ht⟩ := Bool.and_eq_true_iff.mp (List.all_cons ▸ chars)
    rcases isNumeralChar_iff.mp hc with digit | rfl | rfl
    · exact ⟨false, c :: t, rfl, chars, Numeral.splitSign_of_isDigit digit t⟩
    · exact ⟨true, t, rfl, ht, rfl⟩
    · exact ⟨false, '.' :: t, rfl, chars, rfl⟩

theorem spellsBracketed_of_decimal? (h : Numeral.decimal? s = some x)
    (chars : s.all isNumeralChar = true) : SpellsBracketed s x := by
  obtain ⟨negative, body, rfl, bodyChars, split⟩ := exists_splitSign chars
  rw [Numeral.decimal?, split] at h
  simp only [named?_eq_none bodyChars, Option.or_none] at h
  -- the form fixes the number, so it is enough to find the form
  suffices form : ∃ y, SpellsBracketed (signText negative ++ body) y by
    obtain ⟨y, hy⟩ := form
    have read := (decimal?_of_spellsBracketed hy).1
    rw [Numeral.decimal?, split] at read
    simp only [named?_eq_none bodyChars, Option.or_none, h, Option.some.injEq] at read
    exact read ▸ hy
  rcases shape_of_unsigned? bodyChars h with digits | ⟨ds, ps, rfl, hds, hps, nonempty⟩
  · exact ⟨_, .number (.whole negative digits)⟩
  · by_cases noWhole : ds = []
    · subst noWhole
      have places := nonempty.resolve_left (not_not_intro rfl)
      exact ⟨_, .leadingPoint negative ⟨places, hps⟩⟩
    · by_cases noPlaces : ps = []
      · subst noPlaces
        exact ⟨_, .finalPoint negative ⟨noWhole, hds⟩⟩
      · exact ⟨_, .number (.places negative ⟨noWhole, hds⟩ ⟨noPlaces, hps⟩)⟩

theorem spellsBracketed_iff :
    SpellsBracketed s x ↔ Numeral.decimal? s = some x ∧ s.all isNumeralChar = true :=
  ⟨decimal?_of_spellsBracketed, fun h => spellsBracketed_of_decimal? h.1 h.2⟩

end Numbers

/-- **What stands between brackets** is a number if the trimmed text has the form of one. -/
theorem Operand.ofBracketed_of_spells {contents : List Char} {x : Binary64}
    (h : SpellsBracketed (Text.trim contents) x) : Operand.ofBracketed contents = .number x := by
  obtain ⟨read, chars⟩ := spellsBracketed_iff.mp h
  simp only [Operand.ofBracketed, read, chars, if_true]

/-- It is the name of a field if not. -/
theorem Operand.ofBracketed_of_not_spells {contents : List Char}
    (h : ∀ x, ¬ SpellsBracketed (Text.trim contents) x) :
    Operand.ofBracketed contents = .field (String.ofList (Text.trim contents)) := by
  rw [Operand.ofBracketed]
  cases read : Numeral.decimal? (Text.trim contents) with
  | none => rfl
  | some x =>
    have chars : (Text.trim contents).all isNumeralChar ≠ true := fun chars =>
      h x (spellsBracketed_iff.mpr ⟨read, chars⟩)
    simp only [chars, Bool.false_eq_true, if_false]

/-- An operand between brackets is spelled as it is sorted. -/
theorem Operand.spelled_ofBracketed {contents : List Char} (nonempty : contents ≠ [])
    (closed : ']' ∉ contents) :
    Operand.Spelled ('[' :: contents ++ [']']) (.ofBracketed contents) := by
  by_cases number : ∃ x, SpellsBracketed (Text.trim contents) x
  · obtain ⟨x, hx⟩ := number
    rw [ofBracketed_of_spells hx]
    exact .bracketedNumber closed hx
  · have noNumber (x : Binary64) (hx : SpellsBracketed (Text.trim contents) x) : False :=
      number ⟨x, hx⟩
    rw [ofBracketed_of_not_spells noNumber]
    exact .bracketedField nonempty closed noNumber

end StarSchema
