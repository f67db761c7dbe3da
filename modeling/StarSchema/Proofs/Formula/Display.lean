import StarSchema.Proofs.Binary64.ReadBack
import StarSchema.Proofs.Formula.Reading
import StarSchema.Proofs.Text.Trimmed

/-!
# A displayed formula reads back

The written form of a formula that was parsed is spelled by the grammar, and spells that formula:
numbers are displayed as decimals which round to them, and names are trimmed already and stay
between brackets what they were.

A name may be empty, since brackets around blanks are read as the name that is left of them. Such a
formula has a written form in which a bracket closes as soon as it is opened, and the grammar
derives no formula from a text like that. A text is scanned for such brackets character by character
(`BracketState.next?`), because brackets inside of a name open nothing.

Main definitions: `BracketState`, `BracketState.scan?`.

Main results: `Formula.spelled_text`, `Formula.scan?_text`, `Formula.parse_text`.
-/

namespace StarSchema

open Binary64 (signText)

/-! ### Numbers -/

theorem Digits.append {s t : List Char} (hs : Digits s) (ht : ∀ c ∈ t, c.isDigit = true) :
    Digits (s ++ t) :=
  ⟨List.append_ne_nil_of_left_ne_nil hs.nonempty _,
    List.forall_mem_append.mpr ⟨hs.isDigit, ht⟩⟩

namespace Binary64

theorem digits_digitText (n : Nat) : Digits (digitText n) :=
  ⟨Nat.toDigits_ne_nil, fun _ => Decimal.isDigit_of_mem_digitText⟩

/-- A decimal is written as a number that rounds to the same double. -/
theorem Decimal.spellsNumber_plain (negative : Bool) (d : Decimal) :
    SpellsNumber (signText negative ++ d.plain) (d.round negative) := by
  by_cases whole : 0 ≤ d.exponent
  · obtain ⟨digits, exponent⟩ := d
    obtain ⟨count, rfl⟩ := Int.eq_ofNat_of_zero_le whole
    have text : plain ⟨digits, count⟩ = digitText digits ++ zeros count := by
      rw [plain, if_pos whole, Int.toNat_natCast]
    have value : numberOfDigits negative (digitText digits ++ zeros count) [] =
        (scale ⟨digits, count⟩ count).round negative := by
      simp [numberOfDigits, Decimal.round, scale, natOfDigits_append_zeros]
    rw [text, ← round_scale negative _ count, ← value]
    exact .whole negative ((digits_digitText digits).append fun _ => isDigit_of_mem_zeros)
  · obtain ⟨ds, ps, text, hds, hps, isDigit, value⟩ :=
      exists_sides_plain (Int.not_le.mp whole)
    rw [List.forall_mem_append] at isDigit
    have rounded : numberOfDigits negative ds ps = d.round negative := by
      rw [value]
      rfl
    rw [text, ← rounded]
    exact .places negative ⟨hds, isDigit.1⟩ ⟨hps, isDigit.2⟩

/-- **A displayed number reads back.** -/
theorem spellsNumber_display {x : Binary64} (h : x.isFinite = true) :
    SpellsNumber x.display x := by
  cases x with
  | nan | infinity => cases h
  | finite negative m e canonical =>
    rw [display]
    by_cases hm : m = 0
    · have least : e = -1074 := by
        obtain ⟨-, -, -, leading | least⟩ := canonical
        · rw [hm] at leading
          cases leading
        · exact least
      subst hm least
      have zero : Digits ['0'] := ⟨by simp, by simp⟩
      cases negative with
      | true => exact .whole true zero
      | false => exact .whole false zero
    · have spelled := (shortest .up m e).spellsNumber_plain negative
      rw [Decimal.round_sign, round_shortest .up canonical hm] at spelled
      rwa [if_neg hm]

end Binary64

/-! ### Formulas without empty names -/

theorem Operand.empty_mem_fields_iff {s : List Char} :
    "" ∈ (Operand.field (String.ofList s)).fields ↔ s = [] := by
  rw [Operand.fields, List.mem_singleton, eq_comm, String.ofList_eq_empty_iff]

theorem Padded.of_spells {α : Type} {Spells : List Char → α → Prop} {t : List Char} {x : α}
    (h : Spells t x) : Padded Spells t x := by
  have padded := @Padded.intro _ Spells [] t [] x (by decide) h (by decide)
  rwa [List.nil_append, List.append_nil] at padded

theorem Operation.padded_text (op : Operation) : Padded Operation.Spelled op.text op :=
  @Padded.intro _ _ [' '] [op.symbol] [' '] op (by decide) (.symbol op) (by decide)

theorem Padded.exists_spells {α : Type} {Spells : List Char → α → Prop} {t : List Char} {x : α}
    (h : Padded Spells t x) : ∃ s, Spells s x := by
  obtain ⟨-, hs, -⟩ := h
  exact ⟨_, hs⟩

mutual

theorem Operand.spelled_text : ∀ (a : Operand) {t : List Char}, Operand.Spelled t a →
    a.isFinite = true → "" ∉ a.fields → Operand.Spelled a.text a
  | .field _, _, @Operand.Spelled.bracketedField contents _ closed noNumber, _, named => by
    have nonempty : Text.trim contents ≠ [] := mt Operand.empty_mem_fields_iff.mpr named
    have spelled := Operand.Spelled.bracketedField nonempty (closed ∘ Text.mem_of_mem_trim)
      (by rwa [Text.trim_trim])
    rw [Text.trim_trim] at spelled
    rwa [Operand.text, String.toList_ofList]
  | .number _, _, _, finite, _ => .number (Binary64.spellsNumber_display finite)
  | .group f, _, .group hf, finite, named => .group (Formula.spelled_text f hf finite named)

/-- **A formula is spelled by its written form**, if its names are not empty. -/
theorem Formula.spelled_text : ∀ (f : Formula) {t : List Char}, Formula.Spelled t f →
    f.isFinite = true → "" ∉ f.fields → Formula.Spelled f.text f
  | .pair a op b, _, .pair ha _ hb, finite, named => by
    obtain ⟨s, ha⟩ := ha.exists_spells
    obtain ⟨u, hb⟩ := hb.exists_spells
    rw [Formula.isFinite, Bool.and_eq_true] at finite
    rw [Formula.fields, List.mem_append, not_or] at named
    exact .pair (.of_spells (Operand.spelled_text a ha finite.1 named.1)) op.padded_text
      (.of_spells (Operand.spelled_text b hb finite.2 named.2))
  | .step f op b, _, .step hf _ hb, finite, named => by
    obtain ⟨u, hb⟩ := hb.exists_spells
    rw [Formula.isFinite, Bool.and_eq_true] at finite
    rw [Formula.fields, List.mem_append, not_or] at named
    exact .step (Formula.spelled_text f hf finite.1 named.1) op.padded_text
      (.of_spells (Operand.spelled_text b hb finite.2 named.2))

end

/-! ### Empty brackets -/

/-- Where a character stands: outside of brackets, next to an opening one, or farther inside. -/
inductive BracketState where
  | outside
  | opened
  | inside

namespace BracketState

/-- Where the next character stands, unless the brackets are empty. -/
def next? : BracketState → Char → Option BracketState
  | outside, c => some (if c = '[' then opened else outside)
  | opened, c => if c = ']' then none else some inside
  | inside, c => some (if c = ']' then outside else inside)

/-- Where the text behind another one stands, unless that has empty brackets. -/
def scan? (b : BracketState) (s : List Char) : Option BracketState :=
  s.foldlM next? b

theorem scan?_append (b : BracketState) (s t : List Char) :
    b.scan? (s ++ t) = (b.scan? s).bind (·.scan? t) :=
  List.foldlM_append

theorem scan?_cons (b : BracketState) (c : Char) (s : List Char) :
    b.scan? (c :: s) = (b.next? c).bind (·.scan? s) :=
  List.foldlM_cons

theorem scan?_outside {s : List Char} (h : '[' ∉ s) : outside.scan? s = some outside := by
  induction s with
  | nil => rfl
  | cons c s ih =>
    rw [List.mem_cons, not_or] at h
    rw [scan?_cons, next?, if_neg (Ne.symm h.1)]
    exact ih h.2

theorem scan?_inside {s : List Char} (h : ']' ∉ s) (rest : List Char) :
    inside.scan? (s ++ rest) = inside.scan? rest := by
  induction s with
  | nil => rfl
  | cons c s ih =>
    rw [List.mem_cons, not_or] at h
    rw [List.cons_append, scan?_cons, next?, if_neg (Ne.symm h.1)]
    exact ih h.2

theorem scan?_brackets {contents : List Char} (nonempty : contents ≠ [])
    (closed : ']' ∉ contents) : outside.scan? ('[' :: contents ++ [']']) = some outside := by
  obtain ⟨c, s, rfl⟩ := List.exists_cons_of_ne_nil nonempty
  rw [List.mem_cons, not_or] at closed
  have opening : opened.next? c = some inside := if_neg (Ne.symm closed.1)
  rw [List.cons_append, scan?_cons, List.cons_append]
  show opened.scan? (c :: (s ++ [']'])) = _
  rw [scan?_cons, opening]
  exact scan?_inside closed.2 [']']

theorem scan?_blanks {s : List Char} (h : Blanks s) : outside.scan? s = some outside := by
  refine scan?_outside fun bracket => ?_
  cases h '[' bracket

theorem scan?_padded {α : Type} {Spells : List Char → α → Prop} {t : List Char} {x : α}
    (h : Padded Spells t x) (hs : ∀ {s}, Spells s x → outside.scan? s = some outside) :
    outside.scan? t = some outside := by
  obtain ⟨before, spelled, after⟩ := h
  rw [scan?_append, scan?_append, scan?_blanks before, Option.bind_some, hs spelled,
    Option.bind_some, scan?_blanks after]

theorem scan?_operation {t : List Char} {op : Operation} (h : Padded Operation.Spelled t op) :
    outside.scan? t = some outside :=
  scan?_padded h fun hs => by
    cases hs
    cases op <;> rfl

theorem scan?_number {t : List Char} {x : Binary64} (h : SpellsNumber t x) :
    outside.scan? t = some outside := by
  have chars := (decimal?_of_spellsBracketed (.number h)).2
  exact scan?_outside fun bracket => nomatch List.all_eq_true.mp chars '[' bracket

theorem scan?_group (s : List Char) :
    outside.scan? ('(' :: s ++ [')']) = (outside.scan? s).bind (·.scan? [')']) := by
  rw [List.cons_append, scan?_cons]
  exact scan?_append _ s [')']

end BracketState

open BracketState (outside)

mutual

theorem Operand.scan?_of_spelled : ∀ (a : Operand) {t : List Char}, Operand.Spelled t a →
    outside.scan? t = some outside
  | .field _, _, .bracketedField nonempty closed _ => BracketState.scan?_brackets nonempty closed
  | .number _, _, @Operand.Spelled.bracketedNumber contents _ closed hx => by
    refine BracketState.scan?_brackets ?_ closed
    rintro rfl
    exact not_spellsBracketed_nil _ hx
  | .number _, _, .number hx => BracketState.scan?_number hx
  | .group f, _, .group hf => by
    rw [BracketState.scan?_group, Formula.scan?_of_spelled f hf]
    rfl

/-- A formula is spelled without empty brackets. -/
theorem Formula.scan?_of_spelled : ∀ (f : Formula) {t : List Char}, Formula.Spelled t f →
    outside.scan? t = some outside
  | .pair a op b, _, .pair ha hop hb => by
    rw [BracketState.scan?_append, BracketState.scan?_append,
      BracketState.scan?_padded ha (Operand.scan?_of_spelled a), Option.bind_some,
      BracketState.scan?_operation hop, Option.bind_some,
      BracketState.scan?_padded hb (Operand.scan?_of_spelled b)]
  | .step f op b, _, .step hf hop hb => by
    rw [BracketState.scan?_append, BracketState.scan?_append, Formula.scan?_of_spelled f hf,
      Option.bind_some, BracketState.scan?_operation hop, Option.bind_some,
      BracketState.scan?_padded hb (Operand.scan?_of_spelled b)]

end

/-- Two texts with an operation between them, each of which has empty brackets or ends outside. -/
theorem BracketState.scan?_operands {s t : List Char} (op : Operation) {p q : Prop} [Decidable p]
    [Decidable q] (hs : outside.scan? s = if p then none else some outside)
    (ht : outside.scan? t = if q then none else some outside) :
    outside.scan? (s ++ op.text ++ t) = if p ∨ q then none else some outside := by
  rw [scan?_append, scan?_append, hs]
  by_cases hp : p
  · rw [if_pos hp, if_pos (.inl hp)]
    rfl
  · rw [if_neg hp, Option.bind_some, scan?_operation op.padded_text, Option.bind_some, ht]
    simp only [hp, false_or]

mutual

theorem Operand.scan?_text : ∀ (a : Operand) {t : List Char}, Operand.Spelled t a →
    a.isFinite = true →
      outside.scan? a.text = if "" ∈ a.fields then none else some outside
  | .field _, _, @Operand.Spelled.bracketedField contents _ closed _, _ => by
    rw [Operand.text, String.toList_ofList]
    by_cases empty : Text.trim contents = []
    · rw [if_pos (Operand.empty_mem_fields_iff.mpr empty), empty]
      rfl
    · rw [if_neg (mt Operand.empty_mem_fields_iff.mp empty),
        BracketState.scan?_brackets empty (closed ∘ Text.mem_of_mem_trim)]
  | .number _, _, _, finite => BracketState.scan?_number (Binary64.spellsNumber_display finite)
  | .group f, _, .group hf, finite => by
    rw [Operand.text, BracketState.scan?_group, Formula.scan?_text f hf finite, Operand.fields]
    split <;> rfl

/-- **An empty name is displayed as empty brackets**, and nothing else is. -/
theorem Formula.scan?_text : ∀ (f : Formula) {t : List Char}, Formula.Spelled t f →
    f.isFinite = true → outside.scan? f.text = if "" ∈ f.fields then none else some outside
  | .pair a op b, _, .pair ha _ hb, finite => by
    obtain ⟨s, ha⟩ := ha.exists_spells
    obtain ⟨u, hb⟩ := hb.exists_spells
    rw [Formula.isFinite, Bool.and_eq_true] at finite
    simp only [Formula.fields, List.mem_append]
    exact BracketState.scan?_operands op (Operand.scan?_text a ha finite.1)
      (Operand.scan?_text b hb finite.2)
  | .step f op b, _, .step hf _ hb, finite => by
    obtain ⟨u, hb⟩ := hb.exists_spells
    rw [Formula.isFinite, Bool.and_eq_true] at finite
    simp only [Formula.fields, List.mem_append]
    exact BracketState.scan?_operands op (Formula.scan?_text f hf finite.1)
      (Operand.scan?_text b hb finite.2)

end

/-! ### Parsing the written form -/

theorem Formula.parse_eq_ok_iff_read? {source : String} {f : Formula} :
    Formula.parse source = .ok f ↔ Formula.read? source.toList = some f ∧ f.isFinite = true := by
  rw [Formula.parse]
  cases Formula.read? source.toList with
  | none => simp
  | some g =>
    dsimp only
    by_cases finite : g.isFinite = true
    · rw [if_pos finite, Except.ok.injEq, Option.some.injEq]
      exact ⟨fun h => ⟨h, h ▸ finite⟩, fun h => h.1⟩
    · rw [if_neg finite, Option.some.injEq]
      constructor
      · intro h
        cases h
      · rintro ⟨rfl, finite'⟩
        exact absurd finite' finite

/-- **A displayed formula reads back as itself**, unless one of its names is empty: then it is
displayed with empty brackets, and is malformed. -/
theorem Formula.parse_text {source : String} {f : Formula} (h : Formula.parse source = .ok f) :
    ("" ∉ f.fields → Formula.parse (String.ofList f.text) = .ok f) ∧
      ("" ∈ f.fields → Formula.parse (String.ofList f.text) =
        .error ⟨String.ofList f.text, .malformed⟩) := by
  obtain ⟨read, finite⟩ := parse_eq_ok_iff_read?.mp h
  have spelled := read?_eq_some_iff.mp read
  constructor
  · intro named
    rw [parse_eq_ok_iff_read?, String.toList_ofList]
    exact ⟨read?_eq_some_iff.mpr (f.spelled_text spelled finite named), finite⟩
  · intro empty
    have unread : Formula.read? f.text = none := by
      refine Option.eq_none_iff_forall_ne_some.mpr fun g hg => ?_
      have scanned := g.scan?_of_spelled (read?_eq_some_iff.mp hg)
      rw [f.scan?_text spelled finite, if_pos empty] at scanned
      cases scanned
    rw [Formula.parse, String.toList_ofList, unread]

/-- A number with a sign, and a name of blanks. -/
theorem Formula.parse_text_blank :
    (∃ f, Formula.parse "[ a]--1.50" = .ok f ∧ "" ∉ f.fields ∧ f.text = "[a] - -1.5".toList ∧
      Formula.parse "[a] - -1.5" = .ok f) ∧
    ∃ f, Formula.parse "[ ]+[a]" = .ok f ∧ "" ∈ f.fields ∧ f.text = "[] + [a]".toList ∧
      Formula.parse "[] + [a]" = .error ⟨"[] + [a]", .malformed⟩ := by
  have noNumber (x : Binary64) : ¬ SpellsBracketed (Text.trim "a".toList) x := by
    intro hx
    cases (spellsBracketed_iff.mp hx).1
  have field : Operand.Spelled "[a]".toList (.field "a") :=
    .bracketedField (by decide) (by decide) noNumber
  have padded : Operand.Spelled "[ a]".toList (.field "a") :=
    @Operand.Spelled.bracketedField [' ', 'a'] (by decide) (by decide) noNumber
  have blank : Operand.Spelled "[ ]".toList (.field "") :=
    @Operand.Spelled.bracketedField [' '] (by decide) (by decide) not_spellsBracketed_nil
  have amount : Operand.Spelled "-1.50".toList (.number (numberOfDigits true ['1'] ['5', '0'])) :=
    .number (@SpellsNumber.places true ['1'] ['5', '0'] ⟨by simp, by simp⟩ ⟨by simp, by simp⟩)
  constructor
  · have parsed : Formula.parse "[ a]--1.50" = .ok
        (.pair (.field "a") .sub (.number (numberOfDigits true ['1'] ['5', '0']))) :=
      parse_eq_ok_iff_read?.mpr ⟨read?_eq_some_iff.mpr
        (.pair (.of_spells padded) (.of_spells (.symbol .sub)) (.of_spells amount)), rfl⟩
    have named := (parse_text parsed).1 (by decide)
    have text : Formula.text (.pair (.field "a") .sub
        (.number (numberOfDigits true ['1'] ['5', '0']))) = "[a] - -1.5".toList := by
      decide +kernel
    rw [text, String.ofList_toList] at named
    exact ⟨_, parsed, by decide, text, named⟩
  · have parsed : Formula.parse "[ ]+[a]" = .ok (.pair (.field "") .add (.field "a")) :=
      parse_eq_ok_iff_read?.mpr ⟨read?_eq_some_iff.mpr
        (.pair (.of_spells blank) (.of_spells (.symbol .add)) (.of_spells field)), rfl⟩
    exact ⟨_, parsed, by decide, rfl, (parse_text parsed).2 (by decide)⟩

end StarSchema
