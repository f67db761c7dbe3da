import StarSchema.Proofs.Text.Trimmed
import StarSchema.Proofs.Value.Integer
import StarSchema.Value.Format

/-!
# Integers are read as they are shown

An integer is shown with a comma before every group of three digits, counted from the end. The
groups are formed from the front, where the count of the digits that are still to come tells whether
a group is complete; so the first group is what the others leave, one to three digits.

To a reader of numerals the commas are decoration, and what is left without them is the sign and the
digits of the integer.

Main definitions: `GroupedDigits`, `Numeral.IsShortest`.

Main results: `exists_groupedDigits`, `GroupedDigits.decorated_text`, `shown_integers_read_back`.
-/

namespace StarSchema

open Binary64 (signText)

/-! ### Groups of three -/

/-- Digits in groups of three, but for a first group of one to three. -/
structure GroupedDigits where
  first : List Char
  groups : List (List Char)
  first_ne : first ≠ []
  length_first_le : first.length ≤ 3
  length_groups : ∀ g ∈ groups, g.length = 3
  isDigit : ∀ c ∈ first ++ groups.flatten, c.isDigit = true

namespace GroupedDigits

def digits (g : GroupedDigits) : List Char :=
  g.first ++ g.groups.flatten

/-- The groups with a comma between any two. -/
def text (g : GroupedDigits) : List Char :=
  g.first ++ g.groups.flatMap (',' :: ·)

theorem length_digits (g : GroupedDigits) :
    g.digits.length = g.first.length + 3 * g.groups.length := by
  have lengths : g.groups.map List.length = List.replicate g.groups.length 3 :=
    List.eq_replicate_iff.mpr ⟨List.length_map _, List.forall_mem_map.mpr g.length_groups⟩
  rw [digits, List.length_append, List.length_flatten, lengths, List.sum_replicate_nat,
    Nat.mul_comm]

theorem isDigit_or_of_mem_text {g : GroupedDigits} {c : Char} (h : c ∈ g.text) :
    c.isDigit = true ∨ c = ',' := by
  simp only [text, List.mem_append, List.mem_flatMap, List.mem_cons] at h
  rcases h with first | ⟨group, mem, rfl | other⟩
  · exact .inl (g.isDigit c (List.mem_append_left _ first))
  · exact .inr rfl
  · exact .inl (g.isDigit c (List.mem_append_right _ (List.mem_flatten_of_mem mem other)))

theorem space_notMem_text (g : GroupedDigits) : ' ' ∉ g.text := by
  intro space
  rcases isDigit_or_of_mem_text space with digit | comma
  · cases digit
  · cases comma

end GroupedDigits

/-- **Digits are grouped by three from the end.** -/
theorem exists_groupedDigits {ds : List Char} (nonempty : ds ≠ [])
    (isDigit : ∀ c ∈ ds, c.isDigit = true) :
    ∃ g : GroupedDigits, g.digits = ds ∧ g.text = groupThousands ds := by
  induction ds with
  | nil => exact absurd rfl nonempty
  | cons c rest ih =>
    rw [List.forall_mem_cons] at isDigit
    rw [groupThousands]
    by_cases last : rest = []
    · subst last
      exact ⟨⟨[c], [], List.cons_ne_nil _ _, Nat.le_add_left 1 2, List.forall_mem_nil _,
        List.forall_mem_singleton.mpr isDigit.1⟩, rfl, rfl⟩
    · obtain ⟨g, rfl, text⟩ := ih last isDigit.2
      have length := g.length_digits
      have short := g.length_first_le
      have positive := List.length_pos_iff.mpr g.first_ne
      have digits : ∀ d ∈ c :: (g.first ++ g.groups.flatten), d.isDigit = true :=
        List.forall_mem_cons.mpr isDigit
      rw [← text, List.isEmpty_eq_false_iff.mpr last]
      by_cases complete : g.digits.length % 3 = 0
      · -- the first group has three digits, so that a new one begins
        have full : ∀ group ∈ g.first :: g.groups, group.length = 3 :=
          List.forall_mem_cons.mpr ⟨by omega, g.length_groups⟩
        refine ⟨⟨[c], g.first :: g.groups, List.cons_ne_nil _ _, Nat.le_add_left 1 2, full, digits⟩,
          rfl, ?_⟩
        simp [GroupedDigits.text, complete]
      · have room : (c :: g.first).length ≤ 3 := by
          rw [List.length_cons]
          omega
        refine ⟨⟨c :: g.first, g.groups, List.cons_ne_nil _ _, room, g.length_groups, digits⟩,
          rfl, ?_⟩
        simp [GroupedDigits.text, complete]

theorem Decorated.append {s t s' t' : List Char} (h : Decorated s t) (h' : Decorated s' t') :
    Decorated (s ++ s') (t ++ t') := by
  induction h with
  | nil => exact h'
  | keep c _ ih => exact .keep c ih
  | insert decoration _ ih => exact .insert decoration ih

/-- The commas between groups are decoration. -/
theorem GroupedDigits.decorated_text (g : GroupedDigits) : Decorated g.text g.digits := by
  have commas (gs : List (List Char)) : Decorated (gs.flatMap (',' :: ·)) gs.flatten := by
    induction gs with
    | nil => exact .nil
    | cons g gs ih => exact .insert (.inl rfl) ((Decorated.refl g).append ih)
  exact (Decorated.refl g.first).append (commas g.groups)

/-- Decoration without spaces brings no blanks. -/
theorem Decorated.isBlank_eq_false {s t : List Char} (h : Decorated s t)
    (plain : ∀ c ∈ t, Text.isBlank c = false) (closed : ' ' ∉ s) :
    ∀ c ∈ s, Text.isBlank c = false := by
  intro c hc
  rcases h.mem_or_of_mem hc with mem | rfl | rfl | rfl
  · exact plain c mem
  · rfl
  · rfl
  · exact absurd hc closed

theorem Amount.isBlank_eq_false_of_mem {a : Amount} {c : Char}
    (hc : c ∈ signText a.negative ++ a.number.text) : Text.isBlank c = false := by
  rcases List.mem_append.mp hc with sign | digit
  · rw [signText] at sign
    split at sign
    · obtain rfl := List.mem_singleton.mp sign
      rfl
    · cases sign
  · rcases Amount.isDigit_or_of_mem_text digit with digit | rfl
    · exact Text.isBlank_of_isDigit digit
    · rfl

theorem Amount.IsWrittenAs.of_decorated {a : Amount} {s : String}
    (h : Decorated s.toList (signText a.negative ++ a.number.text)) (closed : ' ' ∉ s.toList) :
    a.IsWrittenAs s := by
  refine .signed ?_
  rwa [Text.trim_eq_self (h.isBlank_eq_false (fun _ => Amount.isBlank_eq_false_of_mem) closed)]

/-! ### Digits of a number -/

/-- The digits denote the number, and none of them can be left out. -/
structure Numeral.IsShortest (n : Nat) (ds : List Char) : Prop where
  value : Numeral.natOfDigits ds = n
  noZero : ds = ['0'] ∨ ds.head? ≠ some '0'

theorem Numeral.head?_digitsOfNat {n : Nat} (positive : 0 < n) :
    (digitsOfNat n).head? ≠ some '0' := by
  induction n using Nat.strongRecOn with
  | ind n ih =>
    by_cases single : n < 10
    · rw [digitsOfNat, Nat.toDigits_of_lt_base single, List.head?_singleton, ne_eq,
        Option.some_inj, Nat.digitChar_eq_zero]
      exact positive.ne'
    · have last : digitsOfNat n = digitsOfNat (n / 10) ++ [(n % 10).digitChar] :=
        Nat.toDigits_of_base_le (by decide) (not_lt.mp single)
      rw [last, List.head?_append_of_ne_nil _ (digitsOfNat_ne_nil _)]
      exact ih _ (by omega) (by omega)

theorem Numeral.isShortest_digitsOfNat (n : Nat) : IsShortest n (digitsOfNat n) := by
  refine ⟨natOfDigits_digitsOfNat n, ?_⟩
  rcases Nat.eq_zero_or_pos n with rfl | positive
  · exact .inl rfl
  · exact .inr (head?_digitsOfNat positive)

/-! ### Integers -/

/-- An integer as an amount. -/
def Amount.ofInt (n : Int) : Amount where
  negative := n < 0
  number := ⟨Numeral.digitsOfNat n.natAbs, none, none, Numeral.digitsOfNat_ne_nil _, by
    simpa using fun c => Numeral.isDigit_of_mem_digitsOfNat⟩
  power?_eq := rfl

theorem toList_groupedInt (n : Int) :
    (groupedInt n).toList = signText (n < 0) ++ groupThousands (Numeral.digitsOfNat n.natAbs) := by
  rw [groupedInt, String.toList_ofList, signText]
  by_cases negative : n < 0
  · rw [if_pos negative, decide_eq_true negative]
    rfl
  · rw [if_neg negative, decide_eq_false negative]
    rfl

theorem Amount.text_ofInt (n : Int) :
    (Amount.ofInt n).number.text = Numeral.digitsOfNat n.natAbs := by
  rw [Amount.text_eq]
  exact List.append_nil _

theorem Amount.isWrittenAs_groupedInt (n : Int) : (Amount.ofInt n).IsWrittenAs (groupedInt n) := by
  obtain ⟨g, digits, grouped⟩ := exists_groupedDigits (Numeral.digitsOfNat_ne_nil n.natAbs)
    fun c => Numeral.isDigit_of_mem_digitsOfNat
  refine .of_decorated ?_ ?_
  · rw [toList_groupedInt, Amount.text_ofInt, ← grouped, ← digits]
    exact (Decorated.refl _).append g.decorated_text
  · rw [toList_groupedInt, ← grouped, List.mem_append, signText]
    rintro (sign | digit)
    · split at sign <;> simp at sign
    · exact g.space_notMem_text digit

theorem Amount.isWrittenAs_ofInt (n : Int) :
    (Amount.ofInt n).IsWrittenAs (String.ofList (Numeral.ofInt n)) := by
  have text : signText (n < 0) ++ Numeral.digitsOfNat n.natAbs = Numeral.ofInt n :=
    Binary64.Decimal.signText_append_digitText n
  refine .of_decorated ?_ ?_
  · rw [String.toList_ofList, Amount.text_ofInt, ← text]
    exact .refl _
  · rw [String.toList_ofList, ← text, List.mem_append, signText]
    rintro (sign | digit)
    · split at sign <;> simp at sign
    · cases Numeral.isDigit_of_mem_digitsOfNat digit

/-- However an integer is written, it is read as it was. -/
theorem Amount.convert_ofInt {n : Int64} {s : String}
    (written : (Amount.ofInt n.toInt).IsWrittenAs s) :
    convert .int (.str s) = .ok (some (.int n)) := by
  have read : Numeral.integer? (signText (Amount.ofInt n.toInt).negative ++
      (Amount.ofInt n.toInt).number.text) = some n := by
    rw [Amount.text_ofInt]
    exact (congrArg _ (Binary64.Decimal.signText_append_digitText _)).trans
      (Numeral.integer?_ofInt n)
  rw [Input.convert_int_of_toInt rfl (Amount.isBlank_eq_false written), Amount.toInt_eq written,
    read]
  rfl

theorem convert_groupedInt (n : Int64) :
    convert .int (.str (groupedInt n.toInt)) = .ok (some (.int n)) :=
  Amount.convert_ofInt (Amount.isWrittenAs_groupedInt n.toInt)

/-- **Integers are read back as they are shown.** Each integer is the value of an input, and for
every input that it is the value of, the text is a minus sign if it is below zero and then the
digits of its magnitude, as few as can be, in groups of three. The text is converted to the same
integer. -/
theorem shown_integers_read_back (n : Int64) :
    (∃ input, convert .int input = .ok (some (.int n))) ∧
    ∀ input, convert .int input = .ok (some (.int n)) →
      ∃ (text : String) (g : GroupedDigits),
        format .int input (some .int) = .ok (some text) ∧
        text.toList = signText (n.toInt < 0) ++ g.text ∧
        Numeral.IsShortest n.toInt.natAbs g.digits ∧
        convert .int (.str text) = .ok (some (.int n)) := by
  refine ⟨⟨_, convert_groupedInt n⟩, fun input h => ?_⟩
  obtain ⟨g, digits, grouped⟩ := exists_groupedDigits (Numeral.digitsOfNat_ne_nil n.toInt.natAbs)
    fun c => Numeral.isDigit_of_mem_digitsOfNat
  refine ⟨groupedInt n.toInt, g, ?_, ?_, ?_, convert_groupedInt n⟩
  · rw [format, h]
    rfl
  · rw [toList_groupedInt, grouped]
  · rw [digits]
    exact Numeral.isShortest_digitsOfNat _

/-- The least integer, whose magnitude is no integer of 64 bits. -/
theorem shown_integers_read_back_least :
    convert .int (.str "(9,223,372,036,854,775,808)") = .ok (some (.int Int64.minValue)) ∧
    ∃ (text : String) (g : GroupedDigits),
      format .int (.str "(9,223,372,036,854,775,808)") (some .int) = .ok (some text) ∧
      text = "-9,223,372,036,854,775,808" ∧ text.toList = '-' :: g.text ∧
      convert .int (.str text) = .ok (some (.int Int64.minValue)) := by
  have h : convert .int (.str "(9,223,372,036,854,775,808)") =
      .ok (some (.int Int64.minValue)) := by decide +kernel
  obtain ⟨-, shown⟩ := shown_integers_read_back Int64.minValue
  obtain ⟨text, g, formatted, spelled, -, back⟩ := shown _ h
  have same : text = "-9,223,372,036,854,775,808" := by
    have computed : format .int (.str "(9,223,372,036,854,775,808)") (some .int) =
        .ok (some "-9,223,372,036,854,775,808") := by decide +kernel
    rw [formatted] at computed
    exact Option.some.inj (Except.ok.inj computed)
  exact ⟨h, text, g, formatted, same, spelled, back⟩

end StarSchema
