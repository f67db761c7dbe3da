import Mathlib.Algebra.Group.Nat.Defs
import StarSchema.Text.Blank
import StarSchema.Text.Numeral

/-!
# Digits and numerals

What the readers of numerals do with the digits that the writers print.

Main results: `natOfDigits_digitsOfNat`, `natOfDigits_append`, `padded_natOfDigits`,
`splitSign_ofInt`.
-/

namespace StarSchema

variable {p : Char → Bool} {s rest : List Char}

/-- The characters up to one that stops them. -/
theorem takeWhile_append_of_stops (hs : ∀ c ∈ s, p c = true)
    (stops : ∀ c, rest.head? = some c → p c = false) : (s ++ rest).takeWhile p = s := by
  rw [List.takeWhile_append_of_pos hs]
  cases rest with
  | nil => simp
  | cons c rest => rw [List.takeWhile_cons_of_neg (by simp [stops c rfl]), List.append_nil]

theorem dropWhile_append_of_stops (hs : ∀ c ∈ s, p c = true)
    (stops : ∀ c, rest.head? = some c → p c = false) : (s ++ rest).dropWhile p = rest := by
  rw [List.dropWhile_append_of_pos hs]
  cases rest with
  | nil => rfl
  | cons c rest => rw [List.dropWhile_cons_of_neg (by simp [stops c rfl])]

/-- A text is its longest start of a kind of character, and what follows that. -/
theorem exists_span (p : Char → Bool) (s : List Char) :
    ∃ t rest, s = t ++ rest ∧ s.takeWhile p = t ∧ s.dropWhile p = rest ∧
      (∀ c ∈ t, p c = true) ∧ ∀ c, rest.head? = some c → p c = false := by
  refine ⟨s.takeWhile p, s.dropWhile p, List.takeWhile_append_dropWhile.symm, rfl, rfl, ?_, ?_⟩
  · exact List.all_eq_true.mp List.all_takeWhile
  · intro c hc
    have stops := List.head?_dropWhile_not p s
    rwa [hc] at stops

theorem isDigit_of_isBlank {c : Char} (h : Text.isBlank c = true) : c.isDigit = false := by
  refine Bool.eq_false_iff.mpr fun digit => ?_
  obtain ⟨low, high⟩ := Char.isDigit_iff_toNat.mp digit
  change 48 ≤ c.toNat at low
  change c.toNat ≤ 57 at high
  simp only [Text.isBlank, Bool.or_eq_true, Bool.and_eq_true, decide_eq_true_eq, beq_iff_eq] at h
  omega

theorem Text.isBlank_of_isDigit {c : Char} (h : c.isDigit = true) : isBlank c = false := by
  refine Bool.eq_false_iff.mpr fun blank => ?_
  rw [isDigit_of_isBlank blank] at h
  cases h

namespace Numeral

theorem natOfDigits_digitsOfNat (n : Nat) : natOfDigits (digitsOfNat n) = n :=
  Nat.ofDigitChars_ten_toDigits

theorem natOfDigits_append (s t : List Char) :
    natOfDigits (s ++ t) = 10 ^ t.length * natOfDigits s + natOfDigits t := by
  rw [natOfDigits, List.foldl_append]
  exact Nat.ofDigitChars_eq_ofDigitChars_zero

theorem natOfDigits_replicate_zero (n : Nat) : natOfDigits (List.replicate n '0') = 0 := by
  have h : natOfDigits (List.replicate n '0') = 10 ^ n * 0 := Nat.ofDigitChars_replicate_zero
  rw [h, Nat.mul_zero]

theorem isDigit_of_mem_digitsOfNat {n : Nat} {c : Char} (h : c ∈ digitsOfNat n) :
    c.isDigit = true :=
  Nat.isDigit_of_mem_toDigits (by decide) (by decide) h

theorem digitsOfNat_ne_nil (n : Nat) : digitsOfNat n ≠ [] :=
  Nat.toDigits_ne_nil

theorem all_isDigit_digitsOfNat (n : Nat) :
    (digitsOfNat n).isEmpty = false ∧ (digitsOfNat n).all Char.isDigit = true :=
  ⟨List.isEmpty_eq_false_iff.mpr (digitsOfNat_ne_nil n),
    List.all_eq_true.mpr fun _ => isDigit_of_mem_digitsOfNat⟩

/-! ### Digits of one length -/

theorem digitValue_lt {c : Char} (h : c.isDigit = true) : digitValue c < 10 := by
  obtain ⟨-, high⟩ := Char.isDigit_iff_toNat.mp h
  change c.toNat ≤ 57 at high
  show c.toNat - 48 < 10
  omega

theorem digitValue_inj {c d : Char} (hc : c.isDigit = true) (hd : d.isDigit = true)
    (h : digitValue c = digitValue d) : c = d := by
  obtain ⟨low, -⟩ := Char.isDigit_iff_toNat.mp hc
  obtain ⟨low', -⟩ := Char.isDigit_iff_toNat.mp hd
  change 48 ≤ c.toNat at low
  change 48 ≤ d.toNat at low'
  change c.toNat - 48 = d.toNat - 48 at h
  rw [← Char.toNat_inj]
  omega

theorem natOfDigits_cons (c : Char) (s : List Char) :
    natOfDigits (c :: s) = 10 ^ s.length * digitValue c + natOfDigits s := by
  simpa [natOfDigits] using natOfDigits_append [c] s

theorem natOfDigits_lt (hs : ∀ c ∈ s, c.isDigit = true) : natOfDigits s < 10 ^ s.length := by
  induction s with
  | nil => decide
  | cons c s ih =>
    rw [List.forall_mem_cons] at hs
    have first := Nat.mul_le_mul_left (10 ^ s.length) (digitValue_lt hs.1)
    have others := ih hs.2
    rw [natOfDigits_cons, List.length_cons, Nat.pow_succ]
    rw [Nat.mul_succ] at first
    omega

/-- Two texts of as many digits that denote the same number are the same. -/
theorem natOfDigits_inj {t : List Char} (length : s.length = t.length)
    (hs : ∀ c ∈ s, c.isDigit = true) (ht : ∀ c ∈ t, c.isDigit = true)
    (h : natOfDigits s = natOfDigits t) : s = t := by
  induction s generalizing t with
  | nil => exact (List.length_eq_zero_iff.mp length.symm).symm
  | cons c s ih =>
    cases t with
    | nil => cases length
    | cons d t =>
      have same : s.length = t.length := Nat.succ.inj length
      rw [List.forall_mem_cons] at hs ht
      have low := natOfDigits_lt hs.2
      have low' := natOfDigits_lt ht.2
      rw [natOfDigits_cons, natOfDigits_cons, same] at h
      rw [same] at low
      have positive : 0 < 10 ^ t.length := Nat.pow_pos (by decide)
      have first : digitValue c = digitValue d := by
        have quotient := congrArg (· / 10 ^ t.length) h
        simpa [Nat.mul_add_div positive, Nat.div_eq_of_lt low, Nat.div_eq_of_lt low'] using quotient
      rw [first] at h
      rw [digitValue_inj hs.1 ht.1 first, ih same hs.2 ht.2 (Nat.add_left_cancel h)]

theorem length_padded {width n : Nat} (positive : 0 < width) (h : n < 10 ^ width) :
    (padded width n).length = width := by
  have short := (Nat.length_toDigits_le_iff (by decide) positive).mpr h
  change (digitsOfNat n).length ≤ width at short
  simp only [padded, List.length_append, List.length_replicate]
  omega

theorem isDigit_of_mem_padded {width n : Nat} {c : Char} (h : c ∈ padded width n) :
    c.isDigit = true := by
  rcases List.mem_append.mp h with h | h
  · obtain ⟨-, rfl⟩ := List.mem_replicate.mp h
    rfl
  · exact isDigit_of_mem_digitsOfNat h

theorem natOfDigits_padded (width n : Nat) : natOfDigits (padded width n) = n := by
  rw [padded, natOfDigits_append, natOfDigits_replicate_zero, natOfDigits_digitsOfNat, Nat.mul_zero,
    Nat.zero_add]

/-- The digits of a number, with zeros in front to a given length, are all texts of digits of that
length. -/
theorem padded_natOfDigits (nonempty : s ≠ []) (hs : ∀ c ∈ s, c.isDigit = true) :
    padded s.length (natOfDigits s) = s :=
  natOfDigits_inj (length_padded (List.length_pos_iff.mpr nonempty) (natOfDigits_lt hs))
    (fun _ => isDigit_of_mem_padded) hs (natOfDigits_padded _ _)

/-! ### Readers -/

theorem spanDigits_append (hs : ∀ c ∈ s, c.isDigit = true)
    (stops : ∀ c, rest.head? = some c → c.isDigit = false) :
    spanDigits (s ++ rest) = (s, rest) := by
  rw [spanDigits, takeWhile_append_of_stops hs stops, dropWhile_append_of_stops hs stops]

/-- A text that starts with a digit has no sign. -/
theorem splitSign_of_isDigit {c : Char} (hc : c.isDigit = true) (s : List Char) :
    splitSign (c :: s) = (false, c :: s) := by
  unfold splitSign
  split <;> simp_all

/-- The sign and the digits of a printed integer. -/
theorem splitSign_ofInt (n : Int) :
    splitSign (ofInt n) = (decide (n < 0), digitsOfNat n.natAbs) := by
  unfold ofInt
  by_cases h : n < 0
  · rw [if_pos h, decide_eq_true h]
    rfl
  · obtain ⟨c, s, digits⟩ := List.exists_cons_of_ne_nil (digitsOfNat_ne_nil n.natAbs)
    have hc : c.isDigit = true := isDigit_of_mem_digitsOfNat (digits ▸ List.mem_cons_self)
    rw [if_neg h, decide_eq_false h, digits, splitSign_of_isDigit hc]

/-- A printed power of ten is read as it was. -/
theorem powerOfTen?_ofInt (n : Int) : powerOfTen? ('e' :: ofInt n) = some n := by
  rw [powerOfTen?, if_pos (.inl rfl), splitSign_ofInt]
  simp only [all_isDigit_digitsOfNat, Bool.not_true, Bool.or_self, Bool.false_eq_true, if_false,
    decide_eq_true_eq, natOfDigits_digitsOfNat, Option.some.injEq]
  split <;> omega

/-- A printed integer is read as it was. -/
theorem integer?_ofInt (n : Int64) : integer? (ofInt n.toInt) = some n := by
  have low : minInt64 ≤ n.toInt := Int64.minValue_le_toInt n
  have high : n.toInt ≤ maxInt64 := Int64.toInt_le n
  have value : (if decide (n.toInt < 0) = true then -(n.toInt.natAbs : Int) else n.toInt.natAbs) =
      n.toInt := by
    simp only [decide_eq_true_eq]
    split <;> omega
  rw [integer?, splitSign_ofInt]
  simp only [all_isDigit_digitsOfNat, natOfDigits_digitsOfNat, value, low, high, Bool.not_true,
    Bool.or_self, Bool.false_eq_true, if_false, and_self, if_true, Int64.ofInt_toInt]

/-- A text with more than digits after its sign is no integer. -/
theorem integer?_eq_none {s digits : List Char} {negative : Bool}
    (split : splitSign s = (negative, digits)) {c : Char} (hc : c ∈ digits)
    (other : c.isDigit = false) : integer? s = none := by
  have mixed : digits.all Char.isDigit = false :=
    List.all_eq_false.mpr ⟨c, hc, Bool.eq_false_iff.mp other⟩
  rw [integer?, split]
  simp only [mixed, Bool.not_false, Bool.or_true, if_true]

end Numeral

end StarSchema
