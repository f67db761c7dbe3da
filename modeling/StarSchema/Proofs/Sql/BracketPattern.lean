import StarSchema.Proofs.Sql.Like

/-!
# Patterns with brackets

T-SQL has one more wildcard than the other dialects, and one rule less. A bracket opens a set that
matches one character, and the escape character may stand before any character. The patterns
written here escape no brackets, so a text that holds one is not matched literally.

## The rules

A set lists its characters up to the closing bracket, singly or as ranges `a-z`; with `^` in front
it matches the characters that it does not list. Which characters lie in a range depends on the
collation, so their order is a parameter. A bracket that no other one closes leaves the pattern
without a meaning, and so does an escape character at its end.

## The argument

A set takes at least two characters of the pattern, and matches one. So where a text with a bracket
has a pattern that anything matches, something shorter than the text matches it.

Main definitions: `PatternMark`, `BracketItem`, `BracketItem.read?`, `BracketItem.accepts`.

Main results: `BracketItem.read?_likePattern`, `BracketItem.exists_shorter`,
`BracketItem.literal_iff`.
-/

namespace StarSchema.Sql

/-! ### Escapes -/

/-- A character of a pattern, once the escape characters are read. -/
structure PatternMark where
  char : Char
  escaped : Bool
deriving DecidableEq

namespace PatternMark

/-- The characters of a pattern, each with whether it is escaped. -/
def read? (escape : Char) : List Char → Option (List PatternMark)
  | [] => some []
  | [c] => if c = escape then none else some [⟨c, false⟩]
  | c :: x :: s =>
    if c = escape then (read? escape s).map (⟨x, true⟩ :: ·)
    else (read? escape (x :: s)).map (⟨c, false⟩ :: ·)

def opening : PatternMark := ⟨'[', false⟩

def closing : PatternMark := ⟨']', false⟩

def wild : PatternMark := ⟨'%', false⟩

/-- What a character stands for outside of sets. -/
def item (m : PatternMark) : PatternItem :=
  if m.escaped then .char m.char else .ofChar m.char

/-- Whether a character is listed, singly or in a range. -/
def lists (order : Char → Char → Bool) : List PatternMark → Char → Bool
  | [], _ => false
  | low :: ⟨'-', false⟩ :: high :: ms, c =>
    order low.char c && order c high.char || lists order ms c
  | m :: ms, c => m.char == c || lists order ms c

/-- Whether a set with the given contents matches a character. -/
def matchesOne (order : Char → Char → Bool) : List PatternMark → Char → Bool
  | ⟨'^', false⟩ :: ms, c => !lists order ms c
  | ms, c => lists order ms c

end PatternMark

/-! ### Items -/

/-- What a pattern with brackets is made of. -/
inductive BracketItem where
  | plain (item : PatternItem)
  /-- A set, by what stands between its brackets. -/
  | set (contents : List PatternMark)
deriving DecidableEq

namespace BracketItem

open PatternMark (opening closing wild)

/-- The items of a pattern, if each set is closed. The first argument is what has been read of a
set, inside of one. -/
def ofMarks? : Option (List PatternMark) → List PatternMark → Option (List BracketItem)
  | none, [] => some []
  | some _, [] => none
  | none, m :: ms =>
    if m = opening then ofMarks? (some []) ms else (ofMarks? none ms).map (.plain m.item :: ·)
  | some contents, m :: ms =>
    if m = closing then (ofMarks? none ms).map (.set contents :: ·)
    else ofMarks? (some (contents ++ [m])) ms

/-- The items of a pattern, if it is well formed. -/
def read? (escape : Char) (s : List Char) : Option (List BracketItem) :=
  (PatternMark.read? escape s).bind (ofMarks? none)

/-- Whether an item for one character matches it. -/
def matchesOne (order : Char → Char → Bool) : BracketItem → Char → Bool
  | .plain .anyText, _ => false
  | .plain .anyChar, _ => true
  | .plain (.char c), a => a == c
  | .set contents, a => PatternMark.matchesOne order contents a

/-- Whether a text matches a pattern. -/
def accepts (order : Char → Char → Bool) : List BracketItem → List Char → Bool
  | [], x => x.isEmpty
  | item :: items, x =>
    if item = .plain .anyText then x.tails.any (accepts order items)
    else x.head?.any (item.matchesOne order) && accepts order items x.tail

/-! ### Texts without brackets -/

variable {order : Char → Char → Bool}

theorem accepts_anyText (items : List BracketItem) (x : List Char) :
    accepts order (.plain .anyText :: items) x = x.tails.any (accepts order items) := by
  rw [accepts, if_pos rfl]

theorem accepts_cons_iff {item : BracketItem} (one : item ≠ .plain .anyText)
    {items : List BracketItem} {x : List Char} :
    accepts order (item :: items) x = true ↔
      ∃ a y, x = a :: y ∧ item.matchesOne order a = true ∧ accepts order items y = true := by
  rw [accepts, if_neg one]
  cases x with
  | nil => simp
  | cons a y =>
    rw [List.head?_cons, Option.any_some, List.tail_cons, Bool.and_eq_true]
    constructor
    · rintro ⟨matched, rest⟩
      exact ⟨a, y, rfl, matched, rest⟩
    · rintro ⟨b, z, same, matched, rest⟩
      cases same
      exact ⟨matched, rest⟩

/-- Without sets, patterns match as they do elsewhere. -/
theorem accepts_map_plain (items : List PatternItem) :
    accepts order (items.map .plain) = PatternItem.accepts items := by
  funext x
  induction items generalizing x with
  | nil => rfl
  | cons item items ih =>
    rw [List.map_cons]
    cases item with
    | anyText => rw [accepts_anyText, PatternItem.accepts, funext ih]
    | anyChar => cases x <;> simp [accepts, matchesOne, PatternItem.accepts, ih]
    | char c => cases x <;> simp [accepts, matchesOne, PatternItem.accepts, ih]

theorem ofMarks?_of_opening_notMem {ms : List PatternMark} (h : opening ∉ ms) :
    ofMarks? none ms = some ((ms.map PatternMark.item).map .plain) := by
  induction ms with
  | nil => rfl
  | cons m ms ih =>
    rw [List.mem_cons, not_or] at h
    rw [ofMarks?, if_neg (Ne.symm h.1), ih h.2]
    rfl

end BracketItem

/-! ### The patterns that are written -/

namespace PatternMark

/-- A character as it is written, escaped if it is one of those that the patterns escape. -/
def literal (c : Char) : PatternMark :=
  ⟨c, c = '%' ∨ c = '_' ∨ c = likeEscape⟩

/-- The wildcard for any text, where it is wanted. -/
def anyMark (wanted : Bool) : List PatternMark :=
  if wanted then [wild] else []

/-- The marks of a text with any text before it and after it where that is allowed. -/
def likeMarks (anyBefore anyAfter : Bool) (s : List Char) : List PatternMark :=
  anyMark anyBefore ++ (s.map literal ++ anyMark anyAfter)

theorem read?_cons {c escape : Char} (h : c ≠ escape) (s : List Char) :
    read? escape (c :: s) = (read? escape s).map (⟨c, false⟩ :: ·) := by
  cases s with
  | nil => simp [read?, h]
  | cons x s => rw [read?, if_neg h]

theorem read?_escapeLike_append (s rest : List Char) :
    read? likeEscape (escapeLike s ++ rest) =
      (read? likeEscape rest).map (s.map literal ++ ·) := by
  induction s with
  | nil => simp [escapeLike]
  | cons c s ih =>
    have go_on (marks : Option (List PatternMark)) :
        (marks.map (s.map literal ++ ·)).map (literal c :: ·) =
          marks.map ((c :: s).map literal ++ ·) := by
      rw [Option.map_map]
      rfl
    rw [escapeLike]
    by_cases special : c = '%' ∨ c = '_' ∨ c = likeEscape
    · have escaped : literal c = ⟨c, true⟩ := by simp [literal, special]
      rw [if_pos special, List.cons_append, List.cons_append, read?, if_pos rfl, ih, ← escaped,
        go_on]
    · have plain : literal c = ⟨c, false⟩ := by simp [literal, special]
      rw [if_neg special, List.cons_append, read?_cons fun h => special (.inr (.inr h)), ih,
        ← plain, go_on]

theorem read?_likePattern (anyBefore anyAfter : Bool) (s : List Char) :
    read? likeEscape (likePattern anyBefore anyAfter s) =
      some (likeMarks anyBefore anyAfter s) := by
  have after : read? likeEscape (anyText anyAfter) = some (anyMark anyAfter) := by
    cases anyAfter <;> rfl
  have tail := read?_escapeLike_append s (anyText anyAfter)
  rw [after, Option.map_some] at tail
  rw [likePattern, List.append_assoc]
  cases anyBefore with
  | false => exact tail
  | true =>
    have first := read?_cons (by decide : '%' ≠ likeEscape) (escapeLike s ++ anyText anyAfter)
    rw [tail] at first
    exact first

theorem item_literal (c : Char) : (literal c).item = .char c := by
  by_cases special : c = '%' ∨ c = '_' ∨ c = likeEscape
  · simp [literal, item, special]
  · have notAny : c ≠ '%' := fun h => special (.inl h)
    have notOne : c ≠ '_' := fun h => special (.inr (.inl h))
    simp [literal, item, PatternItem.ofChar, notAny, notOne]

theorem map_item_likeMarks (anyBefore anyAfter : Bool) (s : List Char) :
    (likeMarks anyBefore anyAfter s).map item = PatternItem.likeItems anyBefore anyAfter s := by
  have any (wanted : Bool) : (anyMark wanted).map item = PatternItem.anyItem wanted := by
    cases wanted <;> rfl
  have literals : item ∘ literal = .char := funext item_literal
  rw [likeMarks, PatternItem.likeItems, List.map_append, List.map_append, List.map_map, any, any,
    literals]

/-- Brackets of the text are not escaped. -/
theorem literal_eq_opening_iff {c : Char} : literal c = opening ↔ c = '[' := by
  constructor
  · intro h
    exact congrArg char h
  · rintro rfl
    rfl

theorem opening_mem_likeMarks_iff {anyBefore anyAfter : Bool} {s : List Char} :
    opening ∈ likeMarks anyBefore anyAfter s ↔ '[' ∈ s := by
  have any (wanted : Bool) : opening ∉ anyMark wanted := by
    cases wanted <;> decide
  simp [likeMarks, any, literal_eq_opening_iff]

/-- How many characters stand for something other than any text. -/
def weight (ms : List PatternMark) : Nat :=
  ms.countP (· ≠ wild)

theorem weight_cons_of_ne {m : PatternMark} (h : m ≠ wild) (ms : List PatternMark) :
    weight (m :: ms) = weight ms + 1 :=
  List.countP_cons_of_pos (decide_eq_true h)

theorem weight_le_cons (m : PatternMark) (ms : List PatternMark) :
    weight ms ≤ weight (m :: ms) :=
  (List.sublist_cons_self m ms).countP_le

theorem weight_likeMarks (anyBefore anyAfter : Bool) (s : List Char) :
    weight (likeMarks anyBefore anyAfter s) = s.length := by
  have any (wanted : Bool) : weight (anyMark wanted) = 0 := by
    cases wanted <;> rfl
  have single (c : Char) : literal c ≠ wild := by
    intro h
    obtain rfl : c = '%' := congrArg char h
    cases h
  have literals : weight (s.map literal) = s.length := by
    rw [weight, List.countP_map, List.countP_eq_length]
    intro c _
    exact decide_eq_true (single c)
  simp only [weight, likeMarks, List.countP_append] at any literals ⊢
  rw [any, any, literals, Nat.zero_add, Nat.add_zero]

end PatternMark

namespace BracketItem

open PatternMark (weight likeMarks)

variable {anyBefore anyAfter : Bool} {s x : List Char} {items : List BracketItem}

theorem read?_likePattern_eq (anyBefore anyAfter : Bool) (s : List Char) :
    read? likeEscape (likePattern anyBefore anyAfter s) =
      ofMarks? none (likeMarks anyBefore anyAfter s) := by
  rw [read?, PatternMark.read?_likePattern, Option.bind_some]

/-- **The pattern of a text without brackets** is the one that the other dialects read. -/
theorem read?_likePattern (h : '[' ∉ s) :
    read? likeEscape (likePattern anyBefore anyAfter s) =
      some ((PatternItem.likeItems anyBefore anyAfter s).map .plain) := by
  have unopened := mt (@PatternMark.opening_mem_likeMarks_iff anyBefore anyAfter s).mp h
  rw [read?_likePattern_eq, ofMarks?_of_opening_notMem unopened, PatternMark.map_item_likeMarks]

/-! ### Texts with brackets -/

/-- The least length of a text that a pattern matches. -/
def width (items : List BracketItem) : Nat :=
  items.countP (· ≠ .plain .anyText)

/-- What a pattern matches has a part of the least length that it matches too. -/
theorem exists_length_eq_width (h : accepts order items x = true) :
    ∃ y, accepts order items y = true ∧ y.length = width items := by
  induction items generalizing x with
  | nil => exact ⟨[], rfl, rfl⟩
  | cons item items ih =>
    by_cases any : item = .plain .anyText
    · subst any
      rw [accepts_anyText] at h
      obtain ⟨y, -, hy⟩ := List.any_eq_true.mp h
      obtain ⟨z, hz, length⟩ := ih hy
      refine ⟨z, ?_, by simpa [width] using length⟩
      rw [accepts_anyText]
      exact List.any_eq_true.mpr ⟨z, (List.mem_tails z z).mpr List.suffix_rfl, hz⟩
    · obtain ⟨a, y, rfl, matched, hy⟩ := (accepts_cons_iff any).mp h
      obtain ⟨z, hz, length⟩ := ih hy
      refine ⟨a :: z, (accepts_cons_iff any).mpr ⟨a, z, rfl, matched, hz⟩, ?_⟩
      simpa [width, any] using length

theorem width_cons_le (item : BracketItem) (items : List BracketItem) :
    width (item :: items) ≤ width items + 1 := by
  rw [width, List.countP_cons]
  split <;> simp [width]

/-- An item that stands for one character of the pattern matches at most one. -/
theorem width_plain_cons_le (m : PatternMark) (items : List BracketItem) (ms : List PatternMark) :
    width (.plain m.item :: items) + weight ms ≤ width items + weight (m :: ms) := by
  by_cases any : m = .wild
  · subst any
    exact Nat.le_refl _
  · have most := width_cons_le (.plain m.item) items
    rw [PatternMark.weight_cons_of_ne any]
    omega

/-- No item takes less of the pattern than it matches. -/
theorem width_le_weight {contents? : Option (List PatternMark)} {ms : List PatternMark}
    (h : ofMarks? contents? ms = some items) : width items ≤ weight ms := by
  induction ms generalizing contents? items with
  | nil =>
    cases contents? with
    | none =>
      cases h
      exact Nat.le_refl 0
    | some contents => cases h
  | cons m ms ih =>
    have more := PatternMark.weight_le_cons m ms
    cases contents? with
    | none =>
      rw [ofMarks?] at h
      split at h
      · exact (ih h).trans more
      · obtain ⟨items', h', rfl⟩ := Option.map_eq_some_iff.mp h
        have rest := ih h'
        have first := width_plain_cons_le m items' ms
        omega
    | some contents =>
      rw [ofMarks?] at h
      split at h
      · next closes =>
        obtain ⟨items', h', rfl⟩ := Option.map_eq_some_iff.mp h
        have rest := ih h'
        have first := width_cons_le (.set contents) items'
        rw [PatternMark.weight_cons_of_ne (by rw [closes]; decide)]
        omega
      · exact (ih h).trans more

/-- A set takes more of it. -/
theorem width_lt_weight {ms : List PatternMark} (h : ofMarks? none ms = some items)
    (bracket : .opening ∈ ms) : width items < weight ms := by
  induction ms generalizing items with
  | nil => cases bracket
  | cons m ms ih =>
    rw [ofMarks?] at h
    by_cases opens : m = .opening
    · -- The bracket counts for the pattern, and no item stands for it.
      rw [if_pos opens] at h
      rw [PatternMark.weight_cons_of_ne (by rw [opens]; decide)]
      exact Nat.lt_succ_of_le (width_le_weight h)
    · rw [if_neg opens] at h
      obtain ⟨items', h', rfl⟩ := Option.map_eq_some_iff.mp h
      have rest := ih h' ((List.mem_cons.mp bracket).resolve_left (Ne.symm opens))
      have first := width_plain_cons_le m items' ms
      omega

/-- **A text with brackets lets shorter ones pass**, if it has a pattern that anything matches. -/
theorem exists_shorter (bracket : '[' ∈ s)
    (read : read? likeEscape (likePattern anyBefore anyAfter s) = some items)
    (h : accepts order items x = true) :
    ∃ y, accepts order items y = true ∧ y.length < s.length := by
  obtain ⟨y, hy, length⟩ := exists_length_eq_width h
  rw [read?_likePattern_eq] at read
  have bound := width_lt_weight read (PatternMark.opening_mem_likeMarks_iff.mpr bracket)
  rw [PatternMark.weight_likeMarks] at bound
  exact ⟨y, hy, length.trans_lt bound⟩

/-- **A text is matched literally just if it has no opening bracket.** -/
theorem literal_iff (order : Char → Char → Bool) (anyBefore anyAfter : Bool) (s : List Char) :
    (∃ items, read? likeEscape (likePattern anyBefore anyAfter s) = some items ∧
      ∀ x, accepts order items x =
        PatternItem.accepts (PatternItem.likeItems anyBefore anyAfter s) x) ↔ '[' ∉ s := by
  constructor
  · rintro ⟨items, read, literally⟩ bracket
    have self : accepts order items s = true := by
      rw [literally, PatternItem.accepts_likeItems_iff]
      exact ⟨[], [], by simp, .inr rfl, .inr rfl⟩
    obtain ⟨y, hy, shorter⟩ := exists_shorter bracket read self
    rw [literally, PatternItem.accepts_likeItems_iff] at hy
    obtain ⟨u, v, rfl, -, -⟩ := hy
    simp only [List.length_append] at shorter
    omega
  · intro h
    exact ⟨_, read?_likePattern h, fun x => congrFun (accepts_map_plain _) x⟩

end BracketItem

end StarSchema.Sql
