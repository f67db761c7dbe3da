import Mathlib.Data.List.Infix
import StarSchema.Filter.Operator

/-!
# Reading patterns

How a database matches a text against a pattern, and what that makes of the patterns written here.

## The rules

In a pattern, `%` stands for any text and `_` for any one character. The escape character makes the
next character literal; it may stand before `%`, before `_` and before itself, and a pattern with an
escape character anywhere else is malformed and has no meaning. All other characters are literal.

Main definitions: `PatternItem`, `PatternItem.read?`, `PatternItem.accepts`, `TextValues`,
`Expr.likeHolds?`.

Main results: `PatternItem.read?_likePattern`, `PatternItem.accepts_likeItems_iff`.
-/

namespace StarSchema.Sql

/-- What a pattern is made of. -/
inductive PatternItem where
  | anyText
  | anyChar
  | char (c : Char)
deriving DecidableEq

namespace PatternItem

/-- What a character stands for that is not escaped. -/
def ofChar (c : Char) : PatternItem :=
  if c = '%' then .anyText else if c = '_' then .anyChar else .char c

/-- The items of a pattern, if it is well formed. -/
def read? (escape : Char) : List Char → Option (List PatternItem)
  | [] => some []
  | [c] => if c = escape then none else some [ofChar c]
  | c :: x :: s =>
    if c = escape then
      if x = '%' ∨ x = '_' ∨ x = escape then (read? escape s).map (.char x :: ·) else none
    else (read? escape (x :: s)).map (ofChar c :: ·)

/-- Whether a text matches a pattern. -/
def accepts : List PatternItem → List Char → Bool
  | [], x => x.isEmpty
  | .anyText :: items, x => x.tails.any (accepts items)
  | .anyChar :: items, _ :: x => accepts items x
  | .char c :: items, a :: x => a == c && accepts items x
  | _, [] => false

/-! ### Which texts an item lets pass -/

variable {items : List PatternItem} {x : List Char}

theorem accepts_nil_iff : accepts [] x = true ↔ x = [] := by
  rw [accepts, List.isEmpty_iff]

theorem accepts_anyText_iff :
    accepts (.anyText :: items) x = true ↔ ∃ u y, x = u ++ y ∧ accepts items y = true := by
  rw [accepts, List.any_eq_true]
  constructor
  · rintro ⟨y, suffix, hy⟩
    obtain ⟨u, rfl⟩ := (List.mem_tails y x).mp suffix
    exact ⟨u, y, rfl, hy⟩
  · rintro ⟨u, y, rfl, hy⟩
    exact ⟨y, (List.mem_tails y _).mpr (List.suffix_append u y), hy⟩

theorem accepts_char_iff {c : Char} :
    accepts (.char c :: items) x = true ↔ ∃ y, x = c :: y ∧ accepts items y = true := by
  cases x with
  | nil => simp [accepts]
  | cons a x =>
    rw [accepts, Bool.and_eq_true, beq_iff_eq]
    constructor
    · rintro ⟨rfl, hx⟩
      exact ⟨x, rfl, hx⟩
    · rintro ⟨y, heq, hy⟩
      obtain ⟨rfl, rfl⟩ := List.cons.inj heq
      exact ⟨rfl, hy⟩

/-- Literal characters let pass a text that starts with them. -/
theorem accepts_chars_append_iff (s : List Char) :
    accepts (s.map .char ++ items) x = true ↔ ∃ y, x = s ++ y ∧ accepts items y = true := by
  induction s generalizing x with
  | nil => simp
  | cons c s ih =>
    rw [List.map_cons, List.cons_append, accepts_char_iff]
    constructor
    · rintro ⟨y, rfl, hy⟩
      obtain ⟨z, rfl, hz⟩ := ih.mp hy
      exact ⟨z, rfl, hz⟩
    · rintro ⟨z, rfl, hz⟩
      exact ⟨s ++ z, rfl, ih.mpr ⟨z, rfl, hz⟩⟩

/-! ### The patterns that are written -/

/-- The item for any text, where it is wanted. -/
def anyItem (wanted : Bool) : List PatternItem :=
  if wanted then [.anyText] else []

/-- The items of a text with any text before it and after it where that is allowed. -/
def likeItems (anyBefore anyAfter : Bool) (s : List Char) : List PatternItem :=
  anyItem anyBefore ++ (s.map .char ++ anyItem anyAfter)

theorem accepts_anyItem_iff {wanted : Bool} :
    accepts (anyItem wanted) x = true ↔ wanted = true ∨ x = [] := by
  cases wanted with
  | false => simp [anyItem, accepts_nil_iff]
  | true =>
    refine ⟨fun _ => .inl rfl, fun _ => ?_⟩
    exact accepts_anyText_iff.mpr ⟨x, [], by simp, rfl⟩

theorem accepts_anyItem_append_iff {wanted : Bool} :
    accepts (anyItem wanted ++ items) x = true ↔
      ∃ u y, x = u ++ y ∧ (wanted = true ∨ u = []) ∧ accepts items y = true := by
  cases wanted with
  | false => simp [anyItem]
  | true => simp [anyItem, accepts_anyText_iff]

/-- **A text matches if the given text stands in it**, with nothing before it and nothing after it
unless that is allowed. -/
theorem accepts_likeItems_iff {anyBefore anyAfter : Bool} {s : List Char} :
    accepts (likeItems anyBefore anyAfter s) x = true ↔
      ∃ u v, x = u ++ s ++ v ∧ (anyBefore = true ∨ u = []) ∧ (anyAfter = true ∨ v = []) := by
  rw [likeItems, accepts_anyItem_append_iff]
  constructor
  · rintro ⟨u, y, rfl, before, hy⟩
    obtain ⟨v, rfl, after⟩ := (accepts_chars_append_iff s).mp hy
    exact ⟨u, v, (List.append_assoc u s v).symm, before, accepts_anyItem_iff.mp after⟩
  · rintro ⟨u, v, rfl, before, after⟩
    refine ⟨u, s ++ v, List.append_assoc u s v, before, ?_⟩
    exact (accepts_chars_append_iff s).mpr ⟨v, rfl, accepts_anyItem_iff.mpr after⟩

/-! ### Escaping -/

theorem read?_cons {c escape : Char} (h : c ≠ escape) (s : List Char) :
    read? escape (c :: s) = (read? escape s).map (ofChar c :: ·) := by
  cases s with
  | nil => simp [read?, h]
  | cons x s => rw [read?, if_neg h]

theorem read?_escape {x : Char} (h : x = '%' ∨ x = '_' ∨ x = likeEscape) (s : List Char) :
    read? likeEscape (likeEscape :: x :: s) = (read? likeEscape s).map (.char x :: ·) := by
  rw [read?, if_pos rfl, if_pos h]

/-- An escaped text is read as its own characters, whatever follows it. -/
theorem read?_escapeLike_append (s rest : List Char) :
    read? likeEscape (escapeLike s ++ rest) =
      (read? likeEscape rest).map (s.map PatternItem.char ++ ·) := by
  induction s with
  | nil => simp [escapeLike]
  | cons c s ih =>
    have go_on (items : Option (List PatternItem)) :
        (items.map (s.map PatternItem.char ++ ·)).map (.char c :: ·) =
          items.map ((c :: s).map PatternItem.char ++ ·) := by
      rw [Option.map_map]
      rfl
    rw [escapeLike]
    by_cases special : c = '%' ∨ c = '_' ∨ c = likeEscape
    · rw [if_pos special, List.cons_append, List.cons_append, read?_escape special, ih, go_on]
    · have plain : ofChar c = .char c := by
        rw [ofChar, if_neg fun h => special (.inl h), if_neg fun h => special (.inr (.inl h))]
      rw [if_neg special, List.cons_append, read?_cons fun h => special (.inr (.inr h)), ih, plain,
        go_on]

theorem read?_anyText_append (wanted : Bool) (s : List Char) :
    read? likeEscape (StarSchema.anyText wanted ++ s) =
      (read? likeEscape s).map (anyItem wanted ++ ·) := by
  cases wanted with
  | false => simp [StarSchema.anyText, anyItem]
  | true => exact read?_cons (by decide) s

/-- **The pattern of a text is well formed**, and its characters stand for themselves. -/
theorem read?_likePattern (anyBefore anyAfter : Bool) (s : List Char) :
    read? likeEscape (likePattern anyBefore anyAfter s) =
      some (likeItems anyBefore anyAfter s) := by
  have after : read? likeEscape (StarSchema.anyText anyAfter) = some (anyItem anyAfter) := by
    have read := read?_anyText_append anyAfter []
    rwa [List.append_nil, read?, Option.map_some, List.append_nil] at read
  rw [likePattern, List.append_assoc, read?_anyText_append, read?_escapeLike_append, after]
  rfl

end PatternItem

/-! ### The meaning of a test -/

/-- The texts that expressions have in some row, if they have any. That of a string literal is what
it says; of all others nothing is assumed. -/
structure TextValues where
  text? : Expr → Option String
  text?_string : ∀ s, text? (.string s) = some s

/-- A row in which every column has the same text. -/
def TextValues.uniform (x : String) : TextValues where
  text?
    | .column _ _ => some x
    | .literal (.string s) => some s
    | _ => none
  text?_string _ := rfl

/-- Whether a test for a pattern holds in a row. There is no answer if the subject or the pattern
has no text, or if the pattern is malformed. -/
def Expr.likeHolds? (row : TextValues) : Expr → Option Bool
  | .like subject pattern escape negated => do
    let x ← row.text? subject
    let p ← row.text? pattern
    let items ← PatternItem.read? escape p.toList
    return PatternItem.accepts items x.toList != negated
  | _ => none

/-- A test for the pattern of a text asks whether the text stands in the subject. -/
theorem Expr.likeHolds?_likePattern {row : TextValues} {subject : Expr} {x : String}
    (hx : row.text? subject = some x) (anyBefore anyAfter negated : Bool) (s : List Char) :
    (Expr.like subject (.string (String.ofList (likePattern anyBefore anyAfter s))) likeEscape
        negated).likeHolds? row =
      some (PatternItem.accepts (PatternItem.likeItems anyBefore anyAfter s) x.toList !=
        negated) := by
  simp only [Expr.likeHolds?, hx, row.text?_string, String.toList_ofList,
    PatternItem.read?_likePattern, Option.bind_eq_bind, Option.bind_some, Option.pure_def]

end StarSchema.Sql
