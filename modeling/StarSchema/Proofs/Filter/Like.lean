import StarSchema.Proofs.Filter.Run
import StarSchema.Proofs.Sql.Like

/-!
# Text filters take the user's text literally

Four operators make a pattern of the text that a filter holds. Whatever characters the text has,
wild cards and escape characters among them, the pattern asks for the text itself: anywhere in the
subject, at its start or at its end.

Main result: `Filter.likeHolds?_predicate?`.
-/

namespace StarSchema

open Sql

/-! ### The three places of a text -/

namespace Sql.PatternItem

theorem accepts_anywhere (s x : List Char) :
    accepts (likeItems true true s) x = decide (s <:+: x) := by
  rw [Bool.eq_iff_iff, accepts_likeItems_iff, decide_eq_true_iff]
  constructor
  · rintro ⟨u, v, rfl, -, -⟩
    exact ⟨u, v, rfl⟩
  · rintro ⟨u, v, rfl⟩
    exact ⟨u, v, rfl, .inl rfl, .inl rfl⟩

theorem accepts_at_start (s x : List Char) :
    accepts (likeItems false true s) x = decide (s <+: x) := by
  rw [Bool.eq_iff_iff, accepts_likeItems_iff, decide_eq_true_iff]
  constructor
  · rintro ⟨u, v, rfl, before, -⟩
    obtain rfl := before.resolve_left Bool.false_ne_true
    exact ⟨v, rfl⟩
  · rintro ⟨v, rfl⟩
    exact ⟨[], v, rfl, .inr rfl, .inl rfl⟩

theorem accepts_at_end (s x : List Char) :
    accepts (likeItems true false s) x = decide (s <:+ x) := by
  rw [Bool.eq_iff_iff, accepts_likeItems_iff, decide_eq_true_iff]
  constructor
  · rintro ⟨u, v, rfl, -, after⟩
    obtain rfl := after.resolve_left Bool.false_ne_true
    exact ⟨u, (List.append_nil _).symm⟩
  · rintro ⟨u, rfl⟩
    exact ⟨u, [], (List.append_nil _).symm, .inl rfl, .inr rfl⟩

end Sql.PatternItem

/-! ### The condition of a text filter -/

theorem Value.eq_str_of_dataType {v : Value} (h : v.dataType = .str) : ∃ s, v = .str s := by
  cases v with
  | str s => exact ⟨s, rfl⟩
  | _ => cases h

theorem Operator.predicate_of_contains {op : Operator} {anyBefore anyAfter negated : Bool}
    (h : op.test = .contains anyBefore anyAfter negated) (subject : Expr) (s : String) :
    op.predicate subject (.str s) =
      .like subject (.string (String.ofList (likePattern anyBefore anyAfter s.toList))) likeEscape
        negated := by
  rw [Operator.predicate, h, Value.text]

/-- The condition of an operator that looks for a text is a test for a well-formed pattern, and it
holds as the pattern's literal text stands in the subject. -/
theorem Operator.likeHolds?_predicate (op : Operator) {anyBefore anyAfter negated : Bool}
    (h : op.test = .contains anyBefore anyAfter negated) {subject : Expr} {row : TextValues}
    {x : String} (hx : row.text? subject = some x) (s : String) :
    (op.predicate subject (.str s)).likeHolds? row =
      some (PatternItem.accepts (PatternItem.likeItems anyBefore anyAfter s.toList) x.toList !=
        negated) := by
  rw [predicate_of_contains h]
  exact Expr.likeHolds?_likePattern hx _ _ _ _

namespace Filter

/-- **A text filter matches the user's text literally.** Take a filter on texts, whatever was done
to it since it was made. The value that it holds is a text `s`, and the filter stands for a
condition. Of a row in which the subject of the filter has the text `x`, the condition of `like`
holds just if `s` stands in `x`, that of `notLike` just if it does not, that of `startsWith` just if
`x` starts with `s`, and that of `endsWith` just if `x` ends with `s`. The pattern in the condition
is never malformed. -/
theorem likeHolds?_predicate? {f : Filter} (text : f.dataType = .str) (unset : f.value? = none)
    (steps : List FilterStep) {v : Value} (held : (f.run steps).value? = some v) :
    ∃ s e, v = .str s ∧ (f.run steps).predicate? = some e ∧
      (f.operator ∈ [.like, .notLike, .startsWith, .endsWith] →
        ∃ (pattern : String) (items : List PatternItem) (negated : Bool),
          e = .like f.subject (.string pattern) likeEscape negated ∧
          PatternItem.read? likeEscape pattern.toList = some items) ∧
      ∀ (row : TextValues) (x : String), row.text? f.subject = some x →
        (f.operator = .like → e.likeHolds? row = some (decide (s.toList <:+: x.toList))) ∧
        (f.operator = .notLike → e.likeHolds? row = some (decide (¬ s.toList <:+: x.toList))) ∧
        (f.operator = .startsWith → e.likeHolds? row = some (decide (s.toList <+: x.toList))) ∧
        (f.operator = .endsWith → e.likeHolds? row = some (decide (s.toList <:+ x.toList))) := by
  have same := f.sameQuestion_run steps
  have typed := typed_run (typed_of_value?_eq_none unset) steps
  obtain ⟨s, rfl⟩ : ∃ s, v = .str s := by
    refine Value.eq_str_of_dataType ?_
    rw [(typed v held).1, same.dataType, text]
  refine ⟨s, f.operator.predicate f.subject (.str s), rfl, ?_, ?_, ?_⟩
  · rw [typed.predicate?_eq_some held, same.operator, same.subject]
  · intro family
    obtain ⟨anyBefore, anyAfter, negated, test⟩ :
        ∃ anyBefore anyAfter negated, f.operator.test = .contains anyBefore anyAfter negated := by
      simp only [List.mem_cons, List.not_mem_nil, or_false] at family
      rcases family with h | h | h | h <;> rw [h] <;> exact ⟨_, _, _, rfl⟩
    refine ⟨_, PatternItem.likeItems anyBefore anyAfter s.toList, negated,
      Operator.predicate_of_contains test _ s, ?_⟩
    rw [String.toList_ofList]
    exact PatternItem.read?_likePattern anyBefore anyAfter s.toList
  · intro row x hx
    refine ⟨?_, ?_, ?_, ?_⟩
    · intro h
      rw [h, Operator.likeHolds?_predicate .like rfl hx, PatternItem.accepts_anywhere,
        Bool.bne_false]
    · intro h
      rw [h, Operator.likeHolds?_predicate .notLike rfl hx, PatternItem.accepts_anywhere,
        Bool.bne_true, decide_not]
    · intro h
      rw [h, Operator.likeHolds?_predicate .startsWith rfl hx,
        PatternItem.accepts_at_start, Bool.bne_false]
    · intro h
      rw [h, Operator.likeHolds?_predicate .endsWith rfl hx, PatternItem.accepts_at_end,
        Bool.bne_false]

/-- A filter for the end of a text. -/
def discount : Filter where
  fieldName := "Discount"
  dataType := .str
  operator := .endsWith
  subject := .column "sales" "discount"

theorem likeHolds?_predicate?_discount :
    let steps : List FilterStep := [.set (.str "half"), .clear, .set (.str "5%_\\")]
    discount.dataType = .str ∧ discount.value? = none ∧
      (discount.run steps).value? = some (.str "5%_\\") ∧
      ∃ e, (discount.run steps).predicate? = some e ∧
        e.likeHolds? (.uniform "now 5%_\\") = some true ∧
        e.likeHolds? (.uniform "now 50_\\") = some false := by
  intro steps
  have held : (discount.run steps).value? = some (.str "5%_\\") := by decide +kernel
  obtain ⟨s, e, value, predicate, -, holds⟩ :=
    @likeHolds?_predicate? discount rfl rfl steps _ held
  cases value
  refine ⟨rfl, rfl, held, e, predicate, ?_, ?_⟩
  · rw [(holds (.uniform "now 5%_\\") _ rfl).2.2.2 rfl]
    decide +kernel
  · rw [(holds (.uniform "now 50_\\") _ rfl).2.2.2 rfl]
    decide +kernel

end Filter

end StarSchema
