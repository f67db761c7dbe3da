import StarSchema.Proofs.Traversal
import StarSchema.Request

/-!
# Requirements in order

Composition goes through the names that a declaration uses, one after the other, and stops at the
first one that is bad. What it checks is a list of requirements, each with the field that is blamed
if it is not met. A check of such a list succeeds just if all of them are met, and otherwise blames
the field of the first that is not.

Checks follow the shape of the computations that they are made of: one after another check the
lists one after the other, and a traversal checks one requirement for each item.

Main definitions: `Requirement`, `FirstUnmet`, `Checks`, `Settled`.

Main results: `Checks.bind`, `Checks.mapM`, `Checks.settled`.
-/

namespace StarSchema

variable {α β : Type}

/-- What has to be so for a field. -/
structure Requirement where
  field : String
  met : Prop

/-- The field is that of the first requirement that is not met. -/
inductive FirstUnmet : List Requirement → String → Prop where
  | head {r : Requirement} {rs : List Requirement} (unmet : ¬ r.met) : FirstUnmet (r :: rs) r.field
  | tail {r : Requirement} {rs : List Requirement} {field : String} (met : r.met)
    (later : FirstUnmet rs field) : FirstUnmet (r :: rs) field

namespace FirstUnmet

variable {rs rs' : List Requirement} {field : String}

theorem append_right (h : FirstUnmet rs field) : FirstUnmet (rs ++ rs') field := by
  induction h with
  | head unmet => exact .head unmet
  | tail met _ ih => exact .tail met ih

theorem append_left (met : ∀ r ∈ rs, r.met) (h : FirstUnmet rs' field) :
    FirstUnmet (rs ++ rs') field := by
  induction rs with
  | nil => exact h
  | cons r rs ih =>
    rw [List.forall_mem_cons] at met
    exact .tail met.1 (ih met.2)

theorem not_forall_met (h : FirstUnmet rs field) : ¬ ∀ r ∈ rs, r.met := by
  induction h with
  | head unmet => exact fun met => unmet (met _ List.mem_cons_self)
  | tail _ _ ih => exact fun met => ih fun r hr => met r (List.mem_cons_of_mem _ hr)

/-- There is only one first requirement that is not met. -/
theorem eq_field {before after : List Requirement} {r : Requirement}
    (h : FirstUnmet (before ++ r :: after) field) (met : ∀ x ∈ before, x.met) (unmet : ¬ r.met) :
    field = r.field := by
  induction before with
  | nil =>
    cases h with
    | head _ => rfl
    | tail rmet _ => exact absurd rmet unmet
  | cons x before ih =>
    rw [List.forall_mem_cons] at met
    cases h with
    | head xunmet => exact absurd met.1 xunmet
    | tail _ later => exact ih later met.2

end FirstUnmet

/-! ### Checks -/

/-- The computation checks the requirements: it succeeds if they are met, and otherwise blames the
entity and the field of the first that is not. -/
def Checks (entity : String) (rs : List Requirement) : Except CompositionError α → Prop
  | .ok _ => ∀ r ∈ rs, r.met
  | .error e => e.entity = entity ∧ ∃ field, e.field? = some field ∧ FirstUnmet rs field

namespace Checks

variable {entity : String} {rs rs' : List Requirement} {x : Except CompositionError α}

theorem ok (entity : String) (a : α) : Checks entity [] (.ok a) :=
  List.forall_mem_nil _

/-- A search checks that what is wanted is there. -/
theorem search {x? : Option β} {field : String} {met : Prop} (present : x?.isSome = true ↔ met)
    (found : ∀ b, x? = some b → ∃ a, x = .ok a)
    (missing : x? = none → ∃ cause, x = .error ⟨entity, some field, cause⟩) :
    Checks entity [⟨field, met⟩] x := by
  cases searched : x? with
  | some b =>
    obtain ⟨a, rfl⟩ := found b searched
    exact List.forall_mem_singleton.mpr (present.mp (searched ▸ rfl))
  | none =>
    obtain ⟨cause, rfl⟩ := missing searched
    refine ⟨rfl, field, rfl, .head fun wanted => ?_⟩
    have there := present.mpr wanted
    rw [searched] at there
    cases there

/-- One computation after another checks one list after the other. -/
theorem bind {f : α → Except CompositionError β} (hx : Checks entity rs x)
    (hf : ∀ a, x = .ok a → Checks entity rs' (f a)) : Checks entity (rs ++ rs') (x >>= f) := by
  cases x with
  | error e =>
    obtain ⟨sameEntity, field, blamed, first⟩ := hx
    exact ⟨sameEntity, field, blamed, first.append_right⟩
  | ok a =>
    show Checks entity (rs ++ rs') (f a)
    have checked := hf a rfl
    cases outcome : f a with
    | ok b =>
      rw [outcome] at checked
      exact List.forall_mem_append.mpr ⟨hx, checked⟩
    | error e =>
      rw [outcome] at checked
      obtain ⟨sameEntity, field, blamed, first⟩ := checked
      exact ⟨sameEntity, field, blamed, first.append_left hx⟩

/-- What comes last and cannot fail checks nothing. -/
theorem bind_ok {f : α → Except CompositionError β} (hx : Checks entity rs x)
    (hf : ∀ a, x = .ok a → ∃ b, f a = .ok b) : Checks entity rs (x >>= f) := by
  rw [← List.append_nil rs]
  refine hx.bind fun a ha => ?_
  obtain ⟨b, hb⟩ := hf a ha
  rw [hb]
  exact .ok entity b

theorem map (hx : Checks entity rs x) (f : α → β) : Checks entity rs (x.map f) := by
  cases x with
  | ok a => exact hx
  | error e => exact hx

/-- A traversal checks one requirement for each item. -/
theorem mapM {r : α → Requirement} {f : α → Except CompositionError β} {xs : List α}
    (h : ∀ a ∈ xs, Checks entity [r a] (f a)) : Checks entity (xs.map r) (xs.mapM f) := by
  induction xs with
  | nil => exact .ok entity []
  | cons a xs ih =>
    rw [List.forall_mem_cons] at h
    rw [List.mapM_cons, List.map_cons, ← List.singleton_append]
    exact h.1.bind fun b _ => (ih h.2).bind_ok fun bs _ => ⟨b :: bs, rfl⟩

/-- Another entity can take the blame. -/
theorem mapError (hx : Checks entity rs x) (other : String) :
    Checks other rs (x.mapError fun e => { e with entity := other }) := by
  cases x with
  | ok a => exact hx
  | error e => exact ⟨rfl, hx.2⟩

theorem isOk_iff (hx : Checks entity rs x) : x.isOk = true ↔ ∀ r ∈ rs, r.met := by
  cases x with
  | ok a => exact ⟨fun _ => hx, fun _ => rfl⟩
  | error e =>
    obtain ⟨-, field, -, first⟩ := hx
    exact ⟨fun h => (nomatch h), fun met => absurd met first.not_forall_met⟩

end Checks

/-! ### Requests -/

/-- The request succeeds just if the requirements are met, and every failure blames the entity and
the field of the first that is not. -/
structure Settled (entity : String) (rs : List Requirement) (x : Except RequestError α) :
    Prop where
  isOk_iff : x.isOk = true ↔ ∀ r ∈ rs, r.met
  blames : ∀ e, x = .error e →
    ∃ field cause, e = .composition ⟨entity, some field, cause⟩ ∧ FirstUnmet rs field

/-- What a check settles when it is requested. -/
theorem Checks.settled {entity : String} {rs : List Requirement} {x : Except CompositionError α}
    (hx : Checks entity rs x) : Settled entity rs (x.mapError .composition) := by
  refine ⟨?_, ?_⟩
  · rw [← hx.isOk_iff]
    cases x <;> exact Iff.rfl
  · intro e he
    cases x with
    | ok a => cases he
    | error cause =>
      cases he
      obtain ⟨entity', field?, cause⟩ := cause
      obtain ⟨rfl, field, rfl, first⟩ := hx
      exact ⟨field, cause, rfl, first⟩

/-- What fails first fails the request. -/
theorem Settled.exists_error {entity : String} {before after : List Requirement} {r : Requirement}
    {x : Except RequestError α} (h : Settled entity (before ++ r :: after) x)
    (met : ∀ y ∈ before, y.met) (unmet : ¬ r.met) :
    ∃ cause, x = .error (.composition ⟨entity, some r.field, cause⟩) := by
  cases x with
  | ok a =>
    have all := h.isOk_iff.mp rfl
    exact absurd (all r (List.mem_append_right before List.mem_cons_self)) unmet
  | error e =>
    obtain ⟨field, cause, rfl, first⟩ := h.blames e rfl
    exact ⟨cause, by rw [first.eq_field met unmet]⟩

end StarSchema
