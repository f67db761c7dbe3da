/-!
# Operations in place

An operation that changes an object where it stands may be refused when it has already done a part
of its work. Nothing takes that part back: the object after an operation is what the operation has
made of it by then, whether it is refused or not.

Main definitions: `InPlace`, `InPlace.after`, `InPlace.outcome`, `InPlace.onPart`.

Main results: `InPlace.AllOrNothing.after_eq`, `InPlace.allOrNothing_onPart`.
-/

namespace StarSchema

/-- Operations that change an object, or are refused. -/
abbrev InPlace (ε α : Type) : Type → Type :=
  ExceptT ε (StateM α)

namespace InPlace

variable {ε ε' α β : Type}

/-- The object as the operation leaves it. -/
def after (op : InPlace ε α Unit) (a : α) : α :=
  (op.run.run a).2

/-- The object as the operation leaves it, unless it is refused. -/
def outcome (op : InPlace ε α Unit) (a : α) : Except ε α :=
  (op.run.run a).1.map fun _ => op.after a

/-- An operation on a part of an object, into which the part goes back however the operation
ended. -/
def onPart (op : InPlace ε α Unit) (part : α) (putBack : α → β) (fault : ε → ε') :
    InPlace ε' β Unit := do
  set (putBack (op.after part))
  liftExcept ((op.run.run part).1.mapError fault)

/-- What is refused leaves the object as it was. -/
def AllOrNothing (op : InPlace ε α Unit) (a : α) : Prop :=
  ∀ e, op.outcome a = .error e → op.after a = a

theorem after_of_outcome {op : InPlace ε α Unit} {a b : α} (h : op.outcome a = .ok b) :
    op.after a = b := by
  unfold outcome at h
  cases result : (op.run.run a).1 with
  | error e =>
    rw [result] at h
    cases h
  | ok u =>
    rw [result] at h
    exact Except.ok.inj h

theorem AllOrNothing.after_eq {op : InPlace ε α Unit} {a : α} (h : op.AllOrNothing a) :
    op.after a = (op.outcome a).toOption.getD a := by
  cases result : op.outcome a with
  | error e => exact h e result
  | ok b => exact after_of_outcome result

section OnPart

variable (op : InPlace ε α Unit) (part : α) (putBack : α → β) (fault : ε → ε') (b : β)

theorem after_onPart : (op.onPart part putBack fault).after b = putBack (op.after part) := by
  unfold onPart after
  cases op.run.run part with
  | mk result left => cases result <;> rfl

theorem outcome_onPart :
    (op.onPart part putBack fault).outcome b = ((op.outcome part).mapError fault).map putBack := by
  unfold onPart outcome after
  cases op.run.run part with
  | mk result left => cases result <;> rfl

variable {op part putBack fault b}

/-- What leaves a part as it was leaves the whole as it was. -/
theorem allOrNothing_onPart (h : op.AllOrNothing part) (whole : putBack part = b) :
    (op.onPart part putBack fault).AllOrNothing b := by
  intro e refused
  rw [outcome_onPart] at refused
  rw [after_onPart]
  cases result : op.outcome part with
  | error c => rw [h c result, whole]
  | ok part' =>
    rw [result] at refused
    cases refused

end OnPart

end InPlace

end StarSchema
