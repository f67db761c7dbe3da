import StarSchema.Proofs.Traversal

/-!
# What a check admits

Loading goes through a declaration part by part and stops at the first one that is no good. Here
such a check is described from outside: by a condition, without which it does not succeed and with
which it does, and by the faults that its errors may name. The description says nothing of the order
in which parts are looked at, so it can be read without the check.

Descriptions follow the shape of the checks: one check after another admits what both admit, and a
traversal admits a list if it admits each item.

Main definition: `Admits`.

Main results: `Admits.bind`, `Admits.mapM`, `Admits.isOk_iff`, `Admits.of_error`.
-/

namespace StarSchema

variable {ε ε' α β γ : Type}

/-- The check succeeds just if the condition is met, and otherwise names a fault. -/
def Admits (met : Prop) (fault : ε → Prop) : Except ε α → Prop
  | .ok _ => met
  | .error e => ¬ met ∧ fault e

namespace Admits

variable {met met' : Prop} {fault fault' : ε → Prop} {x : Except ε α}

theorem isOk_iff (hx : Admits met fault x) : x.isOk = true ↔ met := by
  cases x with
  | ok a => exact ⟨fun _ => hx, fun _ => rfl⟩
  | error e => exact ⟨fun h => (nomatch h), fun h => absurd h hx.1⟩

theorem of_error (hx : Admits met fault x) {e : ε} (h : x = .error e) : fault e := by
  subst h
  exact hx.2

/-- Every computation admits what it succeeds with, and names its own error. -/
theorem self (x : Except ε α) : Admits (∃ a, x = .ok a) (x = .error ·) x := by
  cases x with
  | ok a => exact ⟨a, rfl⟩
  | error e => exact ⟨fun ⟨a, h⟩ => (nomatch h), rfl⟩

/-- The same check described in other words, with more faults at most. -/
theorem congr (hx : Admits met fault x) (condition : met ↔ met')
    (faults : ∀ e, fault e → fault' e) : Admits met' fault' x := by
  cases x with
  | ok a => exact condition.mp hx
  | error e => exact ⟨fun h => hx.1 (condition.mpr h), faults e hx.2⟩

theorem map (hx : Admits met fault x) (f : α → β) : Admits met fault (x.map f) := by
  cases x with
  | ok a => exact hx
  | error e => exact hx

theorem mapError {fault' : ε' → Prop} {f : ε → ε'} (hx : Admits met fault x)
    (faults : ∀ e, fault e → fault' (f e)) : Admits met fault' (x.mapError f) := by
  cases x with
  | ok a => exact hx
  | error e => exact ⟨hx.1, faults e hx.2⟩

/-- One check after another admits what both admit. -/
theorem bind {f : α → Except ε β} (hx : Admits met fault x)
    (hf : ∀ a, x = .ok a → Admits met' fault (f a)) : Admits (met ∧ met') fault (x >>= f) := by
  cases x with
  | error e => exact ⟨fun h => hx.1 h.1, hx.2⟩
  | ok a =>
    show Admits (met ∧ met') fault (f a)
    exact (hf a rfl).congr ⟨fun h => ⟨hx, h⟩, And.right⟩ fun _ => id

/-- What comes last and cannot fail admits everything. -/
theorem bind_ok {f : α → Except ε β} (hx : Admits met fault x)
    (hf : ∀ a, x = .ok a → ∃ b, f a = .ok b) : Admits met fault (x >>= f) := by
  cases x with
  | error e => exact hx
  | ok a =>
    obtain ⟨b, hb⟩ := hf a rfl
    show Admits met fault (f a)
    rw [hb]
    exact hx

section

variable {met : α → Prop} {fault : α → ε → Prop} {xs : List α}

/-- One item, and then the others. -/
theorem cons {a : α} {x : Except ε β} {rest : β → Except ε γ} (first : Admits (met a) (fault a) x)
    (others : ∀ b, Admits (∀ a ∈ xs, met a) (fun e => ∃ a ∈ xs, fault a e) (rest b)) :
    Admits (∀ b ∈ a :: xs, met b) (fun e => ∃ b ∈ a :: xs, fault b e) (x >>= rest) := by
  have head : Admits (met a) (fun e => ∃ b ∈ a :: xs, fault b e) x :=
    first.congr Iff.rfl fun e he => ⟨a, List.mem_cons_self, he⟩
  have tail (b : β) : Admits (∀ a ∈ xs, met a) (fun e => ∃ b ∈ a :: xs, fault b e) (rest b) :=
    (others b).congr Iff.rfl fun e ⟨c, hc, he⟩ => ⟨c, List.mem_cons_of_mem a hc, he⟩
  exact (head.bind fun b _ => tail b).congr List.forall_mem_cons.symm fun _ => id

/-- A traversal admits a list if it admits each item. -/
theorem mapM {f : α → Except ε β} (h : ∀ a ∈ xs, Admits (met a) (fault a) (f a)) :
    Admits (∀ a ∈ xs, met a) (fun e => ∃ a ∈ xs, fault a e) (xs.mapM f) := by
  induction xs with
  | nil => exact List.forall_mem_nil met
  | cons a xs ih =>
    rw [List.forall_mem_cons] at h
    rw [List.mapM_cons]
    exact h.1.cons fun b => (ih h.2).bind_ok fun bs _ => ⟨b :: bs, rfl⟩

theorem forM {f : α → Except ε Unit} (h : ∀ a ∈ xs, Admits (met a) (fault a) (f a)) :
    Admits (∀ a ∈ xs, met a) (fun e => ∃ a ∈ xs, fault a e) (xs.forM f) := by
  induction xs with
  | nil => exact List.forall_mem_nil met
  | cons a xs ih =>
    rw [List.forall_mem_cons] at h
    show Admits _ _ (f a >>= fun _ => xs.forM f)
    exact h.1.cons fun _ => ih h.2

end

end Admits

end StarSchema
