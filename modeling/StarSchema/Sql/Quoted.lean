/-!
# Quoted text

Inside quotes, a character is written twice to stand for itself; which characters those are is
up to the dialect. Reading a quoted text undoes the doubling.

Main definitions: `Quoted.doubled`, `Quoted.enclose`.
-/

namespace StarSchema.Sql.Quoted

/-- The text with every `c` written twice. -/
def doubled (c : Char) : List Char → List Char
  | [] => []
  | x :: s => if x = c then c :: c :: doubled c s else x :: doubled c s

/-- The text between an opening and a closing character, the closing one doubled inside. -/
def enclose (opening closing : Char) (s : List Char) : List Char :=
  opening :: doubled closing s ++ [closing]

/-- A text in single quotes as it stands. -/
def bare (s : List Char) : List Char :=
  '\'' :: s ++ ['\'']

@[simp]
theorem doubled_nil (c : Char) : doubled c [] = [] := rfl

@[simp]
theorem doubled_append (c : Char) (s t : List Char) :
    doubled c (s ++ t) = doubled c s ++ doubled c t := by
  induction s with
  | nil => rfl
  | cons x s ih => by_cases h : x = c <;> simp [doubled, h, ih]

/-- The doubled character is counted twice and every other one once. -/
theorem count_doubled (c x : Char) (s : List Char) :
    (doubled c s).count x = (if x = c then 2 else 1) * s.count x := by
  induction s with
  | nil => rfl
  | cons y s ih => by_cases h : y = c <;> by_cases hx : x = y <;> grind [doubled]

end StarSchema.Sql.Quoted
