/-!
# Blank characters and trimming

The blanks are the characters with the Unicode property `White_Space`; the property has been
closed under change for many versions of the standard, so the list is written out.

Definitions: `Text.isBlank`, `Text.trim`, `Text.skipBlanks`.
-/

namespace StarSchema.Text

/-- The 25 characters of the Unicode property `White_Space`. -/
def isBlank (c : Char) : Bool :=
  let n := c.toNat
  (9 ≤ n && n ≤ 13) || n == 0x20 || n == 0x85 || n == 0xA0 || n == 0x1680 ||
    (0x2000 ≤ n && n ≤ 0x200A) || n == 0x2028 || n == 0x2029 || n == 0x202F || n == 0x205F ||
    n == 0x3000

/-- What follows the leading blanks. -/
def skipBlanks (s : List Char) : List Char :=
  s.dropWhile isBlank

/-- The text without the blanks at either end. -/
def trim (s : List Char) : List Char :=
  (skipBlanks (skipBlanks s).reverse).reverse

@[simp]
theorem skipBlanks_nil : skipBlanks [] = [] := rfl

theorem skipBlanks_cons_of_not_blank {c : Char} (h : isBlank c = false) (s : List Char) :
    skipBlanks (c :: s) = c :: s := by
  simp [skipBlanks, List.dropWhile, h]

end StarSchema.Text
