import StarSchema.CharSet.Basic

/-!
# Characters as bytes

The encoding UTF-8 of characters, and of ranges of characters as sequences of ranges of bytes.

Main definitions: `encodeChar`, `ByteRange`, `byteSequences`.
-/

namespace StarSchema

/-- The bytes of a code point. -/
def encodeChar (n : Nat) : List Nat :=
  if n < 0x80 then [n]
  else if n < 0x800 then [0xC0 + n / 0x40, 0x80 + n % 0x40]
  else if n < 0x10000 then [0xE0 + n / 0x1000, 0x80 + n / 0x40 % 0x40, 0x80 + n % 0x40]
  else
    [0xF0 + n / 0x40000, 0x80 + n / 0x1000 % 0x40, 0x80 + n / 0x40 % 0x40, 0x80 + n % 0x40]

/-- The bytes from a first to a last one. -/
structure ByteRange where
  first : Nat
  last : Nat
deriving DecidableEq

/-- Where a range of code points has to be divided because its ends differ in a byte before a
block of a given size and one of them is not an end of such a block: the last code point of the
first part. -/
def blockCut? (first last size : Nat) : Option Nat :=
  if first / size = last / size then none
  else if first % size ≠ 0 then some ((first / size + 1) * size - 1)
  else if last % size ≠ size - 1 then some (last / size * size - 1)
  else none

/-- Where a range of code points has to be divided because its characters differ in their number
of bytes: the last code point of the first part. -/
def lengthCut? (first last : Nat) : Option Nat :=
  [0x7F, 0x7FF, 0xFFFF].find? fun n => first ≤ n && n < last

/-- The last code point of the first part and the first one of the second part of a range that
is no single sequence of ranges of bytes. -/
def cut? (first last : Nat) : Option (Nat × Nat) :=
  if first < 0xE000 ∧ 0xD7FF < last then some (0xD7FF, 0xE000)
  else if last ≤ 0x7F then none
  else
    ((lengthCut? first last).or
      ([0x40, 0x1000, 0x40000].findSome? (blockCut? first last))).map fun n => (n, n + 1)

/-- The sequences of bytes of the characters of a range, in order. -/
def byteSequences (first last : Nat) : List (List ByteRange) :=
  match cut? first last with
  | some (a, b) =>
    if _ : first ≤ last ∧ a < last ∧ first < b then
      byteSequences first a ++ byteSequences b last
    else []
  | none =>
    if first ≤ last then [List.zipWith ByteRange.mk (encodeChar first) (encodeChar last)] else []
termination_by last + 1 - first

end StarSchema
