import StarSchema.Sql.Expr

/-!
# Filter operators

How a filter compares its subject with a value. Each operator belongs to one kind of data type
and is one of three tests.

Main definitions: `Operator`, `Operator.appliesTo`, `Operator.predicate`, `likePattern`.
-/

namespace StarSchema

inductive Operator where
  | is | isNot
  | eq | ne | gt | ge | lt | le
  | equals | like | notLike | startsWith | endsWith
  | after | onOrAfter | before | onOrBefore | on | notOn
deriving DecidableEq

/-- What an operator tests. -/
inductive Operator.Test where
  /-- The subject against the value. -/
  | compare (op : Sql.BinaryOp)
  /-- The day of the subject against the value. -/
  | compareDay (op : Sql.BinaryOp)
  /-- Whether the text of the value stands in the subject, with any text before it and after it
  where that is allowed. -/
  | contains (anyBefore anyAfter negated : Bool)

namespace Operator

def all : List Operator :=
  [.is, .isNot, .eq, .ne, .gt, .ge, .lt, .le, .equals, .like, .notLike, .startsWith, .endsWith,
    .after, .onOrAfter, .before, .onOrBefore, .on, .notOn]

def name : Operator → String
  | .is => "is"
  | .isNot => "is_not"
  | .eq => "="
  | .ne => "!="
  | .gt => ">"
  | .ge => ">="
  | .lt => "<"
  | .le => "<="
  | .equals => "equals"
  | .like => "like"
  | .notLike => "not_like"
  | .startsWith => "starts_with"
  | .endsWith => "ends_with"
  | .after => "after"
  | .onOrAfter => "on_or_after"
  | .before => "before"
  | .onOrBefore => "on_or_before"
  | .on => "on"
  | .notOn => "not_on"

/-- The operator of a given name. -/
def ofName? (name : String) : Option Operator :=
  all.find? fun op => op.name == name

/-- What follows the name of a field in the name of its filter. The operator that a type has by
default for plain questions has none. -/
def suffix : Operator → String
  | .is | .like => ""
  | .isNot => "is not"
  | .notLike => "not like"
  | .startsWith => "starts with"
  | .endsWith => "ends with"
  | .onOrAfter => "on or after"
  | .onOrBefore => "on or before"
  | .notOn => "not on"
  | op => op.name

/-- The data types whose values an operator compares. -/
def appliesTo (op : Operator) (t : DataType) : Bool :=
  match op with
  | .is | .isNot => t == .bool
  | .eq | .ne | .gt | .ge | .lt | .le => t.isNumeric
  | .equals | .like | .notLike | .startsWith | .endsWith => t == .str
  | .after | .onOrAfter | .before | .onOrBefore | .on | .notOn => t == .date

/-- The operators of a field that names none. -/
def defaults : DataType → List Operator
  | .date => [.onOrAfter, .onOrBefore]
  | .int | .float => [.ge, .le]
  | .str => [.like]
  | .bool => [.is]

theorem appliesTo_of_mem_defaults {op : Operator} {t : DataType} (h : op ∈ defaults t) :
    op.appliesTo t = true := by
  cases t <;> simp [defaults] at h <;> rcases h with rfl | rfl <;> rfl

def test : Operator → Test
  | .is => .compare .eq
  | .isNot => .compare .ne
  | .eq => .compare .eq
  | .ne => .compare .ne
  | .gt => .compare .gt
  | .ge => .compare .ge
  | .lt => .compare .lt
  | .le => .compare .le
  | .equals => .compare .eq
  | .like => .contains true true false
  | .notLike => .contains true true true
  | .startsWith => .contains false true false
  | .endsWith => .contains true false false
  | .after => .compareDay .gt
  | .onOrAfter => .compareDay .ge
  | .before => .compareDay .lt
  | .onOrBefore => .compareDay .le
  | .on => .compareDay .eq
  | .notOn => .compareDay .ne

end Operator

/-- The character that makes the next one of a pattern literal. -/
def likeEscape : Char := '\\'

/-- The text as a pattern that only the text itself matches. -/
def escapeLike : List Char → List Char
  | [] => []
  | c :: s =>
    if c = '%' ∨ c = '_' ∨ c = likeEscape then likeEscape :: c :: escapeLike s
    else c :: escapeLike s

/-- The wildcard for any text, where it is wanted. -/
def anyText (wanted : Bool) : List Char :=
  if wanted then ['%'] else []

/-- The pattern of a text, with any text before it and after it where that is allowed. -/
def likePattern (anyBefore anyAfter : Bool) (s : List Char) : List Char :=
  anyText anyBefore ++ escapeLike s ++ anyText anyAfter

/-- The condition that the subject passes the test of an operator against a value. -/
def Operator.predicate (op : Operator) (subject : Sql.Expr) (value : Value) : Sql.Expr :=
  match op.test with
  | .compare cmp => .binary cmp subject (.ofValue value)
  | .compareDay cmp => .binary cmp (.dateOf subject) (.ofValue value)
  | .contains anyBefore anyAfter negated =>
    .like subject (.string (String.ofList (likePattern anyBefore anyAfter value.text.toList)))
      likeEscape negated

end StarSchema
