import StarSchema.Text.Numeral

/-!
# Nodes of a document

What a configuration document holds, whatever the format it is written in.

Main definitions: `Node`, its views as scalars, lists and tables, and `Form`, the kinds of
documents that it may come from.
-/

namespace StarSchema

inductive Node where
  | null
  | bool (b : Bool)
  | int (n : Int)
  | float (x : Binary64)
  | str (s : String)
  /-- A date or a time; no key of a record has one. -/
  | moment
  | array (items : List Node)
  | table (entries : List (String × Node))

/-- Entries with the keys of a record, and perhaps others. -/
structure Record where
  entries : List (String × Node)

/-- The documents that records come from. What belongs to a table is gathered before it is read,
and then follows rules of its own. -/
inductive Form where
  | toml
  | json
  | gatheredToml
  | gatheredJson
deriving DecidableEq

/-- The form of what has been gathered from a document. -/
def Form.gathered : Form → Form
  | .toml | .gatheredToml => .gatheredToml
  | .json | .gatheredJson => .gatheredJson

/-- Whether the node may stand under a name that is the only key of a table. -/
def Form.isNothing : Form → Node → Bool
  | .toml, .array [] => true
  | .json, .table [] => false
  | _, .table [] => true
  | _, .null => true
  | _, _ => false

namespace Node

instance : Inhabited Node := ⟨.null⟩

def bool? : Node → Option Bool
  | .bool b => some b
  | _ => none

def str? : Node → Option String
  | .str s => some s
  | _ => none

/-- An unsigned integer of 64 bits. -/
def nat64? : Node → Option UInt64
  | .int n => if 0 ≤ n ∧ n < UInt64.size then some (UInt64.ofNat n.toNat) else none
  | _ => none

/-- A number as a double; an integer has to fit in 64 bits, signed or unsigned. -/
def float? : Node → Option Binary64
  | .float x => some x
  | .int n => if minInt64 ≤ n ∧ n < UInt64.size then some (.ofInt n) else none
  | _ => none

def array? : Node → Option (List Node)
  | .array items => some items
  | _ => none

/-- The entries of a table. -/
def table? : Node → Option Record
  | .table entries => some ⟨entries⟩
  | _ => none

/-- The entries of a table, or a list of values in the order of the keys of a record. Only TOML
allows further values in the list. A date or a time is a record without any of the keys. -/
def record? (form : Form) (keys : List String) : Node → Option Record
  | .table entries => some ⟨entries⟩
  | .array items =>
    if form = .toml ∨ items.length ≤ keys.length then some ⟨keys.zip items⟩ else none
  | .moment => some ⟨[]⟩
  | _ => none

/-- A name, or a table with the name as its only key and nothing under it. -/
def name? (form : Form) : Node → Option String
  | .str s => some s
  | .table [(s, node)] => if form.isNothing node then some s else none
  | _ => none

mutual

/-- Whether all integers within the node have 64 bits, signed or unsigned. -/
def isNarrow : Node → Bool
  | .int n => minInt64 ≤ n && n < UInt64.size
  | .array items => areNarrow items
  | .table entries => valuesAreNarrow entries
  | _ => true

def areNarrow : List Node → Bool
  | [] => true
  | item :: rest => item.isNarrow && areNarrow rest

def valuesAreNarrow : List (String × Node) → Bool
  | [] => true
  | (_, value) :: rest => value.isNarrow && valuesAreNarrow rest

end

end Node

namespace Record

variable {α : Type}

/-- The entries with other keys than the given ones. -/
def without (r : Record) (keys : List String) : Record :=
  ⟨r.entries.filter fun (key, _) => !keys.contains key⟩

/-- The record, unless an integer within it has more than 64 bits. -/
def gather? (r : Record) : Option Record :=
  if Node.valuesAreNarrow r.entries then some r else none

@[simp]
theorem mem_without {r : Record} {keys : List String} {entry : String × Node} :
    entry ∈ (r.without keys).entries ↔ entry ∈ r.entries ∧ entry.1 ∉ keys := by
  simp [without]

/-- The value of a key that has to be there. -/
def required (r : Record) (key : String) (read : Node → Option α) : Option α := do
  read (← r.entries.lookup key)

/-- The value of a key that may be missing, in place of which a default stands. -/
def withDefault (r : Record) (key : String) (default : α) (read : Node → Option α) : Option α :=
  match r.entries.lookup key with
  | some node => read node
  | none => some default

/-- The value of a key that may be missing or null. -/
def optional (r : Record) (key : String) (read : Node → Option α) : Option (Option α) :=
  match r.entries.lookup key with
  | some .null => some none
  | some node => (read node).map some
  | none => some none

end Record

end StarSchema
