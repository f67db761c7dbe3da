import StarSchema.Toml.Node

/-!
# Tables of documents

A document is a list of statements: headers, which choose the table that follows, and entries.
A table may be opened once by its header; tables on the way to it, and tables that dotted keys
make, come into being without one.

Main definitions: `Toml.Statement`, `Toml.Tree`, `Toml.assemble?`.
-/

namespace StarSchema.Toml

/-- The parts of a dotted key; there is at least one. -/
abbrev Path := List String

inductive Statement where
  /-- A header in single brackets. -/
  | header (path : Path)
  /-- A header in double brackets, which adds a table to a list of tables. -/
  | listHeader (path : Path)
  | entry (path : Path) (value : Node)

/-- How a table came into being. -/
inductive Origin where
  /-- On the way to another one. -/
  | implied
  /-- By its own header. -/
  | header
  /-- By a dotted key. -/
  | dotted
deriving DecidableEq

/-- A document under construction. -/
inductive Tree where
  | value (v : Node)
  | table (origin : Origin) (entries : List (String × Tree))
  /-- A list of tables, the one that can still grow first. -/
  | tables (latest : List (String × Tree)) (earlier : List (List (String × Tree)))

abbrev Entries := List (String × Tree)

/-- The entries with the one of a key changed; a new key is added at the end. -/
def alter? (key : String) (f : Option Tree → Option Tree) : Entries → Option Entries
  | [] => (f none).map fun t => [(key, t)]
  | (k, t) :: rest =>
    if k = key then (f (some t)).map fun t' => (k, t') :: rest
    else (alter? key f rest).map ((k, t) :: ·)

/-- The entries of an opened table, changed. Tables that are missing on the way are implied. -/
def inside? (path : Path) (f : Entries → Option Entries) (entries : Entries) : Option Entries :=
  match path with
  | [] => f entries
  | key :: rest =>
    alter? key (fun
      | none => (inside? rest f []).map (.table .implied)
      | some (.table origin es) => (inside? rest f es).map (.table origin)
      | some (.tables latest earlier) => (inside? rest f latest).map (.tables · earlier)
      | some (.value _) => none) entries

/-- The first parts of a path, and the last one. -/
def splitLast? : Path → Option (Path × String)
  | [] => none
  | [key] => some ([], key)
  | key :: rest => (splitLast? rest).map fun (front, last) => (key :: front, last)

/-- Opens the table of a header: a new one, or one that was only implied. -/
def openTable? (path : Path) (root : Entries) : Option Entries := do
  let (front, last) ← splitLast? path
  inside? front (alter? last fun
    | none => some (.table .header [])
    | some (.table .implied es) => some (.table .header es)
    | _ => none) root

/-- Adds a table to a list of tables. -/
def openListTable? (path : Path) (root : Entries) : Option Entries := do
  let (front, last) ← splitLast? path
  inside? front (alter? last fun
    | none => some (.tables [] [])
    | some (.tables latest earlier) => some (.tables [] (latest :: earlier))
    | _ => none) root

/-- Adds an entry under a dotted key. The key may go through tables that have no header of
their own and into the latest table of a list; the entry itself has to be added to a table that
dotted keys made. -/
def insert? (path : Path) (value : Node) (entries : Entries) : Option Entries :=
  match path with
  | [] => none
  | [key] =>
    alter? key (fun
      | none => some (.value value)
      | some _ => none) entries
  | key :: rest =>
    alter? key (fun
      | none => (insert? rest value []).map (.table .dotted)
      | some (.table .dotted es) => (insert? rest value es).map (.table .dotted)
      | some (.table .implied es) =>
        if rest.length = 1 then none else (insert? rest value es).map (.table .implied)
      | some (.tables latest earlier) =>
        if rest.length = 1 then none else (insert? rest value latest).map (.tables · earlier)
      | some _ => none) entries

/-- Carries out the statements, given the table that is open. -/
def build? (current : Path) (root : Entries) : List Statement → Option Entries
  | [] => some root
  | .header path :: rest => do build? path (← openTable? path root) rest
  | .listHeader path :: rest => do build? path (← openListTable? path root) rest
  | .entry path value :: rest => do
    build? current (← inside? current (insert? path value) root) rest

mutual

/-- The finished node of a tree. -/
def Tree.node : Tree → Node
  | .value v => v
  | .table _ entries => .table (entryNodes entries)
  | .tables latest earlier => .array ((tableNodes earlier).reverse ++ [.table (entryNodes latest)])

def entryNodes : List (String × Tree) → List (String × Node)
  | [] => []
  | (k, t) :: rest => (k, t.node) :: entryNodes rest

def tableNodes : List (List (String × Tree)) → List Node
  | [] => []
  | entries :: rest => .table (entryNodes entries) :: tableNodes rest

end

/-- The table of a document. -/
def assemble? (statements : List Statement) : Option Node :=
  (build? [] [] statements).map fun root => .table (entryNodes root)

/-- A table in braces, from its entries. -/
def inlineTable? (entries : List (Path × Node)) : Option Node := do
  let root ← entries.foldlM (fun root (path, value) => insert? path value root) []
  return .table (entryNodes root)

end StarSchema.Toml
