import StarSchema.Declaration.Reader
import StarSchema.Model

/-!
# The command line

A command prints what a model file compiles to: the query of a star or of a view, the statements
that create the tables, or the filters of a star.

Main definitions:

* `Invocation`, `Invocation.read?`: what the arguments ask for;
* `Invocation.output`: what it prints, given the text of the model file;
* `CommandError`: why it prints nothing.
-/

namespace StarSchema

inductive Command where
  | star (fact : String)
  | view (name : String)
  | schema
  | filters (fact : String)
deriving DecidableEq

structure Invocation where
  path : String
  dialect? : Option Sql.Dialect
  command : Command
deriving DecidableEq

/-- An argument, with options set apart. -/
inductive Argument where
  | word (s : String)
  /-- A word that follows two hyphens and is no option, whatever it looks like. -/
  | literalWord (s : String)
  | dialect (d : Sql.Dialect)
deriving DecidableEq

namespace Argument

/-- What follows a word at the start of another. -/
def after? (start s : List Char) : Option (List Char) :=
  if start.isPrefixOf s then some (s.drop start.length) else none

/-- An argument that stands for itself: an option with its value attached, or a word. -/
def ofString? (s : String) : Option Argument :=
  let attached? := [("--dialect=".toList), "-d=".toList, "-d".toList].findSome? (after? · s.toList)
  match attached? with
  | some name => (Sql.Dialect.ofName? (String.ofList name)).map .dialect
  | none => if s.startsWith "-" && s != "-" then none else some (.word s)

/-- The arguments in order; none if an option is unknown or lacks a known value. -/
def read? : List String → Option (List Argument)
  | [] => some []
  | "--" :: rest => some (rest.map .literalWord)
  | [s] => if s = "-d" then none else (ofString? s).map ([·])
  | s :: value :: rest =>
    if s = "-d" ∨ s = "--dialect" then do
      return .dialect (← Sql.Dialect.ofName? value) :: (← read? rest)
    else do return (← ofString? s) :: (← read? (value :: rest))

end Argument

namespace Command

def names : List String := ["star", "view", "schema", "filters"]

/-- The command of a name and its operands. -/
def ofWords? : String → List String → Option Command
  | "star", [fact] => some (.star fact)
  | "view", [name] => some (.view name)
  | "schema", [] => some .schema
  | "filters", [fact] => some (.filters fact)
  | _, _ => none

end Command

namespace Invocation

/-- The dialect and the operands among the arguments of a command. The dialect stands there at
most once. -/
def operands? (dialect? : Option Sql.Dialect) :
    List Argument → Option (Option Sql.Dialect × List String)
  | [] => some (dialect?, [])
  | .word s :: rest | .literalWord s :: rest =>
    (operands? dialect? rest).map fun (d?, words) => (d?, s :: words)
  | .dialect d :: rest => if dialect?.isSome then none else operands? (some d) rest

/-- An invocation names a model file and then a command. A dialect may come before the command,
at most once; one that comes after it counts instead. -/
def ofArguments? (path? : Option String) (dialect? : Option Sql.Dialect) :
    List Argument → Option Invocation
  | [] => none
  | .literalWord _ :: _ => none
  | .dialect d :: rest => if dialect?.isSome then none else ofArguments? path? (some d) rest
  | .word s :: rest =>
    match path? with
    | none =>
      if s = "" ∨ s ∈ Command.names then none else ofArguments? (some s) dialect? rest
    | some path => do
      let (inner?, words) ← operands? none rest
      return ⟨path, inner?.or dialect?, ← Command.ofWords? s words⟩

/-- What the arguments of a program ask for; none if they are not used properly. -/
def read? (args : List String) : Option Invocation := do
  ofArguments? none none (← Argument.read? args)

end Invocation

/-- Why a command prints nothing. -/
inductive CommandError where
  | unreadable (path reason : String)
  | malformed
  | model (cause : ModelError)
  | request (cause : RequestError)
deriving DecidableEq

def CommandError.message : CommandError → String
  | .unreadable path reason =>
    "Failed to read configuration file " ++ path ++ ": " ++ reason
  | .malformed => "Failed to parse configuration"
  | .model cause => cause.message
  | .request cause => cause.message

/-- The line that describes a filter. -/
def Filter.line (f : Filter) : String :=
  "\t".intercalate [f.displayName, f.operator.name, f.dataType.name] ++ "\n"

namespace Command

/-- What a command prints about a model. -/
def output (m : Model) (d : Sql.Dialect) : Command → Except RequestError String
  | .star fact => (m.composeStar fact).map fun q => q.sql d ++ "\n"
  | .view name => (m.composeView name).map fun q => q.sql d ++ "\n"
  | .schema => .ok (String.join (m.createStatements.map fun t => t.sql d ++ ";\n\n"))
  | .filters fact => (m.star fact).map fun s => String.join (s.filters.map Filter.line)

end Command

/-- What an invocation prints, given the text of its model file. The dialect of the model counts
unless another is asked for. -/
def Invocation.output (engine : PatternEngine) (i : Invocation) (source : String) :
    Except CommandError String := do
  let some decl := ModelDecl.ofToml? source | throw .malformed
  let m ← (Model.ofDecl engine decl).mapError .model
  (i.command.output m (i.dialect?.getD m.settings.dialect)).mapError .request

end StarSchema
