import StarSchema.Declaration.Basic
import StarSchema.Toml.Reader

/-!
# Reading declarations

Declarations as records of a document. Keys that no record has are ignored; a key that is missing
or has a value of another kind makes the whole document unreadable.

Main definitions: `ModelDecl.ofNode?`, `TableDecl.ofNode?`, `ValidatorDecl.ofNode?`,
`ModelDecl.ofToml?`.
-/

namespace StarSchema

/-- A list of which every item can be read. -/
def Node.list? {α : Type} (read : Node → Option α) (node : Node) : Option (List α) := do
  (← node.array?).mapM read

/-- A value by its name. -/
def Node.named? {α : Type} (form : Form) (ofName? : String → Option α) (node : Node) :
    Option α := do
  ofName? (← node.name? form)

/-- An input written in a declaration. An integer beyond the signed 64 bits is a double. -/
def Input.ofNode? : Node → Option Input
  | .bool b => some (.bool b)
  | .str s => some (.str s)
  | .int n =>
    if minInt64 ≤ n ∧ n ≤ maxInt64 then some (.int (Int64.ofInt n))
    else (Node.int n).float?.map .float
  | .float x => some (.float x)
  | _ => none

/-- The kind of a validator: its name, or its number where JSON has been gathered. -/
def Node.validatorKind? (form : Form) : Node → Option String
  | .str kind => some kind
  | .int n =>
    if form = .gatheredJson ∧ 0 ≤ n then
      ["required", "max_length", "range", "pattern"][n.toNat]?
    else none
  | _ => none

/-- A validator is a record that names its kind. -/
def ValidatorDecl.ofNode? (form : Form) (node : Node) : Option ValidatorDecl := do
  let fields (keys : List String) := node.record? form.gathered ("kind" :: keys)
  let kind ← match node with
    | .array (kind :: _) => kind.validatorKind? form
    | _ => (← fields []).required "kind" (Node.validatorKind? form)
  match kind with
  | "required" =>
    let _ ← fields []
    return .required
  | "max_length" =>
    let r ← fields ["max"]
    return .maxLength (← r.required "max" Node.nat64?)
  | "range" =>
    let r ← fields ["min", "max"]
    return .range (← r.optional "min" Node.float?) (← r.optional "max" Node.float?)
  | "pattern" =>
    let r ← fields ["pattern", "message"]
    return .pattern (← r.required "pattern" Node.str?) (← r.optional "message" Node.str?)
  | _ => none

def FieldDecl.ofNode? (form : Form) (node : Node) : Option FieldDecl := do
  let r ← node.record? form ["name", "type", "display_name", "format", "editable", "primary_key",
    "default", "visible", "validator", "dimension", "foreign_key_field", "filter_operators"]
  return {
    name := ← r.required "name" Node.str?
    dataType? := ← r.optional "type" (Node.named? form DataType.ofName?)
    displayName? := ← r.optional "display_name" Node.str?
    format? := ← r.optional "format" (Node.named? form DisplayFormat.ofName?)
    editable := ← r.withDefault "editable" true Node.bool?
    isKey := ← r.withDefault "primary_key" false Node.bool?
    default? := ← r.optional "default" Input.ofNode?
    visible := ← r.withDefault "visible" true Node.bool?
    validator? := ← r.optional "validator" (ValidatorDecl.ofNode? form)
    dimension? := ← r.optional "dimension" Node.str?
    referenced? := ← r.optional "foreign_key_field" Node.str?
    operators? := ← r.optional "filter_operators" (Node.list? (Node.named? form Operator.ofName?)) }

def OrderDecl.ofNode? (form : Form) (node : Node) : Option OrderDecl := do
  let r ← node.record? form ["field", "direction"]
  return {
    field := ← r.required "field" Node.str?
    direction := ← r.withDefault "direction" .asc (Node.named? form Sql.SortDirection.ofName?) }

/-- A table, from the entries of a record that may hold others. -/
def TableDecl.ofRecord? (form : Form) (r : Record) : Option TableDecl := do
  return {
    name := ← r.required "table_name" Node.str?
    displayName? := ← r.optional "display_name" Node.str?
    fields := ← r.required "fields" (Node.list? (FieldDecl.ofNode? form))
    editable := ← r.withDefault "editable" true Node.bool?
    showOnLoad := ← r.withDefault "show_on_load" true Node.bool?
    orderBy := ← r.withDefault "order_by" [] (Node.list? (OrderDecl.ofNode? form))
    displayRows? := ← r.optional "display_rows" Node.nat64? }

def TableDecl.ofNode? (form : Form) (node : Node) : Option TableDecl := do
  TableDecl.ofRecord? form (← node.record? form ["table_name", "display_name", "fields",
    "editable", "show_on_load", "order_by", "display_rows"])

def LabelDecl.ofNode? (form : Form) (node : Node) : Option LabelDecl := do
  let r ← node.record? form ["display_name", "fields", "separator"]
  return {
    displayName := ← r.required "display_name" Node.str?
    fields := ← r.required "fields" (Node.list? Node.str?)
    separator := ← r.withDefault "separator" " " Node.str? }

/-- A table, gathered from the entries that a record has beside those of its role. -/
def TableDecl.gathered? (form : Form) (r : Record) : Option TableDecl := do
  TableDecl.ofRecord? form.gathered (← r.gather?)

def DimensionDecl.ofNode? (form : Form) (node : Node) : Option DimensionDecl := do
  let r ← node.table?
  let table ← TableDecl.gathered? form (r.without ["summary"])
  return ⟨table, ← r.required "summary" (LabelDecl.ofNode? form)⟩

def CalculatedDecl.ofNode? (form : Form) (node : Node) : Option CalculatedDecl := do
  let r ← node.record? form ["display_name", "formula", "show_on_fact_table", "default", "visible"]
  return {
    displayName := ← r.required "display_name" Node.str?
    formula := ← r.required "formula" Node.str?
    shown := ← r.withDefault "show_on_fact_table" true Node.bool?
    default? := ← r.optional "default" Input.ofNode?
    visible := ← r.withDefault "visible" true Node.bool? }

def FactDecl.ofNode? (form : Form) (node : Node) : Option FactDecl := do
  let r ← node.table?
  return {
    table := ← TableDecl.gathered? form (r.without ["calculated_fields"])
    calculated := ← r.withDefault "calculated_fields" []
      (Node.list? (CalculatedDecl.ofNode? form)) }

def LookupDecl.ofNode? (form : Form) (node : Node) : Option LookupDecl := do
  let r ← node.table?
  return {
    table := ← TableDecl.gathered? form (r.without ["proximal_fk", "distal_fk", "summary"])
    proximal := ← r.required "proximal_fk" Node.str?
    distal := ← r.required "distal_fk" Node.str?
    label := ← r.required "summary" (LabelDecl.ofNode? form) }

def AggregateDecl.ofNode? (form : Form) (node : Node) : Option AggregateDecl := do
  let r ← node.record? form ["display_name", "base_field", "aggregate"]
  return {
    displayName := ← r.required "display_name" Node.str?
    base := ← r.required "base_field" Node.str?
    function := ← r.required "aggregate" Node.str? }

def ViewDecl.ofNode? (form : Form) (node : Node) : Option ViewDecl := do
  let r ← node.record? form ["name", "display_name", "fact", "group_by", "aggregates", "order_by"]
  return {
    name := ← r.required "name" Node.str?
    displayName? := ← r.optional "display_name" Node.str?
    fact := ← r.required "fact" Node.str?
    groupBy := ← r.withDefault "group_by" [] (Node.list? Node.str?)
    aggregates := ← r.withDefault "aggregates" [] (Node.list? (AggregateDecl.ofNode? form))
    orderBy := ← r.withDefault "order_by" [] (Node.list? (OrderDecl.ofNode? form)) }

def Settings.ofNode? (form : Form) (node : Node) : Option Settings := do
  let r ← node.record? form ["dialect", "display_rows"]
  return {
    dialect := ← r.withDefault "dialect" .duckdb (Node.named? form Sql.Dialect.ofName?)
    displayRows := ← r.withDefault "display_rows" 1000 Node.nat64? }

def ModelDecl.ofNode? (form : Form) (node : Node) : Option ModelDecl := do
  let r ← node.record? form ["settings", "dimensions", "facts", "lookup_tables", "views"]
  return {
    settings := ← r.withDefault "settings" {} (Settings.ofNode? form)
    dimensions := ← r.withDefault "dimensions" [] (Node.list? (DimensionDecl.ofNode? form))
    facts := ← r.withDefault "facts" [] (Node.list? (FactDecl.ofNode? form))
    lookups := ← r.withDefault "lookup_tables" [] (Node.list? (LookupDecl.ofNode? form))
    views := ← r.withDefault "views" [] (Node.list? (ViewDecl.ofNode? form)) }

/-- The model that a TOML document declares. -/
def ModelDecl.ofToml? (source : String) : Option ModelDecl := do
  ModelDecl.ofNode? .toml (← Toml.read? source)

end StarSchema
