import StarSchema.Column
import StarSchema.Declaration.Basic
import StarSchema.Filter.Basic

/-!
# Labels

The label of a row is the text of some of its fields with a separator between them. It stands for
the row wherever a key would mean nothing to a reader.

Main definitions: `Label`, `Label.expr`, `Label.column`, `Label.filter`.
-/

namespace StarSchema

structure Label where
  displayName : String
  table : String
  fields : List String
  separator : String
deriving DecidableEq

namespace Label

/-- The label of the rows of a table. -/
def ofDecl (table : String) (d : LabelDecl) : Label :=
  { table, displayName := d.displayName, fields := d.fields, separator := d.separator }

/-- A text, the separator, and one more field. -/
def join (label : Label) (e : Sql.Expr) (field : String) : Sql.Expr :=
  .binary .concat (.binary .concat e (.string label.separator)) (.column label.table field)

/-- The fields in a row; the empty text if there are none. -/
def expr (label : Label) : Sql.Expr :=
  match label.fields with
  | [] => .string ""
  | field :: fields => fields.foldl label.join (.column label.table field)

def column (label : Label) : Column where
  displayName := label.displayName
  dataType := .str
  format := .str
  expr := label.expr

/-- The filter for a text within the label. -/
def filter (label : Label) : Filter where
  fieldName := label.displayName
  dataType := .str
  operator := .like
  subject := label.expr

end Label

end StarSchema
