import StarSchema.Sql.Query
import StarSchema.Value.Basic

/-!
# Columns

What a query can project, order by or filter on: a typed expression with a name for the user.
Every kind of field has a column; all but stored fields are read-only.

Main definitions: `Column`, `Column.selectItem`, `Column.find?`.
-/

namespace StarSchema

structure Column where
  displayName : String
  dataType : DataType
  format : DisplayFormat
  editable : Bool := false
  isKey : Bool := false
  expr : Sql.Expr

namespace Column

/-- The column under its display name. -/
def selectItem (c : Column) : Sql.SelectItem :=
  ⟨c.expr, some c.displayName⟩

/-- The first column of a display name. -/
def find? (columns : List Column) (displayName : String) : Option Column :=
  columns.find? (·.displayName == displayName)

end Column

end StarSchema
