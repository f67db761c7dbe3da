import StarSchema.Filter.Operator

/-!
# Declarations

A model as its author writes it down: tables with their fields, the role that each table plays,
and views. Nothing in a declaration has been checked yet.

Main definitions: `FieldDecl`, `TableDecl`, `DimensionDecl`, `FactDecl`, `LookupDecl`,
`ViewDecl`, `Settings`, `ModelDecl`.
-/

namespace StarSchema

/-- A condition on the values of a field. -/
inductive ValidatorDecl where
  | required
  | maxLength (max : UInt64)
  | range (min? max? : Option Binary64)
  | pattern (source : String) (message? : Option String)
deriving DecidableEq

/-- A field of a table. One with a dimension refers to rows of it. -/
structure FieldDecl where
  name : String
  dataType? : Option DataType := none
  displayName? : Option String := none
  format? : Option DisplayFormat := none
  editable : Bool := true
  isKey : Bool := false
  default? : Option Input := none
  visible : Bool := true
  validator? : Option ValidatorDecl := none
  dimension? : Option String := none
  referenced? : Option String := none
  operators? : Option (List Operator) := none
deriving DecidableEq

/-- A key by which rows are ordered. -/
structure OrderDecl where
  field : String
  direction : Sql.SortDirection := .asc
deriving DecidableEq

structure TableDecl where
  name : String
  displayName? : Option String := none
  fields : List FieldDecl
  editable : Bool := true
  showOnLoad : Bool := true
  orderBy : List OrderDecl := []
  displayRows? : Option UInt64 := none
deriving DecidableEq

/-- The label of the rows of a table: some of their fields with a separator between them. -/
structure LabelDecl where
  displayName : String
  fields : List String
  separator : String := " "
deriving DecidableEq

structure DimensionDecl where
  table : TableDecl
  label : LabelDecl
deriving DecidableEq

/-- A field computed from others by a formula. -/
structure CalculatedDecl where
  displayName : String
  formula : String
  shown : Bool := true
  default? : Option Input := none
  visible : Bool := true
deriving DecidableEq

structure FactDecl where
  table : TableDecl
  calculated : List CalculatedDecl := []
deriving DecidableEq

/-- An association of the rows of two dimensions, by two foreign keys of its own. -/
structure LookupDecl where
  table : TableDecl
  proximal : String
  distal : String
  label : LabelDecl
deriving DecidableEq

structure AggregateDecl where
  displayName : String
  base : String
  function : String
deriving DecidableEq

structure ViewDecl where
  name : String
  displayName? : Option String := none
  fact : String
  groupBy : List String := []
  aggregates : List AggregateDecl := []
  orderBy : List OrderDecl := []
deriving DecidableEq

/-- What holds for every table that does not say otherwise. -/
structure Settings where
  dialect : Sql.Dialect := .duckdb
  displayRows : UInt64 := 1000
deriving DecidableEq

structure ModelDecl where
  settings : Settings := {}
  dimensions : List DimensionDecl := []
  facts : List FactDecl := []
  lookups : List LookupDecl := []
  views : List ViewDecl := []
deriving DecidableEq

end StarSchema
