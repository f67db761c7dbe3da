import StarSchema.Proofs.Sql.Legible
import StarSchema.Sql.Query
import StarSchema.Sql.Statement

/-!
# No text escapes its quotes

A statement, whatever texts stand in it as names and strings, is read by each dialect as its own
tokens: every name and every string comes back as it was given, and none of them ends a quotation,
starts a comment or changes what stands next to it.

Main definitions: `Statement`, `Statement.Plain`.

Main result: `Statement.lex_sql`.
-/

namespace StarSchema.Sql

variable {d : Dialect}

/-! ### Queries -/

structure Query.Plain (q : Query) : Prop where
  select : ∀ item ∈ q.select, item.expr.Plain
  joins : ∀ j ∈ q.joins, j.on.Plain
  where? : ∀ e ∈ q.where?, e.Plain
  groupBy : ∀ e ∈ q.groupBy, e.Plain
  orderBy : ∀ k ∈ q.orderBy, k.expr.Plain

theorem legible_selectItem {item : SelectItem} (h : item.expr.Plain) :
    Legible d (item.tokens d) := by
  have he := item.expr.legible_tokens (d := d) h
  rw [SelectItem.tokens]
  split
  · next name _ => exact he.append ((legible_name name).before .as).space
  · exact he.append trailing_nil

theorem legible_join {j : Join} (h : j.on.Plain) : Legible d (j.tokens d) :=
  ((legible_name j.table).cons ((j.on.legible_tokens h).before .on).space).phrase _

theorem legible_sortKey {k : SortKey} (h : k.expr.Plain) : Legible d (k.tokens d) :=
  (k.expr.legible_tokens h).append (legible_keyword _).space

theorem legible_rowCap (cap : UInt64) : Legible d (d.rowCapTokens cap) := by
  have only : Legible d (Token.before .rows [.keyword .only]) :=
    (legible_keyword .only).before .rows
  have fetched : Legible d (.int cap.toInt64 :: .space :: Token.before .rows [.keyword .only]) :=
    (legible_int _).cons only.space
  rw [Dialect.rowCapTokens]
  split
  · exact (legible_int _).before .limit
  · exact ((legible_int 0).cons (fetched.phrase _).space).before .offset

/-- A clause on a line of its own. -/
theorem Legible.clause {ts : List Token} (k : Keyword) (h : Legible d ts) :
    Trailing d (.newline :: Token.before k ts) :=
  (h.before k).newline

/-- A list of items, each of which is legible. -/
theorem legible_commaList_map {α : Type} {f : α → List Token} {xs : List α}
    (h : ∀ x ∈ xs, Legible d (f x)) : Legible d (Token.commaList (xs.map f)) := by
  refine legible_commaList ?_
  intro ts hts
  obtain ⟨x, hx, rfl⟩ := List.mem_map.mp hts
  exact h x hx

theorem trailing_commaLines_map {α : Type} {f : α → List Token} {xs : List α}
    (h : ∀ x ∈ xs, Legible d (f x)) : Trailing d (Token.commaLines (xs.map f)) := by
  refine trailing_commaLines ?_
  intro ts hts
  obtain ⟨x, hx, rfl⟩ := List.mem_map.mp hts
  exact h x hx

theorem trailing_order {q : Query} (h : q.Plain) : Trailing d (q.orderTokens d) := by
  rw [Query.orderTokens]
  split_ifs
  · exact (legible_commaList_map fun k hk => legible_sortKey (h.orderBy k hk)).clause _
  · exact (legible_null.before _).parenthesized.legible.clause _
  · exact trailing_nil

theorem Query.legible_tokens {q : Query} (h : q.Plain) : Legible d (q.tokens d) := by
  have items : Trailing d (Token.commaLines (q.select.map (SelectItem.tokens d))) :=
    trailing_commaLines_map fun item hitem => legible_selectItem (h.select item hitem)
  have joins : Trailing d (q.joins.flatMap fun j => .newline :: j.tokens d) :=
    .flatMap fun j hj => (legible_join (h.joins j hj)).newline
  rw [Query.tokens]
  refine ((((((legible_keyword .select).cons items).append ?_).append joins).append ?_).append
    ?_).append (trailing_order h) |>.append ?_
  · cases q.from? with
    | none => exact trailing_nil
    | some table => exact (legible_name table).clause .from
  · cases condition : q.where? with
    | none => exact trailing_nil
    | some e => exact (e.legible_tokens (h.where? e condition)).clause .where
  · split_ifs
    · exact trailing_nil
    · exact (legible_commaList_map fun e he => e.legible_tokens (h.groupBy e he)).clause .groupBy
  · cases q.limit? with
    | none => exact trailing_nil
    | some cap => exact (legible_rowCap cap).newline

/-! ### Statements on rows and tables -/

structure Insert.Plain (i : Insert) : Prop where
  rows : ∀ row ∈ i.rows, ∀ e ∈ row, e.Plain

structure Update.Plain (u : Update) : Prop where
  set : ∀ assignment ∈ u.set, assignment.2.Plain
  where? : ∀ e ∈ u.where?, e.Plain

structure Delete.Plain (x : Delete) : Prop where
  where? : ∀ e ∈ x.where?, e.Plain

structure CreateTable.Plain (t : CreateTable) : Prop where
  default? : ∀ c ∈ t.columns, ∀ e ∈ c.default?, e.Plain

theorem trailing_where {condition? : Option Expr} (h : ∀ e ∈ condition?, e.Plain) :
    Trailing d (whereTokens d condition?) := by
  cases condition? with
  | none => exact trailing_nil
  | some e => exact ((e.legible_tokens (h e rfl)).before .where).space

theorem Insert.legible_tokens {i : Insert} (h : i.Plain) : Legible d (i.tokens d) := by
  have columns : Legible d (Token.commaList (i.columns.map ([.name ·]))) :=
    legible_commaList_map fun name _ => legible_name name
  have cells (row : List Expr) (hrow : row ∈ i.rows) :
      Legible d (Token.commaList (row.map (Expr.tokens d))) :=
    legible_commaList_map fun e he => e.legible_tokens (h.rows row hrow e he)
  have rows : Legible d (Token.commaList
      (i.rows.map fun row => Token.parenthesized (Token.commaList (row.map (Expr.tokens d))))) :=
    legible_commaList_map fun row hrow => (cells row hrow).parenthesized.legible
  rw [Insert.tokens]
  refine (((legible_name i.table).phrase [.insert, .into]).append ?_).append ?_
  · split_ifs
    · exact trailing_nil
    · exact columns.parenthesized.legible.space
  · split_ifs
    · exact trailing_nil
    · exact (rows.before .values).space

theorem Update.legible_tokens {u : Update} (h : u.Plain) : Legible d (u.tokens d) := by
  have assignments : Legible d (Token.commaList (u.set.map fun assignment =>
      .name assignment.1 :: .space :: .symbol .eq :: .space :: assignment.2.tokens d)) :=
    legible_commaList_map fun assignment hset =>
      (legible_name assignment.1).cons ((legible_symbol .eq).cons
        (assignment.2.legible_tokens (h.set assignment hset)).space).space
  exact (((legible_name u.table).cons (assignments.before .set).space).before .update).append
    (trailing_where h.where?)

theorem Delete.legible_tokens {x : Delete} (h : x.Plain) : Legible d (x.tokens d) :=
  ((legible_name x.table).phrase [.delete, .from]).append (trailing_where h.where?)

theorem trailing_constraint (c : ColumnConstraint) : Trailing d c.tokens := by
  cases c with
  | primaryKey => exact ((legible_keyword .key).before .primary).space
  | references table column =>
    exact (((legible_name table).cons (legible_name column).parenthesized).before .references).space

theorem legible_columnDef {c : ColumnDef} (h : ∀ e ∈ c.default?, e.Plain) :
    Legible d (c.tokens d) := by
  have declared : Legible d [.name c.name, .space, .columnType c.dataType] :=
    (legible_name c.name).cons (legible_columnType c.dataType).space
  rw [ColumnDef.tokens]
  refine (declared.append ?_).append (.flatMap fun c _ => trailing_constraint c)
  cases default : c.default? with
  | none => exact trailing_nil
  | some e => exact ((e.legible_tokens (h e default)).before .default).space

theorem CreateTable.legible_tokens {t : CreateTable} (h : t.Plain) : Legible d (t.tokens d) := by
  have columns : Trailing d (Token.commaLines (t.columns.map (ColumnDef.tokens d))) :=
    trailing_commaLines_map fun c hc => legible_columnDef (h.default? c hc)
  have body : Legible d (.name t.name :: .space :: Token.parenthesized
      (Token.commaLines (t.columns.map (ColumnDef.tokens d)) ++ [.newline])) :=
    (legible_name t.name).cons
      (columns.legible.append legible_nil.newline).parenthesized.legible.space
  rw [CreateTable.tokens]
  refine (((legible_keyword .table).before .create).append ?_).append body.space
  split_ifs
  · exact (((legible_keyword .exists).before .not).before .if).space
  · exact trailing_nil

/-! ### All statements -/

inductive Statement where
  | query (q : Query)
  | insert (i : Insert)
  | update (u : Update)
  | delete (x : Delete)
  | createTable (t : CreateTable)

namespace Statement

def tokens (d : Dialect) : Statement → List Token
  | .query q => q.tokens d
  | .insert i => i.tokens d
  | .update u => u.tokens d
  | .delete x => x.tokens d
  | .createTable t => t.tokens d

def sql (s : Statement) (d : Dialect) : String :=
  match s with
  | .query q => q.sql d
  | .insert i => i.sql d
  | .update u => u.sql d
  | .delete x => x.sql d
  | .createTable t => t.sql d

/-- The expressions of the statement call known functions only, and its dates are days. -/
def Plain : Statement → Prop
  | .query q => q.Plain
  | .insert i => i.Plain
  | .update u => u.Plain
  | .delete x => x.Plain
  | .createTable t => t.Plain

theorem sql_eq_render (s : Statement) (d : Dialect) : s.sql d = render d (s.tokens d) := by
  cases s <;> rfl

theorem legible_tokens {s : Statement} (h : s.Plain) : Legible d (s.tokens d) := by
  cases s with
  | query q => exact Query.legible_tokens h
  | insert i => exact Insert.legible_tokens h
  | update u => exact Update.legible_tokens h
  | delete x => exact Delete.legible_tokens h
  | createTable t => exact CreateTable.legible_tokens h

/-- **No text escapes its quotes.** The text of a statement is read, by the rules of its dialect,
as what its tokens stand for, one after the other. -/
theorem lex_sql {s : Statement} (h : s.Plain) (d : Dialect) :
    lex d.lexicalRules (s.sql d).toList = some ((s.tokens d).flatMap (Token.lexemes d)) := by
  have read := legible_tokens (d := d) h [] seam_nil
  rw [List.append_nil, lex_nil] at read
  rw [sql_eq_render, render, String.toList_ofList, read]
  simp

/-! ### Texts that try to end their quotation and to open a comment -/

def hostileQuery : Statement :=
  .query {
    select := [⟨.string "\\'; DROP TABLE t; -- é", some "a\"]\x60, (/*"⟩]
    from? := some "" }

def hostileInsert : Statement :=
  .insert { table := "it's", columns := ["a]", "b\""], rows := [[.string "é'; --", .null]] }

def hostileUpdate : Statement :=
  .update {
    table := "t; --"
    set := [("/*", .string "it's\\")]
    where? := some (.binary .eq (.column "t; --" "\x60") (.int (-1))) }

def hostileDelete : Statement :=
  .delete {
    table := "\"; DROP"
    where? := some (.like (.column "\"; DROP" "n") (.string "'--%") '\\' false) }

def hostileTable : Statement :=
  .createTable {
    name := "\x60*/"
    ifNotExists := true
    columns := [{
      name := "it's"
      dataType := .str
      default? := some (.string "'); --")
      constraints := [.primaryKey, .references "[x]" "\"y\""] }] }

/-- A statement of each kind, each in another dialect. -/
theorem lex_sql_hostile :
    (hostileQuery.Plain ∧ lex Dialect.mysql.lexicalRules (hostileQuery.sql .mysql).toList =
      some [.word "SELECT", .string "\\'; DROP TABLE t; -- é", .word "AS",
        .name "a\"]\x60, (/*", .word "FROM", .name ""]) ∧
    (hostileInsert.Plain ∧ lex Dialect.tsql.lexicalRules (hostileInsert.sql .tsql).toList =
      some [.word "INSERT", .word "INTO", .name "it's", .symbol .leftParen, .name "a]",
        .symbol .comma, .name "b\"", .symbol .rightParen, .word "VALUES", .symbol .leftParen,
        .string "é'; --", .symbol .comma, .word "NULL", .symbol .rightParen]) ∧
    (hostileUpdate.Plain ∧ lex Dialect.postgres.lexicalRules (hostileUpdate.sql .postgres).toList =
      some [.word "UPDATE", .name "t; --", .word "SET", .name "/*", .symbol .eq, .string "it's\\",
        .word "WHERE", .name "t; --", .symbol .dot, .name "\x60", .symbol .eq, .number "-1"]) ∧
    (hostileDelete.Plain ∧ lex Dialect.sqlite.lexicalRules (hostileDelete.sql .sqlite).toList =
      some [.word "DELETE", .word "FROM", .name "\"; DROP", .word "WHERE", .name "\"; DROP",
        .symbol .dot, .name "n", .word "LIKE", .string "'--%", .word "ESCAPE", .string "\\"]) ∧
    hostileTable.Plain ∧ lex Dialect.duckdb.lexicalRules (hostileTable.sql .duckdb).toList =
      some [.word "CREATE", .word "TABLE", .word "IF", .word "NOT", .word "EXISTS",
        .name "\x60*/", .symbol .leftParen, .name "it's", .word "VARCHAR", .word "DEFAULT",
        .string "'); --", .word "PRIMARY", .word "KEY", .word "REFERENCES", .name "[x]",
        .symbol .leftParen, .name "\"y\"", .symbol .rightParen, .symbol .rightParen] := by
  have query : hostileQuery.Plain := by
    constructor <;> simp [Expr.string, Expr.Plain, Literal.Plain]
  have insert : hostileInsert.Plain := by
    constructor
    simp [Expr.string, Expr.null, Expr.Plain, Literal.Plain]
  have update : hostileUpdate.Plain := by
    constructor <;> simp [Expr.string, Expr.int, Expr.Plain, Literal.Plain]
  have delete : hostileDelete.Plain := by
    constructor
    simp [Expr.string, Expr.Plain, Literal.Plain]
  have table : hostileTable.Plain := by
    constructor
    simp [Expr.string, Expr.Plain, Literal.Plain]
  exact ⟨⟨query, lex_sql query .mysql⟩, ⟨insert, lex_sql insert .tsql⟩,
    ⟨update, lex_sql update .postgres⟩, ⟨delete, lex_sql delete .sqlite⟩,
    table, lex_sql table .duckdb⟩

end Statement

end StarSchema.Sql
