import TypedTables.Sql.Predicate

/-!
# Statements

The statements that typed tables issue, as data. A store interprets them; `Statement.fragment` is how each is
written. Names are always quoted and values always bound, except for the constants of a declaration: column defaults
and the filters of an index are written inline. -/

namespace TypedTables

/-- The declaration of a column. -/
structure ColumnDef where
  label : String
  /-- The declared type. -/
  type : String
  primaryKey : Bool
  rules : List ColumnRule
  deriving DecidableEq

/-- A column's declaration as a statement writes it. -/
def ColumnDef.fragment (c : ColumnDef) : Fragment :=
  .name c.label :: .fixed (" " ++ c.type) :: (if c.primaryKey then [.fixed " PRIMARY KEY"] else []) ++
    c.rules.map fun rule => .fixed (" " ++ rule.sql)

/-- A column of a row and the value to bind there. -/
structure Assignment where
  label : String
  operand : Binding
  deriving DecidableEq

/-- The rows that a query asks for. -/
structure Selection where
  table : String
  labels : List String
  condition : Option Predicate
  order : Option SortBy
  /-- At most so many rows, the count being bound last. -/
  limit : Option Binding

/-- The terms of an index in the order in which they are written. -/
structure IndexTerms where
  filters : List Predicate
  orderings : List SortBy
  labels : List String

/-- A statement. -/
inductive Statement where
  | createTable (table : String) (columns : List ColumnDef)
  | createView (view source : String)
  | insert (table : String) (cells : List Assignment)
  | update (table : String) (cells : List Assignment) (key : Assignment)
  | select (selection : Selection)
  | delete (table : String) (condition : Option Predicate)
  /-- Appends the listed columns of every row of the source. -/
  | copy (source target : String) (labels : List String)
  | rename (source target : String)
  | dropTable (table : String)
  | createIndex (name table : String) (terms : IndexTerms)
  | dropIndex (name : String)

/-- The condition of a statement, if it has one. -/
def Predicate.whereClause (table : String) : Option Predicate → Fragment
  | some p => .fixed " WHERE " :: Predicate.fragment (some table) p
  | none => []

/-- A selection as a statement writes it. -/
def Selection.fragment (s : Selection) : Fragment :=
  [.fixed "SELECT "] ++ Fragment.columns (some s.table) s.labels ++ [.fixed " FROM ", .name s.table] ++
    Predicate.whereClause s.table s.condition ++
    (match s.order with
      | some order => .fixed " ORDER BY " :: order.fragment
      | none => []) ++
    (match s.limit with
      | some count => [.fixed " LIMIT ", .hole count]
      | none => [])

/-- The terms of an index: filters first, then orderings, then columns. -/
def IndexTerms.fragments (terms : IndexTerms) : List Fragment :=
  terms.filters.map (fun p => (Predicate.fragment none p).inline) ++ terms.orderings.map SortBy.fragment ++
    terms.labels.map (Fragment.column none)

namespace Statement

/-- A statement as it is written. -/
def fragment : Statement → Fragment
  | createTable table columns =>
    [.fixed "CREATE TABLE ", .name table, .fixed " "] ++ Fragment.tuple (columns.map ColumnDef.fragment)
  | createView view source =>
    [.fixed "CREATE VIEW ", .name view, .fixed " AS SELECT * FROM ", .name source]
  | insert table cells =>
    [.fixed "INSERT INTO ", .name table, .fixed " "] ++ Fragment.tuple (cells.map fun c => [.name c.label]) ++
      [.fixed " VALUES "] ++ Fragment.tuple (cells.map fun c => [.hole c.operand])
  | update table cells key =>
    [.fixed "UPDATE ", .name table, .fixed " SET "] ++
      Fragment.joined ", " (cells.map fun c => [.name c.label, .fixed " = ", .hole c.operand]) ++
      [.fixed " WHERE "] ++ Fragment.column (some table) key.label ++ [.fixed " = ", .hole key.operand]
  | select selection => selection.fragment
  | delete table condition =>
    [.fixed "DELETE FROM ", .name table] ++ Predicate.whereClause table condition
  | copy source target labels =>
    [.fixed "INSERT INTO ", .name target, .fixed " ("] ++ Fragment.columns none labels ++ [.fixed ") SELECT "] ++
      Fragment.columns (some source) labels ++ [.fixed " FROM ", .name source]
  | rename source target => [.fixed "ALTER TABLE ", .name source, .fixed " RENAME TO ", .name target]
  | dropTable table => [.fixed "DROP TABLE ", .name table]
  | createIndex name table terms =>
    [.fixed "CREATE INDEX ", .name name, .fixed " ON ", .name table, .fixed " "] ++ Fragment.tuple terms.fragments
  | dropIndex name => [.fixed "DROP INDEX IF EXISTS ", .name name]

/-- The text of a statement. -/
def text (s : Statement) : String := s.fragment.text

/-- The values that a statement binds, in the order of their placeholders. -/
def bindings (s : Statement) : List Binding := s.fragment.bindings

/-- The text and the bindings of a statement. -/
def compiled (s : Statement) : Compiled := .ofFragment s.fragment

end Statement

end TypedTables
