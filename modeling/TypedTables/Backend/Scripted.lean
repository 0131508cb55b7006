import TypedTables.Backend

/-!
# Scripted backends

A backend whose answers are laid down beforehand: a catalog that never changes, a list of counts and a list of row
sets that are handed out one by one, and failures for statements whose text contains a given part. A statement that
fails uses up nothing. -/

namespace TypedTables

/-- A table of the catalog with its columns. -/
structure ScriptedTable where
  info : TableInfo
  columns : List String

/-- A failure for every statement that contains a part. -/
structure ScriptedFailure where
  part : String
  reason : String

/-- The answers to come. -/
structure Script where
  tables : List ScriptedTable := []
  /-- The counts of affected rows, zero when they are used up. -/
  affected : List Nat := []
  /-- The rows of queries, none when they are used up. -/
  rows : List (List (List Value)) := []
  failures : List ScriptedFailure := []
  /-- Why the tables cannot be listed, if they cannot. -/
  tablesFailure : Option String := none
  /-- Why columns cannot be listed, if they cannot. -/
  columnsFailure : Option String := none

namespace Script

/-- The failure of a statement, the first whose part it contains. -/
def failure? (s : Script) (text : String) : Option Error :=
  (s.failures.find? fun f => Text.occursIn f.part text).map fun f => .statement text f.reason

/-- The tables of the catalog. -/
def listTables (s : Script) : Except Error (List TableInfo) :=
  match s.tablesFailure with
  | some reason => .error (.statement "list_tables" reason)
  | none => .ok (s.tables.map ScriptedTable.info)

/-- The columns of the first table of a name, none where there is no table. -/
def listColumns (s : Script) (name : String) : Except Error (List String) :=
  match s.columnsFailure with
  | some reason => .error (.statement "list_columns" reason)
  | none => .ok ((s.tables.find? (·.info.name = name)).elim [] ScriptedTable.columns)

/-- The next count. -/
def execute (s : Script) (text : String) : Except Error Nat × Script :=
  match s.failure? text with
  | some e => (.error e, s)
  | none => (.ok (s.affected.headD 0), { s with affected := s.affected.tail })

/-- The next row set. -/
def query (s : Script) (text : String) : Except Error BufferedCursor × Script :=
  match s.failure? text with
  | some e => (.error e, s)
  | none => (.ok (.ofRows (s.rows.headD [])), { s with rows := s.rows.tail })

/-- The backend that answers by the script. -/
def backend : Backend Script where
  name := "Mock"
  listTables := .ofFn fun s => (s.listTables, s)
  listColumns name := .ofFn fun s => (s.listColumns name, s)
  execute statement := .ofFn fun s => s.execute statement.text
  query statement := .ofFn fun s => s.query statement.text

end Script

end TypedTables
