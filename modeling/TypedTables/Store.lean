import TypedTables.Backend
import TypedTables.Store.Limit
import TypedTables.Store.Relation

/-!
# The store in memory

A relational store that interprets the statements of typed tables. It holds tables and views under names, and indexes,
of which only the table and the text are known. The catalog can be read like a table. A statement that is refused
changes nothing. -/

namespace TypedTables

/-- What a name of the store stands for. -/
inductive StoredObject where
  | table (relation : Relation)
  /-- All columns and rows of another table or view. -/
  | view (source : String)

/-- An index of a table. -/
structure StoredIndex where
  name : String
  table : String
  /-- The text of its creation behind the table's name. -/
  text : String
  deriving DecidableEq

/-- The content of a store, in order of creation. -/
structure Store where
  objects : List (String × StoredObject) := []
  indexes : List StoredIndex := []

/-- Why the store refuses a statement. -/
inductive Refusal where
  /-- The text is no statement. -/
  | fault (f : Sql.Fault)
  /-- A condition is nested too deep. -/
  | tooDeep
  /-- A list of columns is too long. -/
  | tooManyColumns (list : String)
  /-- The declaration of a table is wrong. -/
  | flaw (table : String) (f : Flaw)
  | noTable (name : String)
  /-- A view is made of a table that is not there. -/
  | noSource (name : String)
  /-- A view is made of itself. -/
  | circularView (name : String)
  | noColumn (name : String)
  /-- A column that is to be filled is not there. -/
  | noTargetColumn (table column : String)
  | violation (table : String) (v : Violation)
  | tableExists (name : String)
  | viewExists (name : String)
  /-- An index has the name that is to be created. -/
  | indexExists (name : String)
  /-- The name of an index is that of another index. -/
  | indexTaken (name : String)
  /-- The name of an index is that of a table. -/
  | indexNamesTable (name : String)
  /-- The new name of a table is that of something else. -/
  | nameTaken (name : String)
  | reservedName (name : String)
  | writesView (name : String)
  | dropsView (name : String)
  | renamesView (name : String)
  | indexesView
  /-- The table of the catalog stays as it is: it is not to be modified, dropped or indexed. -/
  | fixedCatalog (change : String)
  /-- A view keeps a name from being changed, because it has no meaning for the reason that follows. -/
  | brokenView (name : String) (reason : Refusal)
  /-- A query is executed as if it changed something. -/
  | givesRows
  deriving DecidableEq

/-- The table of the catalog. -/
def catalogName : String := "sqlite_master"

/-- The wording of a refusal. -/
def Refusal.message : Refusal → String
  | fault f => f.message
  | tooDeep => "Expression tree is too large (maximum depth " ++ toString heightLimit ++ ")"
  | tooManyColumns list => "too many columns in " ++ list
  | flaw table f => f.message table
  | noTable name => "no such table: " ++ name
  | noSource name => "no such table: main." ++ name
  | circularView name => "view " ++ name ++ " is circularly defined"
  | noColumn name => "no such column: " ++ name
  | noTargetColumn table column => "table " ++ table ++ " has no column named " ++ column
  | violation table v => v.message table
  | tableExists name => "table " ++ Text.identifier name ++ " already exists"
  | viewExists name => "view " ++ Text.identifier name ++ " already exists"
  | indexExists name => "there is already an index named " ++ name
  | indexTaken name => "index " ++ name ++ " already exists"
  | indexNamesTable name => "there is already a table named " ++ name
  | nameTaken name => "there is already another table or index with this name: " ++ name
  | reservedName name => "object name reserved for internal use: " ++ name
  | writesView name => "cannot modify " ++ name ++ " because it is a view"
  | dropsView name => "use DROP VIEW to delete view " ++ name
  | renamesView name => "view " ++ name ++ " may not be altered"
  | indexesView => "views may not be indexed"
  | fixedCatalog change => "table " ++ catalogName ++ " may not be " ++ change
  | brokenView name reason => "error in view " ++ name ++ ": " ++ reason.message
  | givesRows => "Execute returned results - did you mean to call query?"

namespace Store

/-! ### Names -/

/-- The start of names that are not for tables of users. -/
def reservedStart : String := "sqlite_"

/-- The name is not for tables of users. -/
def isReserved (name : String) : Bool :=
  (Text.stripStart? reservedStart.toList (name.toList.map Char.toLower)).isSome

/-- What a name stands for. -/
def object? (s : Store) (name : String) : Option StoredObject := (s.objects.find? (·.1 = name)).map (·.2)

/-- The names of the table of the catalog. -/
def catalogNames : List String := [catalogName, "sqlite_schema"]

/-- The name is one of the table of the catalog. -/
def isCatalog (name : String) : Bool := catalogNames.any (sameName · name)

/-- The name is that of an index. -/
def isIndex (s : Store) (name : String) : Bool := s.indexes.any (·.name = name)

/-- Refuses a name for a new table or view. -/
def checkNew (s : Store) (name : String) : Except Refusal Unit :=
  if isReserved name then .error (.reservedName name)
  else
    match s.object? name with
    | some (.table _) => .error (.tableExists name)
    | some (.view _) => .error (.viewExists name)
    | none => if s.isIndex name then .error (.indexExists name) else .ok ()

/-- Puts another table in the place of one. -/
def replace (s : Store) (name : String) (relation : Relation) : Store :=
  { s with objects := s.objects.map fun entry => if entry.1 = name then (name, .table relation) else entry }

/-- What the catalog says of a table: the table, and an index for each group of columns that may not repeat. -/
def tableEntries (name : String) (relation : Relation) : List (List Value) :=
  let indexName (i : Nat) := "sqlite_autoindex_" ++ name ++ "_" ++ toString (i + 1)
  [.text "table", .text name, .text name, .text ("CREATE TABLE " ++ Text.identifier name ++ relation.text)] ::
    (List.range relation.groups.length).map fun i => [.text "index", .text (indexName i), .text name, .null]

/-- What the catalog says of all tables, views and indexes, the places of their content being counted from 2 on. -/
def catalogEntries (s : Store) : List (List Value) :=
  s.objects.flatMap (fun entry =>
    match entry.2 with
    | .table relation => tableEntries entry.1 relation
    | .view source =>
      [[.text "view", .text entry.1, .text entry.1, .text (Statement.createView entry.1 source).text]]) ++
    s.indexes.map fun index =>
      let text := "CREATE INDEX " ++ Text.identifier index.name ++ " ON " ++ Text.identifier index.table ++ index.text
      [.text "index", .text index.name, .text index.table, .text text]

/-- The catalog as a table. A view has no content, so its place is 0. -/
def catalogTable (s : Store) : Relation :=
  let entries := s.catalogEntries
  let cells (i : Nat) (entry : List Value) : List Value :=
    let earlier := (entries.take i).filter (·.head? ≠ some (.text "view"))
    let place := if entry.head? = some (.text "view") then 0 else earlier.length + 2
    entry.take 3 ++ .integer (Int64.ofNat place) :: entry.drop 3
  { columns := [⟨"type", "TEXT", .strict, false, false, .null⟩, ⟨"name", "TEXT", .strict, false, false, .null⟩,
      ⟨"tbl_name", "TEXT", .strict, false, false, .null⟩, ⟨"rootpage", "INT", .strict, false, false, .null⟩,
      ⟨"sql", "TEXT", .strict, false, false, .null⟩]
    rows := entries.zipIdx.map fun (entry, i) => ⟨Int64.ofNat (i + 1), cells i entry⟩ }

/-- The table that a chain of views ends in, through at most `depth` of them. A view that occurs a second time is made
    of itself. -/
def source (s : Store) : Nat → List String → String → Except Refusal Relation
  | 0, _, name => .error (.circularView name)
  | depth + 1, seen, name =>
    match s.object? name with
    | some (.table relation) => .ok relation
    | some (.view source) => if name ∈ seen then .error (.circularView name) else s.source depth (name :: seen) source
    | none => if isCatalog name then .ok s.catalogTable else .error (.noSource name)

/-- The table behind a name, through views if it is that of a view. -/
def resolve (s : Store) (name : String) : Except Refusal Relation := s.source (s.objects.length + 2) [] name

/-- The table of a name, or the one that the view of the name is made of. A view does not show the keys of rows. -/
def readable (s : Store) (name : String) : Except Refusal Relation :=
  match s.object? name with
  | some (.table relation) => .ok relation
  | some (.view _) => (s.resolve name).map fun relation => { relation with showsKeys := false }
  | none => if isCatalog name then .ok s.catalogTable else .error (.noTable name)

/-- The table of a name, to be changed. A view has to have a meaning before it is refused as a view. -/
def writable (s : Store) (name : String) : Except Refusal Relation :=
  match s.object? name with
  | some (.table relation) => .ok relation
  | some (.view _) => (s.resolve name).bind fun _ => .error (.writesView name)
  | none => .error (if isCatalog name then .fixedCatalog "modified" else .noTable name)

/-! ### Statements -/

/-- The name of a column with that of its table in front. -/
def qualified (table column : String) : String := table ++ "." ++ column

/-- Refuses the first of some columns that a table lacks. -/
def checkColumns (relation : Relation) (refusal : String → Refusal) (names : List String) : Except Refusal Unit :=
  match relation.missing? names with
  | some name => .error (refusal name)
  | none => .ok ()

/-- The columns that a condition speaks of. -/
def conditionColumns (condition : Option Predicate) : List String :=
  condition.elim [] fun p => p.atoms.map Test.label

/-- Refuses a text that is no statement. -/
def checkText (text : String) : Except Refusal Unit :=
  match Sql.fault? text with
  | some f => .error (.fault f)
  | none => .ok ()

/-- Creates an empty table. Its name is looked at before its columns are. -/
def createTable (s : Store) (table : String) (columns : List ColumnDef) : Except Refusal Store := do
  checkText (Text.identifier table)
  s.checkNew table
  let layout ← (TableLayout.ofText (Statement.createTable table columns).text).mapError (.flaw table)
  pure { s with objects := s.objects ++ [(table, .table { layout with })] }

/-- Creates a view of a table or view, which need not be there yet. -/
def createView (s : Store) (view source : String) : Except Refusal Store := do
  s.checkNew view
  pure { s with objects := s.objects ++ [(view, .view source)] }

/-- The cells of some assignments. -/
def cellsOf (assignments : List Assignment) : List (String × Value) :=
  assignments.map fun a => (a.label, a.operand.value)

/-- Adds rows, given as cells, to a table. -/
def addRows (s : Store) (table : String) (relation : Relation) (rows : List (List (String × Value))) :
    Except Refusal (Store × Nat) := do
  let relation ← (relation.insertEach rows).mapError (.violation table)
  pure (s.replace table relation, rows.length)

/-- Adds a row. -/
def insert (s : Store) (table : String) (cells : List Assignment) : Except Refusal (Store × Nat) := do
  if cells.isEmpty then throw (.fault (.unexpected ")"))
  let relation ← s.writable table
  checkColumns relation (.noTargetColumn table) (cells.map Assignment.label)
  s.addRows table relation [cellsOf cells]

/-- Adds the rows of another table, under the listed columns. -/
def copy (s : Store) (source target : String) (labels : List String) : Except Refusal (Store × Nat) := do
  let relation ← s.writable target
  checkColumns relation (.noTargetColumn target) labels
  let origin ← s.readable source
  checkColumns origin (fun name => .noColumn (qualified source name)) labels
  s.addRows target relation (origin.rows.map fun row => labels.zip (origin.project labels row))

/-- Changes the rows of a key. -/
def update (s : Store) (table : String) (cells : List Assignment) (key : Assignment) :
    Except Refusal (Store × Nat) := do
  if columnLimit < cells.length then throw (.tooManyColumns "set list")
  let relation ← s.writable table
  checkColumns relation .noColumn (cells.map Assignment.label)
  checkColumns relation (fun name => .noColumn (qualified table name)) [key.label]
  let isKey := relation.selects (some (.atom ⟨key.label, .equal, key.operand⟩))
  let (relation, count) ← (relation.update isKey (cellsOf cells)).mapError (.violation table)
  pure (s.replace table relation, count)

/-- Removes rows. -/
def delete (s : Store) (table : String) (condition : Option Predicate) : Except Refusal (Store × Nat) := do
  let relation ← s.writable table
  checkColumns relation (fun name => .noColumn (qualified table name)) (conditionColumns condition)
  let (relation, count) := relation.delete (relation.selects condition)
  pure (s.replace table relation, count)

/-- The rows that a selection asks for. -/
def select (s : Store) (selection : Selection) : Except Refusal (List (List Value)) := do
  let relation ← s.readable selection.table
  if columnLimit < selection.labels.length then throw (.tooManyColumns "result set")
  checkColumns relation (fun name => .noColumn (qualified selection.table name))
    (selection.labels ++ conditionColumns selection.condition)
  pure (relation.select selection)

/-- The first view that has no meaning, and why. The view itself is not counted among those that it is made of. -/
def broken? (s : Store) : Option (String × Refusal) :=
  s.objects.findSome? fun entry =>
    match entry.2 with
    | .view source =>
      match s.resolve source with
      | .error reason => some (entry.1, reason)
      | .ok _ => none
    | .table _ => none

/-- A name after another has been changed. -/
def renamed (source target name : String) : String := if name = source then target else name

/-- Changes the name of a table. Views and indexes of the table follow it. -/
def rename (s : Store) (source target : String) : Except Refusal Store :=
  match s.object? source with
  | none => .error (.noTable source)
  | some object =>
    if (s.object? target).isSome || s.isIndex target then .error (.nameTaken target)
    else if isReserved target then .error (.reservedName target)
    else
      match object, s.broken? with
      | .view _, _ => .error (.renamesView source)
      | _, some (view, reason) => .error (.brokenView view reason)
      | _, none =>
        .ok
          { objects := s.objects.map fun entry =>
              match entry.2 with
              | .table relation => (renamed source target entry.1, .table relation)
              | .view name => (entry.1, .view (renamed source target name))
            indexes := s.indexes.map fun index => { index with table := renamed source target index.table } }

/-- Removes a table and its indexes. -/
def dropTable (s : Store) (table : String) : Except Refusal Store :=
  match s.object? table with
  | none => .error (if isCatalog table then .fixedCatalog "dropped" else .noTable table)
  | some (.view _) => .error (.dropsView table)
  | some (.table _) =>
    .ok
      { objects := s.objects.filter (·.1 ≠ table)
        indexes := s.indexes.filter (·.table ≠ table) }

/-- Adds an index to a table. A constant without a written form reads as the name of a column. -/
def createIndex (s : Store) (index table : String) (terms : IndexTerms) : Except Refusal Store :=
  match s.object? table with
  | none => .error (if isCatalog table then .fixedCatalog "indexed" else .noSource table)
  | some (.view _) => .error .indexesView
  | some (.table relation) =>
    if isReserved index then .error (.reservedName index)
    else if (s.object? index).isSome then .error (.indexNamesTable index)
    else if s.isIndex index then .error (.indexTaken index)
    else if columnLimit < terms.length then .error (.tooManyColumns "index")
    else
      match relation.missing? terms.bareNames with
      | some name => .error (.noColumn name)
      | none =>
        let text := Fragment.text (Piece.fixed " " :: Fragment.tuple terms.fragments)
        .ok { s with indexes := s.indexes ++ [⟨index, table, text⟩] }

/-- Removes the index of a name, if there is one. -/
def dropIndex (s : Store) (index : String) : Store := { s with indexes := s.indexes.filter (·.name ≠ index) }

/-- Refuses a statement whose text is no statement or whose condition is nested too deep. Creating a table has an
    order of its own for this. -/
def check : Statement → Except Refusal Unit
  | .createTable _ _ => .ok ()
  | statement =>
    (checkText statement.text).bind fun _ => if heightLimit < statement.height then .error .tooDeep else .ok ()

/-- Carries out a statement that is one: the store after it and the number of rows that were affected. -/
def perform (s : Store) : Statement → Except Refusal (Store × Nat)
  | .createTable table columns => (s.createTable table columns).map (·, 0)
  | .createView view source => (s.createView view source).map (·, 0)
  | .insert table cells => s.insert table cells
  | .update table cells key => s.update table cells key
  | .select _ => .error .givesRows
  | .delete table condition => s.delete table condition
  | .copy source target labels => s.copy source target labels
  | .rename source target => (s.rename source target).map (·, 0)
  | .dropTable table => (s.dropTable table).map (·, 0)
  | .createIndex index table terms => (s.createIndex index table terms).map (·, 0)
  | .dropIndex index => .ok (s.dropIndex index, 0)

/-- Carries out a statement. -/
def execute (s : Store) (statement : Statement) : Except Refusal (Store × Nat) :=
  (check statement).bind fun _ => s.perform statement

/-- Answers a query. Other statements are carried out and give no rows. -/
def query (s : Store) : Statement → Except Refusal (Store × List (List Value))
  | .select selection => (check (.select selection)).bind fun _ => (s.select selection).map (s, ·)
  | statement => (s.execute statement).map fun result => (result.1, [])

/-! ### The backend -/

/-- The catalog: what has a name for users, in the order of names. -/
def catalog (s : Store) : List TableInfo :=
  let kind : StoredObject → TableKind
    | .table _ => .table
    | .view _ => .view
  ((s.objects.filter (!isReserved ·.1)).map fun entry => ⟨entry.1, kind entry.2⟩).mergeSort fun a b => a.name ≤ b.name

/-- The text by which the columns of a table are asked for. -/
def columnsText : String := "SELECT name FROM pragma_table_info(?1) ORDER BY cid"

/-- The columns of a table or view, none where it is not there. A view of nothing has no columns to be named. The name
    ends at its first NUL. -/
def columnNames (s : Store) (name : String) : Except Refusal (List String) :=
  let name := String.ofList (name.toList.takeWhile (· ≠ '\x00'))
  if (s.object? name).isNone && !isCatalog name then .ok [] else (s.readable name).map Relation.names

/-- What comes of a statement, a refusal as an error that holds the statement's text. -/
def settle {α : Type} (s : Store) (text : String) : Except Refusal (Store × α) → Except Error α × Store
  | .ok (s, a) => (.ok a, s)
  | .error r => (.error (.statement text r.message), s)

/-- The store as a backend. -/
def backend : Backend Store where
  name := "Sqlite"
  listTables := .ofFn fun s => (.ok s.catalog, s)
  listColumns name := .ofFn fun s => s.settle columnsText ((s.columnNames name).map (s, ·))
  execute statement := .ofFn fun s => s.settle statement.text (s.execute statement)
  query statement := .ofFn fun s =>
    s.settle statement.text ((s.query statement).map fun result => (result.1, BufferedCursor.ofRows result.2))

end Store

end TypedTables
