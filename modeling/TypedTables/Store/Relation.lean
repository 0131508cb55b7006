import TypedTables.Sql.Statement
import TypedTables.Store.Declaration

/-!
# Stored tables

A stored table has a layout and rows. Every row has an integer key, by which the rows are ordered; the values of a column
that is declared as the key of rows are these keys. A row takes each value in the form of its column's affinity, and it
is taken only if nothing stands against it: no required value is missing, then the conditions hold, then its key is new,
then the values of the columns that may not repeat are, the group that was declared last being looked at first. -/

namespace TypedTables

/-- The key of a row, and its cells in the order of the columns. -/
structure StoredRow where
  key : Int64
  cells : List Value
  deriving DecidableEq

/-- A stored table. -/
structure Relation extends TableLayout where
  /-- In the order of their keys. -/
  rows : List StoredRow := []
  /-- The greatest key that was ever given, where automatic keys are not given again. -/
  lastKey : Int64 := 0
  /-- The keys can be asked for under names of their own. -/
  showsKeys : Bool := true

/-- Why the rows of a table cannot be what they were to become. -/
inductive Violation where
  | notNull (column : String)
  | condition (label : String)
  | unique (columns : List String)
  /-- The key is given something that is no integer. -/
  | mismatch
  /-- No key is left that was never given. -/
  | full
  deriving DecidableEq

/-- The wording of a violation in a table. -/
def Violation.message (table : String) : Violation → String
  | notNull column => "NOT NULL constraint failed: " ++ table ++ "." ++ column
  | condition label => "CHECK constraint failed: " ++ label
  | unique columns => "UNIQUE constraint failed: " ++ ", ".intercalate (columns.map fun column => table ++ "." ++ column)
  | mismatch => "datatype mismatch"
  | full => "database or disk is full"

namespace Relation

/-- The names of the columns. -/
def names (r : Relation) : List String := r.columns.map StoredColumn.name

/-- The name is that of the key of a row: of a column that is declared so, or, where no column has it, one that every
    key has. -/
def isKey (r : Relation) (name : String) : Bool :=
  match r.column? name with
  | some column => column.isRowKey
  | none => r.showsKeys && keyNames.any (sameName · name)

/-- The first of some names that is neither that of a column nor that of the key. -/
def missing? (r : Relation) (names : List String) : Option String :=
  names.find? fun name => (r.column? name).isNone && !r.isKey name

/-- The cell of a row under a name, and how it is compared. -/
def cell? (r : Relation) (row : StoredRow) (name : String) : Option Graded :=
  match (List.zip r.columns row.cells).find? fun cell => sameName cell.1.name name with
  | some (column, v) => some ⟨v, column.affinity, some column.collation⟩
  | none => if r.isKey name then some ⟨.integer row.key, .integer, none⟩ else none

/-- The cell of a row under a name, NULL where there is none. -/
def cell (r : Relation) (row : StoredRow) (name : String) : Value := ((r.cell? row name).map Graded.value).getD .null

/-- How the texts of a column are compared. -/
def collation (r : Relation) (name : String) : Collation := ((r.column? name).map StoredColumn.collation).getD .strict

/-- The name of the key in messages. -/
def keyLabel (r : Relation) : String := ((r.columns.find? (·.isRowKey)).map StoredColumn.name).getD "rowid"

/-! ### Constraints -/

/-- Two rows have the same values in a group of columns, NULL being different from itself. -/
def clash (r : Relation) (group : List String) (row other : StoredRow) : Bool :=
  group.all fun name =>
    let v := r.cell row name
    !v.isNull && v.order (r.collation name) (r.cell other name) = .eq

/-- A column that needs a value and has none. -/
def missingValue? (r : Relation) (row : StoredRow) : Option String :=
  ((List.zip r.columns row.cells).find? fun cell => cell.1.notNull && !cell.1.isRowKey && cell.2.isNull).map (·.1.name)

/-- The first condition that is false of a row. -/
def brokenCondition? (r : Relation) (row : StoredRow) : Option String :=
  (r.conditions.find? fun (_, e) => (e.eval (r.cell? row)).value.asTruth = .no).map (·.1)

/-- The group that was declared last of those whose values another row has. -/
def takenGroup? (r : Relation) (others : List StoredRow) (row : StoredRow) : Option (List String) :=
  r.groups.reverse.find? fun group => others.any (r.clash group row)

/-- What stands against a row beside the others. -/
def violation? (r : Relation) (others : List StoredRow) (row : StoredRow) : Option Violation :=
  let sameKey := if others.any (·.key = row.key) then some (Violation.unique [r.keyLabel]) else none
  ((r.missingValue? row).map .notNull).or
    (((r.brokenCondition? row).map .condition).or (sameKey.or ((r.takenGroup? others row).map .unique)))

/-! ### Rows -/

/-- A key that no row has, and that no row had where the keys are automatic. -/
def freshKey (r : Relation) : Except Violation Int64 :=
  let start := if r.isAutomatic then [r.lastKey] else []
  match start ++ r.rows.map StoredRow.key with
  | [] => .ok 1
  | k :: ks =>
    let greatest := ks.foldl max k
    if r.isAutomatic && greatest = Int64.maxValue then .error .full else .ok (greatest + 1)

/-- The value that some cells give the key, the last of several, in the form of a number. -/
def keyOf? (r : Relation) (cells : List (String × Value)) : Option Value :=
  (cells.reverse.find? (r.isKey ·.1)).map fun cell => Affinity.numeric.store cell.2

/-- A row of a key, with values in the form of their columns. -/
def rowOf (r : Relation) (key : Int64) (values : List Value) : StoredRow :=
  ⟨key, List.zipWith (fun column v => if column.isRowKey then .integer key else column.affinity.store v) r.columns values⟩

/-- Puts a row behind those whose key is not greater. -/
def placeRow (row : StoredRow) (rows : List StoredRow) : List StoredRow :=
  rows.takeWhile (·.key ≤ row.key) ++ row :: rows.dropWhile (·.key ≤ row.key)

/-- The values of a new row from some cells, the first of a name, with defaults in the other columns. -/
def complete (r : Relation) (cells : List (String × Value)) : List Value :=
  r.columns.map fun column => ((cells.find? (sameName ·.1 column.name)).map (·.2)).getD column.default

/-- Adds a row made of some cells. Without a key it gets a fresh one. -/
def insert (r : Relation) (cells : List (String × Value)) : Except Violation Relation := do
  let key ← match r.keyOf? cells with
    | none | some .null => r.freshKey
    | some (.integer key) => pure key
    | some _ => throw .mismatch
  let row := r.rowOf key (r.complete cells)
  match r.violation? r.rows row with
  | some v => throw v
  | none => pure { r with rows := placeRow row r.rows, lastKey := max r.lastKey key }

/-- Adds rows one after the other. -/
def insertEach (r : Relation) : List (List (String × Value)) → Except Violation Relation
  | [] => .ok r
  | cells :: rest => do
    let r ← r.insert cells
    r.insertEach rest

/-- The values of a row with some cells replaced, by the last of a name. -/
def replaced (r : Relation) (cells : List (String × Value)) (row : StoredRow) : List Value :=
  List.zipWith (fun column v => ((cells.reverse.find? (sameName ·.1 column.name)).map (·.2)).getD v) r.columns row.cells

/-- A row with some cells replaced. A key is replaced by an integer only. -/
def changed (r : Relation) (cells : List (String × Value)) (row : StoredRow) : Except Violation StoredRow :=
  match r.keyOf? cells with
  | none => .ok (r.rowOf row.key (r.replaced cells row))
  | some (.integer key) => .ok (r.rowOf key (r.replaced cells row))
  | some _ => .error .mismatch

/-- Changes the rows that a condition selects, one after the other. `before` are the rows that are done with, in
    order. The count is that of the rows that were selected. -/
def updateEach (r : Relation) (selects : StoredRow → Bool) (cells : List (String × Value)) (before : List StoredRow) :
    List StoredRow → Except Violation (List StoredRow × Nat)
  | [] => .ok (before, 0)
  | row :: rows => do
    if selects row then
      let row ← r.changed cells row
      match r.violation? (before ++ rows) row with
      | some v => throw v
      | none =>
        let (rows, count) ← updateEach r selects cells (before ++ [row]) rows
        pure (rows, count + 1)
    else updateEach r selects cells (before ++ [row]) rows

/-- Changes the rows that a condition selects and counts them. -/
def update (r : Relation) (selects : StoredRow → Bool) (cells : List (String × Value)) :
    Except Violation (Relation × Nat) := do
  let (rows, count) ← r.updateEach selects cells [] r.rows
  pure ({ r with rows := rows.foldl (fun placed row => placeRow row placed) [] }, count)

/-- Removes the rows that a condition selects and counts them. -/
def delete (r : Relation) (selects : StoredRow → Bool) : Relation × Nat :=
  ({ r with rows := r.rows.filter (!selects ·) }, (r.rows.filter selects).length)

/-! ### Queries -/

/-- The truth of a test of a row. A column that is not there makes nothing true. -/
def testTruth (r : Relation) (row : StoredRow) (t : Test) : Truth :=
  match r.cell? row t.label with
  | some x => Operation.comparison t.comparator x ⟨t.operand.value, .none, none⟩
  | none => .unknown

/-- The test asks for a row by its key. -/
def isLookUp (r : Relation) (t : Test) : Bool := t.comparator = .equal && r.isKey t.label

/-- A row is looked up by an integer; any other operand leads to no row. -/
def leadsToRow (r : Relation) (t : Test) : Bool :=
  if r.isLookUp t then
    match Affinity.numeric.store t.operand.value with
    | .integer _ => true
    | _ => false
  else true

/-- What a predicate demands of every row that it selects: to pass one test of each list. Of a disjunction this is known
    where all its members look up a row. -/
def demands (r : Relation) : Predicate → List (List Test) :=
  Formula.fold (fun t => [[t]]) List.flatten
    (fun parts =>
      let areLookUps (part : List (List Test)) : Bool :=
        match part with
        | [tests] => tests.all r.isLookUp
        | _ => false
      match parts with
      | [part] => part
      | parts => if parts.all areLookUps then [parts.flatten.flatten] else [])
    (fun _ => [])

/-- The rows that a predicate selects: those of which it is true and that its look-ups lead to. -/
def selects (r : Relation) (condition : Option Predicate) (row : StoredRow) : Bool :=
  condition.all fun p =>
    (r.demands p).all (fun tests => tests.any fun t => r.leadsToRow t && (r.testTruth row t).holds) &&
      (Formula.eval (r.testTruth row) p).holds

/-- Rows in the order that is asked for; rows of equal rank keep theirs. -/
def sortRows (r : Relation) (order : SortBy) (rows : List StoredRow) : List StoredRow :=
  let label := order.column.label
  rows.mergeSort fun a b =>
    let place := (r.cell a label).order (r.collation label) (r.cell b label)
    match order.direction with
    | .ascending => place ≠ .gt
    | .descending => place ≠ .lt

/-- At most as many rows as a limit says. A limit below zero is none. -/
def limitRows (limit : Option Binding) (rows : List StoredRow) : List StoredRow :=
  match limit.bind (·.value.integer?) with
  | some n => if n < 0 then rows else rows.take n.toNatClampNeg
  | none => rows

/-- The cells of a row under some names. -/
def project (r : Relation) (names : List String) (row : StoredRow) : List Value := names.map (r.cell row)

/-- The rows that a selection asks for. -/
def select (r : Relation) (s : Selection) : List (List Value) :=
  let rows := r.rows.filter (r.selects s.condition)
  let rows := s.order.elim rows fun order => r.sortRows order rows
  (limitRows s.limit rows).map (r.project s.labels)

end Relation

end TypedTables
