import TypedTables.Migration
import TypedTables.QueryResult

/-!
# Typed tables

A table is a base name with a schema. Its operations work on the table that is active at the schema's version, in
whatever backend they are given, and speak of rows and keys; statements are made from the schema. -/

namespace TypedTables

/-- A base name bound to a schema. -/
structure Table (κ : Type) [Kinds κ] (ρ : Type) where
  /-- The base name, without a version. -/
  name : String
  schema : Schema κ ρ

namespace Table

variable {κ ρ σ : Type} [Kinds κ]

/-- The name of the stored table at the schema's version. -/
def active (table : Table κ ρ) : String := Naming.active table.name table.schema.version

/-- Creates the table or brings it to the schema's version. -/
def migrate (backend : Backend σ) (table : Table κ ρ) (backup : Option Timestamp) : Action σ (Option Report) :=
  Migration.bring backend table.name table.schema backup

/-- Drops the active table. -/
def drop (backend : Backend σ) (table : Table κ ρ) : Action σ Unit :=
  Action.during "drop table" table.active (Migration.run backend (.dropTable table.active))

/-- Executes one statement per row, in order, up to the first failure, and adds up the affected rows. -/
def eachRow (backend : Backend σ) (operation target : String) (statement : ρ → Statement) :
    List ρ → Action σ Nat
  | [] => pure 0
  | row :: rows => do
    let affected ← Action.during operation target (backend.execute (statement row))
    let others ← eachRow backend operation target statement rows
    pure (affected + others)

/-- Adds rows, one statement each. -/
def insert (backend : Backend σ) (table : Table κ ρ) (rows : List ρ) : Action σ Nat :=
  eachRow backend "insert into" table.active (table.schema.insert table.active) rows

/-- Adds one row; true if one was added. -/
def insertOne (backend : Backend σ) (table : Table κ ρ) (row : ρ) : Action σ Bool := do
  let count ← table.insert backend [row]
  pure (count = 1)

/-- Replaces rows by their keys, one statement each. A row whose key is not stored has no effect. -/
def update (backend : Backend σ) (table : Table κ ρ) (rows : List ρ) : Action σ Nat :=
  eachRow backend "update" table.active (table.schema.update table.active) rows

/-- Replaces one row; true if one was replaced. -/
def updateOne (backend : Backend σ) (table : Table κ ρ) (row : ρ) : Action σ Bool := do
  let count ← table.update backend [row]
  pure (count = 1)

/-- The rows that a filter selects, ordered and limited where asked. -/
def query (backend : Backend σ) (table : Table κ ρ) (filter : Option Filter) (order : Option SortBy)
    (limit : Option Nat) : Action σ (QueryResult table.schema BufferedCursor) := do
  let statement ← Action.ofExcept (table.schema.select table.active filter order limit)
  let cursor ← Action.during "query" table.active (backend.query statement)
  pure { cursor := cursor }

/-- The row of a key. -/
def queryKey (backend : Backend σ) (table : Table κ ρ) (key : table.schema.Key) : Action σ (Option ρ) := do
  let result ← table.query backend (some (table.schema.keyFilter key)) none (some 1)
  Action.ofExcept result.first.1

/-- Removes the rows that a filter selects, all without one. -/
def delete (backend : Backend σ) (table : Table κ ρ) (filter : Option Filter) : Action σ Nat := do
  let statement ← Action.ofExcept (Filter.delete table.active filter)
  Action.during "delete from" table.active (backend.execute statement)

/-- Removes the row of a key; true if one was removed. -/
def deleteKey (backend : Backend σ) (table : Table κ ρ) (key : table.schema.Key) : Action σ Bool := do
  let count ← table.delete backend (some (table.schema.keyFilter key))
  pure (count = 1)

/-- Removes the row that has the key of `row`. -/
def deleteRow (backend : Backend σ) (table : Table κ ρ) (row : ρ) : Action σ Bool :=
  table.deleteKey backend (table.schema.key.field.get row)

/-- Removes the rows of some keys in one statement, and none for no key. -/
def deleteKeys (backend : Backend σ) (table : Table κ ρ) (keys : List table.schema.Key) : Action σ Nat :=
  if keys.isEmpty then pure 0
  else table.delete backend (some (.any (keys.map table.schema.keyFilter)))

/-- Removes the rows that have the keys of `rows`. -/
def deleteRows (backend : Backend σ) (table : Table κ ρ) (rows : List ρ) : Action σ Nat :=
  table.deleteKeys backend (rows.map table.schema.key.field.get)

end Table

end TypedTables
