import TypedTables.Schema

/-!
# Statements of a schema

The statements that create, fill, change, ask and empty the table of a schema. The bindings of a row are its columns
in stored form, in the order of the schema. -/

namespace TypedTables

/-- The declaration of a column. -/
def Column.definition {κ ρ : Type} [Kinds κ] (column : Column κ ρ) (primaryKey : Bool) : ColumnDef :=
  ⟨column.label, column.root.sqlType, primaryKey, column.rules⟩

/-- The column of a row with its stored value. -/
def Column.assignment {κ ρ : Type} [Kinds κ] (row : ρ) (column : Column κ ρ) : Assignment :=
  ⟨column.label, column.root, column.encodeRow row⟩

namespace Schema

variable {κ ρ : Type} [Kinds κ]

/-- The declarations of the columns; the first is the primary key. -/
def definitions (schema : Schema κ ρ) : List ColumnDef :=
  schema.key.definition true :: schema.fields.map (·.definition false)

theorem definitions_map {β : Type} {schema : Schema κ ρ} {f : ColumnDef → β} {g : Column κ ρ → β}
    (same : ∀ column ∈ schema.columns, ∀ primaryKey, f (column.definition primaryKey) = g column) :
    schema.definitions.map f = schema.columns.map g := by
  have others : (schema.fields.map (·.definition false)).map f = schema.fields.map g := by
    rw [List.map_map]
    exact List.map_congr_left fun column hc => same column (List.mem_cons_of_mem _ hc) false
  rw [definitions, columns, List.map_cons, List.map_cons, same schema.key List.mem_cons_self, others]

theorem definitions_labels (schema : Schema κ ρ) : schema.definitions.map ColumnDef.label = schema.labels :=
  definitions_map fun _ _ _ => rfl

/-- Creates an empty table. -/
def create (schema : Schema κ ρ) (table : String) : Statement := .createTable table schema.definitions

/-- Adds one row. -/
def insert (schema : Schema κ ρ) (table : String) (row : ρ) : Statement :=
  .insert table (schema.columns.map (Column.assignment row))

/-- Gives the row that has the key of `row` all the values of `row`. -/
def update (schema : Schema κ ρ) (table : String) (row : ρ) : Statement :=
  .update table (schema.columns.map (Column.assignment row)) (schema.key.assignment row)

/-- The predicate of a filter, if there is a filter. -/
def condition : Option Filter → Except Error (Option Predicate)
  | some f => f.predicate.map some
  | none => .ok none

/-- A limit as it is bound: no more than the greatest 64-bit integer. -/
def limitBinding (limit : Nat) : Binding := ⟨.bigInt, .integer (Int64.ofNat (min limit Int64.maxValue.toNatClampNeg))⟩

/-- Asks for the rows that a filter selects, all without one. -/
def select (schema : Schema κ ρ) (table : String) (filter : Option Filter) (order : Option SortBy)
    (limit : Option Nat) : Except Error Statement :=
  (condition filter).map fun p => .select ⟨table, schema.labels, p, order, limit.map limitBinding⟩

/-- The filter that selects the row of a key. -/
def keyFilter (schema : Schema κ ρ) (key : schema.Key) : Filter := .eq schema.key.field key

end Schema

/-- Removes the rows that a filter selects, all without one. -/
def Filter.delete (table : String) (filter : Option Filter) : Except Error Statement :=
  (Schema.condition filter).map (Statement.delete table)

end TypedTables
