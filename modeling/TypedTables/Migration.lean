import TypedTables.Backend
import TypedTables.Schema.Statements

/-!
# Migrations

Bringing the table of a base to the version of a schema. The plan is made from the catalog; then the statements run
one after the other, and a failure leaves in place what was done before it. What can be refused without touching the
store is refused first: the columns of the source are checked before the destination is created. -/

namespace TypedTables

/-- What a migration that changed the store did. -/
structure Report where
  /-- The name the retired table was given, where it was kept. -/
  backup : Option String
  /-- The version migrated from; that of an unversioned table also where the table is new. -/
  fromVersion : Int32
  toVersion : Int32
  deriving DecidableEq

namespace Migration

variable {κ ρ σ : Type} [Kinds κ]

/-- A column that refuses NULL and has no default. -/
def mustBeFilled (column : Column κ ρ) : Bool :=
  .notNull ∈ column.rules && !column.rules.any fun
    | .default _ _ => true
    | _ => false

/-- The first column that the source lacks although it must be filled. -/
def unfillable? (fields : List (Column κ ρ)) (source : List String) : Option (Column κ ρ) :=
  fields.find? fun column => column.label ∉ source && mustBeFilled column

/-- Refuses a source that lacks the primary key or a column that must be filled. -/
def checkSource (schema : Schema κ ρ) (source : String) (columns : List String) : Except Error Unit :=
  if schema.key.label ∉ columns then .error (.missingPrimaryKey source schema.key.label)
  else
    match unfillable? schema.fields columns with
    | some column => .error (.unfillableColumn source column.label)
    | none => .ok ()

theorem checkSource_eq_error {schema : Schema κ ρ} {source : String} {columns : List String} {e : Error}
    (h : checkSource schema source columns = .error e) :
    e = .missingPrimaryKey source schema.key.label ∨ ∃ label, e = .unfillableColumn source label := by
  unfold checkSource at h
  split at h
  · cases h
    exact Or.inl rfl
  split at h
  · next column _ =>
    cases h
    exact Or.inr ⟨column.label, rfl⟩
  · cases h

theorem unfillable?_eq_none {fields : List (Column κ ρ)} {source : List String} :
    unfillable? fields source = none ↔ ∀ column ∈ fields, column.label ∉ source → mustBeFilled column = false := by
  simp [unfillable?]

/-- A source is accepted that has the primary key and every column that must be filled. -/
theorem checkSource_eq_ok {schema : Schema κ ρ} {source : String} {columns : List String} :
    checkSource schema source columns = .ok () ↔
      schema.key.label ∈ columns ∧
        ∀ column ∈ schema.fields, column.label ∉ columns → mustBeFilled column = false := by
  rw [← unfillable?_eq_none, checkSource]
  by_cases key : schema.key.label ∈ columns
  · simp only [key, not_true_eq_false, if_false, true_and]
    cases unfillable? schema.fields columns <;> simp
  · simp [key]

/-- The columns of the schema that the source has, in the order of the schema. -/
def shared (schema : Schema κ ρ) (columns : List String) : List String := schema.labels.filter (· ∈ columns)

/-- Executes a statement for its effect. -/
def run (backend : Backend σ) (statement : Statement) : Action σ Unit := do
  let _ ← backend.execute statement

/-- Builds the indexes one after the other. Each is dropped first, since a retired table keeps the names of its
    indexes. -/
def buildIndexes (backend : Backend σ) (table : String) : List Index → Action σ Unit
  | [] => pure ()
  | index :: indexes => do
    run backend (index.drop table)
    let statement ← Action.ofExcept (index.create table)
    run backend statement
    buildIndexes backend table indexes

/-- Creates the table and its indexes. -/
def create (backend : Backend σ) (schema : Schema κ ρ) (table : String) : Action σ Unit := do
  run backend (schema.create table)
  buildIndexes backend table schema.indexes

/-- The statement that takes the source out of use: renamed where it is kept, dropped otherwise. -/
def retire (source : String) : Option String → Statement
  | some backup => .rename source backup
  | none => .dropTable source

/-- Fills the destination from the source, retires the source, moves the destination to the active name and builds
    the indexes. -/
def migrate (backend : Backend σ) (schema : Schema κ ρ) (source destination active : String)
    (backup : Option String) : Action σ Unit := do
  let columns ← backend.listColumns source
  Action.ofExcept (checkSource schema source columns)
  run backend (schema.create destination)
  run backend (.copy source destination (shared schema columns))
  run backend (retire source backup)
  if destination ≠ active then run backend (.rename destination active)
  buildIndexes backend active schema.indexes

/-- Carries out a plan. Nothing is reported where nothing had to change. -/
def carryOut (backend : Backend σ) (base : String) (schema : Schema κ ρ) (time : Option Timestamp) :
    Plan → Action σ (Option Report)
  | .skip _ => pure none
  | .create table => do
    Action.during "create table" table (create backend schema table)
    pure (some ⟨none, unversioned, schema.version⟩)
  | .migrate source destination active fromVersion => do
    let backup := time.map (Naming.backup base)
    Action.during "migrate" source (migrate backend schema source destination active backup)
    pure (some ⟨backup, fromVersion, schema.version⟩)

/-- Brings the table of a base to the schema's version. With a time, a table that is replaced is kept under the name
    of a backup made at that time. -/
def bring (backend : Backend σ) (base : String) (schema : Schema κ ρ) (time : Option Timestamp) :
    Action σ (Option Report) := do
  Action.ofExcept schema.validate
  let catalog ← Action.during "migrate" base backend.listTables
  let plan ← Action.ofExcept (Plan.ofCatalog catalog base schema.version)
  carryOut backend base schema time plan

end Migration

end TypedTables
