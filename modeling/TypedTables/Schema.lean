import TypedTables.Index

/-!
# Schemas

A schema declares how rows of a type are stored: the column of the primary key, the other columns in order, how a
row is made from its stored components, the indexes, and the version of the declaration. -/

namespace TypedTables

/-- Decoded components of a row that its factory takes one after the other. -/
structure FieldValues (κ : Type) [Kinds κ] where
  items : List (Item κ)
  /-- How many have been asked for. -/
  index : Nat := 0

namespace FieldValues

variable {κ : Type} [Kinds κ]

/-- Takes the next component as the given kind. The place counts on even where taking fails. -/
def take (values : FieldValues κ) (kind : κ) : Except Error (Kinds.carrier kind) × FieldValues κ :=
  match values.items with
  | [] => (.error (.missingColumn values.index), { values with index := values.index + 1 })
  | item :: items =>
    let result :=
      match item.as? kind with
      | some a => .ok a
      | none => .error (.factoryMismatch values.index (Kinds.name kind))
    (result, ⟨items, values.index + 1⟩)

/-- How many components are left. -/
def remaining (values : FieldValues κ) : Nat := values.items.length

end FieldValues

/-- A walk over components that takes them one after the other, up to the first that cannot be taken. -/
abbrev Taking (κ : Type) [Kinds κ] := ExceptT Error (StateM (FieldValues κ))

namespace Taking

variable {κ α : Type} [Kinds κ]

/-- Takes the next component as the given kind. -/
def take (kind : κ) : Taking κ (Kinds.carrier kind) := ExceptT.mk fun values => values.take kind

/-- What a walk makes of components. -/
def outcome (walk : Taking κ α) (values : FieldValues κ) : Except Error α := (walk.run.run values).1

end Taking

/-- The declaration of how rows of type `ρ` are stored. -/
structure Schema (κ : Type) [Kinds κ] (ρ : Type) where
  key : Column κ ρ
  fields : List (Column κ ρ)
  /-- Makes a row of its key and its other components. -/
  factory : Kinds.carrier key.kind → FieldValues κ → Except Error ρ
  indexes : List Index := []
  version : Int32 := unversioned

namespace Schema

variable {κ ρ : Type} [Kinds κ]

/-- The type of the primary key. -/
abbrev Key (schema : Schema κ ρ) : Type := Kinds.carrier schema.key.kind

/-- Every column, the primary key first. -/
def columns (schema : Schema κ ρ) : List (Column κ ρ) := schema.key :: schema.fields

/-- The names of the columns in order. -/
def labels (schema : Schema κ ρ) : List String := schema.columns.map Column.label

/-- The table is migrated on every call. -/
def isUnversioned (schema : Schema κ ρ) : Bool := schema.version = unversioned

/-- The schema at another version. -/
def withVersion (schema : Schema κ ρ) (version : Int32) : Schema κ ρ := { schema with version := version }

/-- The schema with one more index. -/
def withIndex (schema : Schema κ ρ) (index : Index) : Schema κ ρ := { schema with indexes := schema.indexes ++ [index] }

/-- The schema with other indexes. -/
def withIndexes (schema : Schema κ ρ) (indexes : List Index) : Schema κ ρ := { schema with indexes := indexes }

/-- The first label that an earlier one equals. -/
def repeated? (seen : List String) : List String → Option String
  | [] => none
  | label :: labels => if label ∈ seen then some label else repeated? (label :: seen) labels

/-- Refuses a schema two of whose columns have one name. -/
def validate (schema : Schema κ ρ) : Except Error Unit :=
  match repeated? [] schema.labels with
  | some label => .error (.duplicateColumn label)
  | none => .ok ()

theorem repeated?_eq_none {seen labels : List String} :
    repeated? seen labels = none ↔ labels.Nodup ∧ ∀ label ∈ labels, label ∉ seen := by
  induction labels generalizing seen with
  | nil => simp [repeated?]
  | cons label labels ih =>
    by_cases h : label ∈ seen
    · simp [repeated?, h]
    · simp only [repeated?, h, ite_false, ih, List.nodup_cons, List.mem_cons, forall_eq_or_imp, not_or]
      constructor
      · rintro ⟨distinct, fresh⟩
        exact ⟨⟨fun hl => (fresh label hl).1 rfl, distinct⟩, not_false, fun other ho => (fresh other ho).2⟩
      · rintro ⟨⟨hl, distinct⟩, -, fresh⟩
        exact ⟨distinct, fun other ho => ⟨fun e => hl (e ▸ ho), fresh other ho⟩⟩

/-- A schema is sound if its columns have different names. -/
theorem validate_eq_ok {schema : Schema κ ρ} : schema.validate = .ok () ↔ schema.labels.Nodup := by
  have distinct : repeated? [] schema.labels = none ↔ schema.labels.Nodup := by simp [repeated?_eq_none]
  rw [← distinct, validate]
  split <;> simp_all

theorem validate_eq_error {schema : Schema κ ρ} {e : Error} (h : schema.validate = .error e) :
    ∃ label, e = .duplicateColumn label := by
  unfold validate at h
  split at h
  · next label _ =>
    cases h
    exact ⟨label, rfl⟩
  · cases h

/-- The first column of a name. -/
def column? (schema : Schema κ ρ) (label : String) : Option (Column κ ρ) :=
  schema.columns.find? (·.label = label)

/-- The column of a name, or the error that there is none. -/
def column (schema : Schema κ ρ) (label : String) : Except Error (Column κ ρ) :=
  match schema.column? label with
  | some column => .ok column
  | none => .error (.unknownField label)

/-- The field of a name with a component of the given kind. -/
def field (schema : Schema κ ρ) (kind : κ) (label : String) : Except Error (Field ρ (Kinds.carrier kind)) := do
  let column ← schema.column label
  match column.as? kind with
  | some field => pure field
  | none => throw (.fieldTypeMismatch label (Kinds.name kind))

/-- The stored form of a row. -/
def encodeRow (schema : Schema κ ρ) (row : ρ) : List Value := schema.columns.map (·.encodeRow row)

/-- A row of its key and its other components. -/
def build (schema : Schema κ ρ) (key : schema.Key) (items : List (Item κ)) : Except Error ρ :=
  schema.factory key ⟨items, 0⟩

/-- A failure to decode, as a failure of the named column. -/
def decodeFailure (label : String) (e : DecodeError) : Error := .decode label e.message

/-- The components of the columns from place `i` on, read and decoded one by one up to the first failure. -/
def readItems (read : Nat → RootType → Except Error Value) : Nat → List (Column κ ρ) → Except Error (List (Item κ))
  | _, [] => .ok []
  | i, column :: columns => do
    let raw ← read i column.root
    let item ← (column.decode raw).mapError (decodeFailure column.label)
    let items ← readItems read (i + 1) columns
    pure (item :: items)

/-- A row from the columns of a stored row, which `read` gives: the key first, then the other columns in order, then
    the factory, up to the first failure. -/
def materialise (schema : Schema κ ρ) (read : Nat → RootType → Except Error Value) : Except Error ρ := do
  let raw ← read 0 schema.key.root
  let key ← (schema.key.field.type.decode raw).mapError (decodeFailure schema.key.label)
  let items ← readItems read 1 schema.fields
  schema.build key items

/-- A schema in one line: names and the version. -/
def outline (schema : Schema κ ρ) : String :=
  Text.recordOutline "Schema"
    [("primary_key", Text.shown schema.key.label),
      ("fields", Text.listOutline (schema.fields.map fun c => Text.shown c.label)),
      ("indexes", Text.listOutline (schema.indexes.map fun i => Text.shown i.name)),
      ("version", toString schema.version.toInt)]

end Schema

end TypedTables
