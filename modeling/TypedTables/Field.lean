import TypedTables.FieldType
import TypedTables.Kinds

/-!
# Fields and columns

A field is a named component of a row with its type and its constraints. A column is a field together with the kind
of its component, so that fields of different types stand in one list. -/

namespace TypedTables

/-- What a column is called and how it is stored. -/
structure ColumnRef where
  label : String
  root : RootType
  deriving DecidableEq, Inhabited

/-- A constraint on the values of a field. -/
inductive Constraint (α : Type) where
  | notNull
  | unique
  /-- The value of a row that gives none. -/
  | default (a : α)

/-- A constraint in one line. -/
def Constraint.outline {α : Type} (value : α → String) : Constraint α → String
  | notNull => "NotNull"
  | unique => "Unique"
  | default a => Text.wrapOutline "Defaulted" (value a)

/-- A constraint on a column, a default given as the stored value. -/
inductive ColumnRule where
  | notNull
  | unique
  | default (root : RootType) (v : Value)
  deriving DecidableEq

/-- The constraint as a table declares it. -/
def ColumnRule.sql : ColumnRule → String
  | notNull => "NOT NULL"
  | unique => "UNIQUE"
  | default root v => "DEFAULT " ++ root.literal v

/-- A named component of rows of type `ρ`. -/
structure Field (ρ α : Type) where
  label : String
  type : FieldType α
  get : ρ → α
  constraints : List (Constraint α) := []

namespace Field

variable {ρ α : Type}

/-- The field's name and root type. -/
def ref (field : Field ρ α) : ColumnRef := ⟨field.label, field.type.root⟩

/-- The field with more constraints behind those it has. -/
def withConstraints (field : Field ρ α) (more : List (Constraint α)) : Field ρ α :=
  { field with constraints := field.constraints ++ more }

/-- The field's constraints with defaults in stored form. -/
def rules (field : Field ρ α) : List ColumnRule :=
  field.constraints.map fun
    | .notNull => .notNull
    | .unique => .unique
    | .default a => .default field.type.root (field.type.encode a)

/-- A field in one line. -/
def outline (value : α → String) (field : Field ρ α) : String :=
  Text.recordOutline "Field"
    [("label", Text.shown field.label), ("type", field.type.outline),
      ("constraints", Text.listOutline (field.constraints.map (Constraint.outline value)))]

/-- The field's value of a row, in stored form. -/
def encodeRow (field : Field ρ α) (row : ρ) : Value := field.type.encode (field.get row)

end Field

/-- A field of any kind. -/
structure Column (κ : Type) [Kinds κ] (ρ : Type) where
  kind : κ
  field : Field ρ (Kinds.carrier kind)

namespace Column

variable {κ ρ : Type} [Kinds κ]

def label (column : Column κ ρ) : String := column.field.label
def root (column : Column κ ρ) : RootType := column.field.type.root
def ref (column : Column κ ρ) : ColumnRef := column.field.ref
def rules (column : Column κ ρ) : List ColumnRule := column.field.rules
def encodeRow (column : Column κ ρ) (row : ρ) : Value := column.field.encodeRow row

/-- A stored value decoded into the column's component. -/
def decode (column : Column κ ρ) (raw : Value) : Except DecodeError (Item κ) :=
  (column.field.type.decode raw).map (Item.mk column.kind)

/-- The field, if its component is of the given kind. -/
def as? (column : Column κ ρ) (kind : κ) : Option (Field ρ (Kinds.carrier kind)) :=
  if h : column.kind = kind then some (h ▸ column.field) else none

end Column

end TypedTables
