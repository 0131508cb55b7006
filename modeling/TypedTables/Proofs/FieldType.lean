import TypedTables.Field

/-!
# Stored forms

What a field type stores is NULL or of the kind of its root type, however the chain of links is made. So a column of the
root type gives it back as it is. -/

namespace TypedTables

/-- The value is NULL or of the root type's own kind. -/
def RootType.Holds (root : RootType) : Value → Prop
  | .null => True
  | .integer _ => root.isInteger
  | .real _ => root.isFloat
  | .text _ => root.isString

/-- No constant of a column stands for the value: it is NULL, or a real number that is not finite. -/
def Value.isBlank : Value → Bool
  | .null => true
  | .real x => !x.isFinite
  | _ => false

theorem Value.isNull_iff {v : Value} : v.isNull ↔ v = .null := by
  cases v <;> simp [isNull]

theorem FieldType.holds_encode {α : Type} (type : FieldType α) (a : α) : type.root.Holds (type.encode a) := by
  induction type with
  | tinyInt => rfl
  | smallInt => rfl
  | int => rfl
  | bigInt => rfl
  | real => rfl
  | double => rfl
  | text => rfl
  | fixedString n => rfl
  | mapped source forward backward ih => exact ih (backward a)
  | optional inner ih =>
    cases a with
    | none => trivial
    | some a => exact ih a

theorem FieldType.decode_eq_ok {α : Type} {type : FieldType α} {v : Value} {a : α} :
    type.decode v = .ok a ↔ type.read v = .ok a := by
  rw [decode]
  cases type.read v with
  | error e => exact iff_of_false (fun h => nomatch h) fun h => nomatch h
  | ok b => constructor <;> (intro h; cases h; rfl)

/-- The default of a column is what its field type stores. -/
theorem Field.holds_rules {ρ α : Type} (field : Field ρ α) {root : RootType} {v : Value}
    (h : .default root v ∈ field.rules) : root.Holds v := by
  obtain ⟨rule, -, same⟩ := List.mem_map.mp h
  cases rule with
  | notNull => cases same
  | unique => cases same
  | default a =>
    cases same
    exact field.type.holds_encode a

namespace RootType

theorem not_isInteger_of_isFloat {root : RootType} (h : root.isFloat) : root.isInteger = false := by
  cases root <;> first | rfl | cases h

theorem not_of_isString {root : RootType} (h : root.isString) : root.isInteger = false ∧ root.isFloat = false := by
  cases root <;> first | exact ⟨rfl, rfl⟩ | cases h

/-- A constant of the root type's own kind denotes itself, and NULL where it is blank. -/
theorem constant_of_holds {root : RootType} {v : Value} (h : root.Holds v) :
    root.constant v = if v.isBlank then .null else v := by
  cases v with
  | null => rfl
  | integer i =>
    have integer : root.isInteger = true := h
    simp [constant, Value.isNull, Value.isBlank, Value.integer?, integer]
  | real x =>
    have float : root.isFloat = true := h
    have integer := not_isInteger_of_isFloat float
    cases finite : x.isFinite <;>
      simp [constant, Value.isNull, Value.isBlank, Value.real?, integer, float, finite]
  | text s =>
    obtain ⟨integer, float⟩ := not_of_isString h
    simp [constant, Value.isNull, Value.isBlank, integer, float]

/-- A value in the form of a root type is read as it is. -/
theorem coerce_of_holds {root : RootType} {v : Value} (h : root.Holds v) : root.coerce v = v := by
  cases v with
  | null => rfl
  | integer i =>
    have integer : root.isInteger = true := h
    simp [coerce, Readable.isNull, Value.isNull, Readable.integer?, Value.integer?, integer]
  | real x =>
    have float : root.isFloat = true := h
    have integer := not_isInteger_of_isFloat float
    simp [coerce, Readable.isNull, Value.isNull, Readable.real?, Value.real?, integer, float]
  | text s =>
    obtain ⟨integer, float⟩ := not_of_isString h
    simp [coerce, Readable.isNull, Value.isNull, Readable.text?, Value.text?, integer, float]

end RootType

end TypedTables
