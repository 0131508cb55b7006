import Mathlib.Data.List.Basic
import TypedTables.Cursor
import TypedTables.Proofs.FieldType

/-!
# The form that a column gives

A column of numbers turns a value into a number of its own sort where the value is one, and leaves every other value as
it is; a column of text changes bytes only. So a value is given its form once, wherever that is done: a store may keep
its values as its own or hand them back as they are (`coerce_native`), and a field type reads the same from a value
with the form and without (`decode_coerce`). -/

namespace TypedTables

namespace RootType

variable {root : RootType}

theorem sorts (root : RootType) : root.isInteger ∨ root.isFloat ∨ root.isString := by
  cases root <;> simp [isInteger, isFloat, isString]

/-! ### Values of the three sorts of columns -/

theorem coerce_of_isInteger (own : root.isInteger) (v : Value) :
    root.coerce v = (v.integer?.map Value.integer).getD v := by
  cases v with
  | null => rfl
  | integer | real | text =>
    simp [coerce, Readable.isNull, Value.isNull, Readable.integer?, Readable.value, own]

theorem coerce_of_isFloat (own : root.isFloat) (v : Value) : root.coerce v = (v.real?.map Value.real).getD v := by
  cases v with
  | null => rfl
  | integer | real | text =>
    simp [coerce, Readable.isNull, Value.isNull, Readable.real?, Readable.value, own, not_isInteger_of_isFloat own]

theorem coerce_of_isString (own : root.isString) (v : Value) : root.coerce v = v := by
  obtain ⟨integer, float⟩ := not_of_isString own
  cases v with
  | null => rfl
  | integer | real | text =>
    simp [coerce, Readable.isNull, Value.isNull, Readable.text?, Value.text?, Readable.value, integer, float]

theorem integer?_coerce (own : root.isInteger) (v : Value) : (root.coerce v).integer? = v.integer? := by
  rw [coerce_of_isInteger own]
  cases found : v.integer? with
  | none => exact found
  | some i => rfl

theorem real?_coerce (own : root.isFloat) (v : Value) : (root.coerce v).real? = v.real? := by
  rw [coerce_of_isFloat own]
  cases found : v.real? with
  | none => exact found
  | some x => rfl

theorem text?_coerce (own : root.isString) (v : Value) : (root.coerce v).text? = v.text? := by
  rw [coerce_of_isString own]

/-- What a column changes is of its own kind then. -/
theorem coerce_eq_or_holds (root : RootType) (v : Value) :
    root.coerce v = v ∨ v ≠ .null ∧ root.coerce v ≠ .null ∧ root.Holds (root.coerce v) := by
  rcases root.sorts with integer | float | string
  · rw [coerce_of_isInteger integer]
    cases found : v.integer? with
    | none => exact Or.inl rfl
    | some i =>
      have present : v ≠ .null := by
        rintro rfl
        cases found
      exact Or.inr ⟨present, nofun, integer⟩
  · rw [coerce_of_isFloat float]
    cases found : v.real? with
    | none => exact Or.inl rfl
    | some x =>
      have present : v ≠ .null := by
        rintro rfl
        cases found
      exact Or.inr ⟨present, nofun, float⟩
  · exact Or.inl (coerce_of_isString string v)

theorem coerce_eq_null_iff {v : Value} : root.coerce v = .null ↔ v = .null := by
  rcases root.coerce_eq_or_holds v with same | ⟨present, kept, -⟩
  · rw [same]
  · exact iff_of_false kept present

theorem coerce_coerce (root : RootType) (v : Value) : root.coerce (root.coerce v) = root.coerce v := by
  rcases root.coerce_eq_or_holds v with same | ⟨-, -, own⟩
  · rw [same, same]
  · exact coerce_of_holds own

/-! ### Bytes -/

theorem coerce_blob_of_not_isString (other : root.isString = false) (bytes : List UInt8) :
    root.coerce (Stored.blob bytes) = .text (Text.readLossy bytes) := by
  cases root <;> first | rfl | cases other

theorem coerce_blob_of_isString (own : root.isString) (bytes : List UInt8) :
    root.coerce (Stored.blob bytes) = .text ((Text.readStrict bytes).getD (Text.readLossy bytes)) := by
  obtain ⟨integer, float⟩ := not_of_isString own
  cases strict : Text.readStrict bytes <;>
    simp [coerce, Readable.isNull, Readable.text?, Readable.value, integer, float, strict]

end RootType

/-- In bytes that are a text no stretch is replaced. -/
theorem Text.readLossy_of_readStrict {bytes : List UInt8} {s : String} (strict : readStrict bytes = some s) :
    readLossy bytes = s := by
  unfold readStrict at strict
  split at strict
  · next characters =>
    cases strict
    have kept : (units bytes).filterMap id = (units bytes).map (·.getD '\ufffd') := by
      refine List.filterMap_eq_map_iff_forall_eq_some.mpr fun unit among => ?_
      obtain ⟨c, rfl⟩ := Option.isSome_iff_exists.mp (List.all_eq_true.mp characters unit among)
      rfl
    rw [readLossy, kept]
  · cases strict

namespace RootType

theorem coerce_blob (root : RootType) (bytes : List UInt8) :
    root.coerce (Stored.blob bytes) = .text (Text.readLossy bytes) := by
  rcases string : root.isString with - | -
  · exact coerce_blob_of_not_isString string bytes
  · rw [coerce_blob_of_isString string]
    cases strict : Text.readStrict bytes with
    | none => rfl
    | some s => rw [Option.getD_some, Text.readLossy_of_readStrict strict]

/-- No column changes a text. -/
theorem coerce_text (root : RootType) (s : String) : root.coerce (Value.text s) = .text s := by
  rcases root.sorts with integer | float | string
  · exact coerce_of_isInteger integer _
  · exact coerce_of_isFloat float _
  · exact coerce_of_isString string _

theorem coerce_value (root : RootType) (n : Stored) : root.coerce (Readable.value n) = root.coerce n := by
  cases n with
  | plain v => rfl
  | blob bytes => exact (root.coerce_text _).trans (root.coerce_blob bytes).symm

/-- A cursor over rows that a store handed back, each cell kept as a value, reads the cells as they were handed back.
    The form that a column gives is final, is NULL for NULL only, and is the value itself or of the root type's kind. -/
theorem coerce_native (root : RootType) :
    (∀ n : Stored, root.coerce n = root.coerce (Readable.value n)) ∧
      (∀ (row : List Stored) (pending : List (List Value)) (closed : Bool) (index : Nat),
        BufferedCursor.read ⟨pending, some (row.map Readable.value), closed⟩ index root =
          match row[index]? with
          | some n => .ok (root.coerce n)
          | none => .error (.missingColumn index)) ∧
      ∀ v : Value, root.coerce (root.coerce v) = root.coerce v ∧ (root.coerce v = .null ↔ v = .null) ∧
        (root.coerce v = v ∨ root.Holds (root.coerce v)) := by
  refine ⟨fun n => (root.coerce_value n).symm, fun row pending closed index => ?_, fun v => ?_⟩
  · have cell : BufferedCursor.cell? ⟨pending, some (row.map Readable.value), closed⟩ index =
        row[index]?.map Readable.value := List.getElem?_map
    rw [BufferedCursor.read, cell]
    cases row[index]? with
    | none => rfl
    | some n => exact congrArg Except.ok (root.coerce_value n)
  · exact ⟨root.coerce_coerce v, coerce_eq_null_iff, (root.coerce_eq_or_holds v).imp_right fun own => own.2.2⟩

end RootType

/-! ### What is decoded -/

namespace FieldType

variable {α : Type} {root : RootType} {width : String} {least greatest : Int}

theorem integerIn_coerce (own : root.isInteger) (v : Value) :
    integerIn width least greatest (root.coerce v) = integerIn width least greatest v := by
  rw [RootType.coerce_of_isInteger own]
  cases found : v.integer? with
  | none => rfl
  | some i =>
    unfold integerIn
    rw [found]
    rfl

theorem realOf_coerce (own : root.isFloat) (v : Value) : realOf (root.coerce v) = realOf v := by
  rw [RootType.coerce_of_isFloat own]
  cases found : v.real? with
  | none => rfl
  | some x =>
    unfold realOf
    rw [found]
    rfl

theorem isNull_coerce (root : RootType) (v : Value) : (root.coerce v).isNull = v.isNull := by
  rw [Bool.eq_iff_iff, Value.isNull_iff, Value.isNull_iff]
  exact RootType.coerce_eq_null_iff

/-- From the root up: no link sees more of a value than the root gives. -/
theorem read_coerce (type : FieldType α) (v : Value) : type.read (type.root.coerce v) = type.read v := by
  induction type with
  | tinyInt | smallInt | int => exact congrArg (Except.map _) (integerIn_coerce rfl v)
  | bigInt => exact integerIn_coerce rfl v
  | real => exact congrArg (Except.map _) (realOf_coerce rfl v)
  | double => exact realOf_coerce rfl v
  | text | fixedString => rw [RootType.coerce_of_isString rfl]
  | mapped source forward backward ih => rw [read, read, root, ih]
  | optional inner ih => rw [read, read, root, ih, isNull_coerce]

theorem decode_optional_eq_none {type : FieldType α} {v : Value} :
    type.optional.decode v = .ok none ↔ v = .null := by
  rw [decode_eq_ok, read, ← Value.isNull_iff]
  cases v.isNull with
  | true => exact iff_of_true rfl rfl
  | false => cases type.read v <;> simp [Except.map]

/-- A field type decodes a value and the form that its column gives as the same, or refuses both for the same reason.
    Only NULL is decoded as absent in either form. -/
theorem decode_coerce (type : FieldType α) (v : Value) :
    ((∃ a, type.decode (type.root.coerce v) = .ok a ∧ type.decode v = .ok a) ∨
        ∃ e e', type.decode (type.root.coerce v) = .error e ∧ type.decode v = .error e' ∧ e.reason = e'.reason) ∧
      (type.optional.decode (type.optional.root.coerce v) = .ok none ↔ v = .null) := by
  refine ⟨?_, decode_optional_eq_none.trans RootType.coerce_eq_null_iff⟩
  cases found : type.read v with
  | ok a => exact Or.inl ⟨a, decode_eq_ok.mpr ((type.read_coerce v).trans found), decode_eq_ok.mpr found⟩
  | error reason =>
    refine Or.inr ⟨⟨type.root.coerce v, type.root, reason⟩, ⟨v, type.root, reason⟩, ?_, ?_, rfl⟩
    · rw [decode, read_coerce, found]
      rfl
    · rw [decode, found]
      rfl

/-- A whole real is turned into an integer, which is too great for the type in both forms. -/
example : tinyInt.decode (RootType.tinyInt.coerce (Value.real (.ofInt 300))) =
      .error ⟨.integer 300, .tinyInt, .outOfRange 300 "i8"⟩ ∧
    tinyInt.decode (.real (.ofInt 300)) = .error ⟨.real (.ofInt 300), .tinyInt, .outOfRange 300 "i8"⟩ := by
  decide +kernel

end FieldType

end TypedTables
