import Mathlib.Algebra.Order.Field.Rat
import TypedTables.Error
import TypedTables.Proofs.FieldType.Coercion
import TypedTables.Proofs.Number.Exact

/-!
# Values that are read as what they are

A column gives a value in the form of its root type only where the value has that form, and decoding refuses every
other form. So an integer, a real number or a text is read as the one that is stored, or not at all, but for two kinds
of values (`Blurred`): an integer that no real number of 64 bits equals is read from a column of real numbers as the
nearest one, and bytes that are no text are read from a column of text with replacement characters. -/

namespace TypedTables

/-- What a value stands for, however it is kept. -/
inductive Meaning where
  | number (q : ℚ)
  | infinity (negative : Bool)
  | undefined
  | text (s : String)
  deriving DecidableEq

/-! ### Meanings -/

namespace Binary64

def meaning (x : Binary64) : Meaning :=
  if x.isNaN then .undefined
  else if x.isFinite then .number (x.units / one)
  else .infinity x.isNegative

theorem meaning_eq_number {x : Binary64} {i : Int} : x.meaning = .number i ↔ x.isFinite ∧ x.units = i * one := by
  have unit : (one : ℚ) ≠ 0 := by
    rw [one_eq]
    exact_mod_cast Nat.ne_of_gt (Nat.two_pow_pos _)
  have value : (x.units / one : ℚ) = i ↔ x.units = i * one := by
    rw [div_eq_iff unit]
    exact_mod_cast Iff.rfl
  unfold meaning
  split
  · next nan =>
    have infinite : x.isFinite = false := decide_eq_false (Nat.lt_asymm (of_decide_eq_true nan))
    simp [infinite]
  split
  · next finite => simp [finite, value]
  · next infinite => simp [infinite]

/-- An integer is read as a real number of its own value if there is one. -/
theorem meaning_ofInt {i : Int} : (ofInt i).meaning = .number i ↔ ∃ x : Binary64, x.meaning = .number i := by
  constructor
  · exact fun h => ⟨_, h⟩
  · rintro ⟨x, h⟩
    obtain ⟨finite, equal⟩ := meaning_eq_number.mp h
    exact meaning_eq_number.mpr (units_ofInt finite equal)

end Binary64

def Value.meaning? : Value → Option Meaning
  | null => none
  | integer i => some (.number i.toInt)
  | real x => some x.meaning
  | text s => some (.text s)

/-- Bytes stand for a text where every one of them belongs to a character. -/
def Stored.meaning? : Stored → Option Meaning
  | plain v => v.meaning?
  | blob bytes => (Text.readStrict bytes).map .text

theorem Value.meaning?_of_integer? {v : Value} {i : Int64} (h : v.integer? = some i) :
    v.meaning? = some (.number i.toInt) := by
  cases v with
  | null | text s => cases h
  | integer j =>
    cases h
    rfl
  | real x => exact congrArg some (Binary64.meaning_eq_number.mpr (Binary64.units_of_toInt64? h))

/-! ### What a root type sees -/

namespace RootType

variable {root : RootType}

/-- What a value is to a root type, which sees the numbers or the texts only. -/
def sight? (root : RootType) (v : Value) : Option Meaning :=
  if root.isInteger then v.integer?.map fun i => .number i.toInt
  else if root.isFloat then v.real?.map Binary64.meaning
  else v.text?.map .text

theorem sight?_of_isInteger (own : root.isInteger) (v : Value) :
    root.sight? v = v.integer?.map fun i => .number i.toInt := if_pos own

theorem sight?_of_isFloat (own : root.isFloat) (v : Value) : root.sight? v = v.real?.map Binary64.meaning := by
  simp [sight?, own, not_isInteger_of_isFloat own]

theorem sight?_of_isString (own : root.isString) (v : Value) : root.sight? v = v.text?.map .text := by
  obtain ⟨integer, float⟩ := not_of_isString own
  simp [sight?, integer, float]

theorem sight?_text_of_not_isString (other : root.isString = false) (s : String) :
    root.sight? (.text s) = none := by
  cases root <;> first | rfl | cases other

theorem sight?_coerce (v : Value) : root.sight? (root.coerce v) = root.sight? v := by
  rcases root.sorts with integer | float | string
  · rw [sight?_of_isInteger integer, sight?_of_isInteger integer, integer?_coerce integer]
  · rw [sight?_of_isFloat float, sight?_of_isFloat float, real?_coerce float]
  · rw [sight?_of_isString string, sight?_of_isString string, text?_coerce string]

end RootType

/-- A value that a column of the root type gives as another. -/
inductive Blurred : RootType → Stored → Meaning → Prop where
  /-- No real number is the integer. -/
  | rounded {root : RootType} {i : Int64} (float : root.isFloat)
      (inexact : ¬∃ x : Binary64, x.meaning = .number i.toInt) :
      Blurred root (.plain (.integer i)) (Binary64.ofInt64 i).meaning
  /-- The bytes are no text. -/
  | replaced {root : RootType} {bytes : List UInt8} (string : root.isString)
      (malformed : Text.readStrict bytes = none) : Blurred root (.blob bytes) (.text (Text.readLossy bytes))

theorem Blurred.not_isInteger {root : RootType} {v : Stored} {m : Meaning} (blurred : Blurred root v m) :
    root.isInteger = false := by
  cases blurred with
  | rounded float => exact RootType.not_isInteger_of_isFloat float
  | replaced string => exact (RootType.not_of_isString string).1

namespace RootType

variable {root : RootType} {v : Value} {m : Meaning}

theorem blurred_plain : root.sight? (root.coerce v) = some m ∧ v.meaning? ≠ some m ↔ Blurred root (.plain v) m := by
  rw [sight?_coerce]
  constructor
  · rintro ⟨seen, other⟩
    -- A root sees a value of another kind only where it is one of integers or of reals, and the reals are not exact.
    rcases root.sorts with integer | float | string
    · rw [sight?_of_isInteger integer] at seen
      obtain ⟨i, found, rfl⟩ := Option.map_eq_some_iff.mp seen
      exact absurd (v.meaning?_of_integer? found) other
    · rw [sight?_of_isFloat float] at seen
      cases v with
      | null | text s => cases seen
      | real x => exact absurd seen other
      | integer i =>
        cases seen
        exact .rounded float fun exact => other (congrArg some (Binary64.meaning_ofInt.mpr exact).symm)
    · rw [sight?_of_isString string] at seen
      cases v with
      | null | integer i | real x => cases seen
      | text s => exact absurd seen other
  · rintro (⟨float, inexact⟩ | -)
    exact ⟨sight?_of_isFloat float _, fun same => inexact ⟨_, (Option.some.inj same).symm⟩⟩

theorem blurred_blob {bytes : List UInt8} :
    root.sight? (root.coerce (Stored.blob bytes)) = some m ∧ (Stored.blob bytes).meaning? ≠ some m ↔
      Blurred root (.blob bytes) m := by
  rcases string : root.isString with - | -
  · rw [coerce_blob_of_not_isString string, sight?_text_of_not_isString string]
    constructor
    · rintro ⟨seen, -⟩
      cases seen
    · rintro (- | ⟨own, -⟩)
      rw [string] at own
      cases own
  · rw [coerce_blob_of_isString string, sight?_of_isString string]
    constructor
    · rintro ⟨seen, other⟩
      cases seen
      cases strict : Text.readStrict bytes with
      | none => exact .replaced string strict
      | some s =>
        rw [strict] at other
        exact absurd (congrArg (Option.map Meaning.text) strict) other
    · rintro (- | ⟨-, malformed⟩)
      refine ⟨by rw [malformed]; rfl, fun same => ?_⟩
      have absent : (Stored.blob bytes).meaning? = none := congrArg (Option.map Meaning.text) malformed
      rw [absent] at same
      cases same

end RootType

/-! ### What is decoded -/

namespace FieldType

/-- The types whose logical values are the numbers or texts of a root, with what these stand for. Reals of 32 bits,
    which are rounded from those of the store, are not among them. -/
inductive Primitive : {α : Type} → FieldType α → (α → Meaning) → Prop where
  | tinyInt : Primitive tinyInt fun i => .number i.toInt
  | smallInt : Primitive smallInt fun i => .number i.toInt
  | int : Primitive int fun i => .number i.toInt
  | bigInt : Primitive bigInt fun i => .number i.toInt
  | double : Primitive double Binary64.meaning
  | text : Primitive text .text
  | fixedString {length : Nat} : Primitive (fixedString length) .text

variable {α : Type} {type : FieldType α} {denoted : α → Meaning} {v : Value} {a : α} {m : Meaning}

theorem integerIn_eq_ok {width : String} {least greatest : Int} {i : Int64} :
    integerIn width least greatest v = .ok i ↔ v.integer? = some i ∧ least ≤ i.toInt ∧ i.toInt ≤ greatest := by
  unfold integerIn
  cases v.integer? with
  | none => simp
  | some j =>
    simp only [Option.some.injEq]
    by_cases same : j = i
    · subst same
      simp
    · split <;> simp [same]

theorem map_integer?_of_read {width : String} {least greatest : Int} {narrow : Int64 → α} {value : α → Int}
    (kept : ∀ i, least ≤ i.toInt → i.toInt ≤ greatest → value (narrow i) = i.toInt)
    (read : (integerIn width least greatest v).map narrow = .ok a) :
    (v.integer?.map fun i => Meaning.number i.toInt) = some (.number (value a)) := by
  obtain ⟨i, inside, rfl⟩ := eq_ok_of_map read
  obtain ⟨found, low, high⟩ := integerIn_eq_ok.mp inside
  rw [found, kept i low high]
  rfl

theorem realOf_eq_ok {x : Binary64} : realOf v = .ok x ↔ v.real? = some x := by
  unfold realOf
  split <;> simp_all

theorem textOf_eq_ok {s : String} : textOf v = .ok s ↔ v.text? = some s := by
  unfold textOf
  split <;> simp_all

/-- What is decoded is what the root sees, as an integer of the range of a width is kept in the width. -/
theorem sight?_of_decode (primitive : Primitive type denoted) (decoded : type.decode v = .ok a) :
    type.root.sight? v = some (denoted a) := by
  have read := decode_eq_ok.mp decoded
  cases primitive with
  | tinyInt =>
    refine map_integer?_of_read (fun i low high => ?_) read
    rw [Int64.toInt_toInt8, Int.bmod_eq_of_le low (Int.lt_add_one_of_le high)]
  | smallInt =>
    refine map_integer?_of_read (fun i low high => ?_) read
    rw [Int64.toInt_toInt16, Int.bmod_eq_of_le low (Int.lt_add_one_of_le high)]
  | int =>
    refine map_integer?_of_read (fun i low high => ?_) read
    rw [Int64.toInt_toInt32, Int.bmod_eq_of_le low (Int.lt_add_one_of_le high)]
  | bigInt => exact congrArg (Option.map _) (integerIn_eq_ok.mp read).1
  | double => exact congrArg (Option.map _) (realOf_eq_ok.mp read)
  | text | fixedString => exact congrArg (Option.map _) (textOf_eq_ok.mp read)

/-- A root of no integers has no range that a value could miss. -/
theorem exists_decode (primitive : Primitive type denoted) (wide : type.root.isInteger = false)
    (seen : type.root.sight? v = some m) : ∃ a, type.decode v = .ok a ∧ denoted a = m := by
  cases primitive with
  | tinyInt | smallInt | int | bigInt => cases wide
  | double =>
    obtain ⟨x, found, same⟩ := Option.map_eq_some_iff.mp seen
    exact ⟨x, decode_eq_ok.mpr (realOf_eq_ok.mpr found), same⟩
  | text | fixedString =>
    obtain ⟨s, found, same⟩ := Option.map_eq_some_iff.mp seen
    exact ⟨s, decode_eq_ok.mpr (textOf_eq_ok.mpr found), same⟩

theorem decoded_iff_blurred (primitive : Primitive type denoted) (stored : Stored)
    (seen : type.root.sight? v = some m ∧ stored.meaning? ≠ some m ↔ Blurred type.root stored m) :
    (∃ a, type.decode v = .ok a ∧ denoted a = m) ∧ stored.meaning? ≠ some m ↔ Blurred type.root stored m := by
  constructor
  · rintro ⟨⟨a, decoded, rfl⟩, other⟩
    exact seen.mp ⟨sight?_of_decode primitive decoded, other⟩
  · intro blurred
    obtain ⟨sight, other⟩ := seen.mpr blurred
    exact ⟨exists_decode primitive blurred.not_isInteger sight, other⟩

/-- A value is decoded, in the form that its column gives it, as something that it does not stand for exactly where it
    is an integer that no real number equals, decoded as the nearest, or bytes that are no text, decoded with
    replacement characters. -/
theorem misread_iff_blurred (primitive : Primitive type denoted) (m : Meaning) :
    (∀ v : Value, (∃ a, type.decode (type.root.coerce v) = .ok a ∧ denoted a = m) ∧ v.meaning? ≠ some m ↔
        Blurred type.root (.plain v) m) ∧
      ∀ v : Stored, (∃ a, type.decode (type.root.coerce v) = .ok a ∧ denoted a = m) ∧ v.meaning? ≠ some m ↔
        Blurred type.root v m := by
  refine ⟨fun v => decoded_iff_blurred primitive (.plain v) RootType.blurred_plain, fun v => ?_⟩
  cases v with
  | plain v => exact decoded_iff_blurred primitive (.plain v) RootType.blurred_plain
  | blob bytes => exact decoded_iff_blurred primitive (.blob bytes) RootType.blurred_blob

/-- The least positive integer that is no real number of 64 bits. -/
def firstGap : Int64 := 9007199254740993

theorem firstGap_inexact : ¬∃ x : Binary64, x.meaning = .number firstGap.toInt := by
  rw [← Binary64.meaning_ofInt]
  decide +kernel

/-- The integer is decoded as the one before it. -/
theorem firstGap_misread :
    (∃ a, double.decode (RootType.double.coerce (Value.integer firstGap)) = .ok a ∧
        a.meaning = .number 9007199254740992) ∧
      (Value.integer firstGap).meaning? ≠ some (.number 9007199254740992) := by
  have nearest : (Binary64.ofInt64 firstGap).meaning = .number 9007199254740992 := by decide +kernel
  have blurred : Blurred .double (.plain (.integer firstGap)) (.number 9007199254740992) :=
    nearest ▸ .rounded rfl firstGap_inexact
  exact ((misread_iff_blurred .double _).1 _).mpr blurred

/-- Neither an integer that no real number equals nor bytes that are no text are refused. -/
theorem firstGap_and_bytes_decoded :
    (double.decode (RootType.double.coerce (Value.integer firstGap)) = .ok (Binary64.ofInt 9007199254740992) ∧
        (Value.integer firstGap).meaning? ≠ some (Binary64.ofInt 9007199254740992).meaning) ∧
      text.decode (RootType.text.coerce (Stored.blob [0x61, 0xff])) = .ok "a\ufffd" ∧
        (Stored.blob [0x61, 0xff]).meaning? = none := by
  have units : Text.units [0x61, 0xff] = [some (Char.ofNat 0x61), none] := by
    simp [Text.units, Text.firstUnit, Text.multibyte?]
  have strict : Text.readStrict [0x61, 0xff] = none := by simp [Text.readStrict, units]
  have lossy : Text.readLossy [0x61, 0xff] = "a\ufffd" := by
    rw [Text.readLossy, units]
    decide
  have even : Binary64.ofInt64 firstGap = Binary64.ofInt 9007199254740992 := by decide +kernel
  refine ⟨⟨?_, by decide +kernel⟩, ?_, congrArg (Option.map Meaning.text) strict⟩
  · rw [← even]
    rfl
  · rw [RootType.coerce_blob_of_isString rfl, strict, Option.getD_none, lossy]
    rfl

end FieldType

end TypedTables
