import TypedTables.Proofs.FieldType

/-!
# Reading back what a chain stores

A chain stores a value by taking it backward through its links from the outside in, and reads it by taking it forward
from the inside out. So it gives the value back if every link on the way gives back what it was given. An optional link
does, as long as what it holds is not stored as NULL itself: a present value that is reads back as absent
(`decode_encode_chain`). -/

namespace TypedTables

namespace RootType

/-- The least and the greatest integer of a root type of integers. -/
def range? : RootType → Option (Int × Int)
  | tinyInt => some (Int8.minValue.toInt, Int8.maxValue.toInt)
  | smallInt => some (Int16.minValue.toInt, Int16.maxValue.toInt)
  | int => some (Int32.minValue.toInt, Int32.maxValue.toInt)
  | bigInt => some (Int64.minValue.toInt, Int64.maxValue.toInt)
  | real | double | text | fixedString _ => none

/-- The value is of the root type's own kind, an integer of its width. -/
def Takes (root : RootType) : Value → Prop
  | .null => False
  | .integer i => ∃ range, root.range? = some range ∧ range.1 ≤ i.toInt ∧ i.toInt ≤ range.2
  | .real _ => root.isFloat
  | .text _ => root.isString

end RootType

namespace FieldType

variable {α : Type}

/-- A link of the chain admits absence. -/
def admitsAbsence {α : Type} : FieldType α → Bool
  | mapped source _ _ => source.admitsAbsence
  | optional _ => true
  | _ => false

/-- Every link that the value goes through gives it back: what is mapped backward is mapped forward again, and what is
    present is not stored as NULL. -/
def Inverts {α : Type} : FieldType α → α → Prop
  | mapped source forward backward, b => forward (backward b) = some b ∧ source.Inverts (backward b)
  | optional inner, some a => inner.encode a ≠ .null ∧ inner.Inverts a
  | _, _ => True

/-! ### What is stored -/

theorem takes_encode (type : FieldType α) (a : α) :
    type.encode a = .null ∧ type.admitsAbsence ∨ type.root.Takes (type.encode a) := by
  induction type with
  | tinyInt =>
    refine Or.inr ⟨_, rfl, ?_⟩
    rw [Int8.toInt_toInt64]
    exact ⟨Int8.minValue_le_toInt a, Int8.toInt_le a⟩
  | smallInt =>
    refine Or.inr ⟨_, rfl, ?_⟩
    rw [Int16.toInt_toInt64]
    exact ⟨Int16.minValue_le_toInt a, Int16.toInt_le a⟩
  | int =>
    refine Or.inr ⟨_, rfl, ?_⟩
    rw [Int32.toInt_toInt64]
    exact ⟨Int32.minValue_le_toInt a, Int32.toInt_le a⟩
  | bigInt => exact Or.inr ⟨_, rfl, Int64.minValue_le_toInt a, Int64.toInt_le a⟩
  | real | double => exact Or.inr rfl
  | text | fixedString n => exact Or.inr rfl
  | mapped source forward backward ih => exact ih (backward a)
  | optional inner ih =>
    cases a with
    | none => exact Or.inl ⟨rfl, rfl⟩
    | some a => exact (ih a).imp_left fun stored => ⟨stored.1, rfl⟩

/-! ### What is read -/

section
variable {width : String} {least greatest : Int} {i : Int64}

theorem integerIn_of_mem (low : least ≤ i.toInt) (high : i.toInt ≤ greatest) :
    integerIn width least greatest (.integer i) = .ok i := if_pos ⟨low, high⟩

theorem integerIn_map {f : Int64 → α} {a : α} (low : least ≤ i.toInt) (high : i.toInt ≤ greatest) (back : f i = a) :
    (integerIn width least greatest (.integer i)).map f = .ok a := by
  rw [integerIn_of_mem low high, Except.map, back]

end

theorem read_mapped {β : Type} {source : FieldType β} {forward : β → Option α} {backward : α → β} {v : Value} {b : β}
    {a : α} (below : source.read v = .ok b) (found : forward b = some a) :
    (mapped source forward backward).read v = .ok a := by
  simp [read, below, found, bind, Except.bind, pure, Except.pure]

theorem read_optional {inner : FieldType α} {v : Value} {a : α} (present : v ≠ .null) (below : inner.read v = .ok a) :
    inner.optional.read v = .ok (some a) := by
  have shown : v.isNull = false := Bool.eq_false_iff.mpr (mt Value.isNull_iff.mp present)
  rw [read, shown, below]
  rfl

/-- From the root up: each link has back what it gave to the link below. -/
theorem read_encode {type : FieldType α} {a : α} (exact : type.root ≠ .real) (inverts : type.Inverts a) :
    type.read (type.encode a) = .ok a := by
  induction type with
  | tinyInt =>
    exact integerIn_map (a.toInt_toInt64.symm ▸ a.minValue_le_toInt) (a.toInt_toInt64.symm ▸ a.toInt_le)
      a.toInt8_toInt64
  | smallInt =>
    exact integerIn_map (a.toInt_toInt64.symm ▸ a.minValue_le_toInt) (a.toInt_toInt64.symm ▸ a.toInt_le)
      a.toInt16_toInt64
  | int =>
    exact integerIn_map (a.toInt_toInt64.symm ▸ a.minValue_le_toInt) (a.toInt_toInt64.symm ▸ a.toInt_le)
      a.toInt32_toInt64
  | bigInt => exact integerIn_of_mem a.minValue_le_toInt a.toInt_le
  | real => exact absurd rfl exact
  | double | text | fixedString n => rfl
  | mapped source forward backward ih =>
    obtain ⟨back, inverts⟩ := inverts
    exact read_mapped (ih exact inverts) back
  | optional inner ih =>
    cases a with
    | none => rfl
    | some a =>
      obtain ⟨present, inverts⟩ := inverts
      exact read_optional present (ih exact inverts)

/-- A chain stores NULL, and only where a link admits absence, or a value of its root's own kind. What it stores is read
    back as it was where every link on the way inverts; a present value that is stored as NULL reads back as absent. -/
theorem decode_encode_chain (type : FieldType α) (a : α) :
    (type.encode a = .null ∧ type.admitsAbsence ∨ type.root.Takes (type.encode a)) ∧
      (type.root ≠ .real → type.Inverts a → type.decode (type.encode a) = .ok a) ∧
      (type.encode a = .null → type.optional.decode (type.optional.encode (some a)) = .ok none) := by
  refine ⟨type.takes_encode a, fun exact inverts => decode_eq_ok.mpr (read_encode exact inverts), fun absent => ?_⟩
  have stored : type.optional.encode (some a) = .null := absent
  rw [stored]
  rfl

/-- Tens from ten on, stored without their zero and counted from one less, which may be absent. -/
def tens : FieldType (Option Int32) := ((int.map (· + 1) (· - 1)).map (· * 10) (· / 10)).optional

/-- Fifty is stored as four, and an absence that is present reads back as absent. -/
theorem decode_encode_tens :
    (tens.encode (some 50) = .integer 4 ∧ tens.Inverts (some 50) ∧
        tens.decode (tens.encode (some 50)) = .ok (some 50)) ∧
      tens.optional.decode (tens.optional.encode (some none)) = .ok none := by
  have inverts : tens.Inverts (some 50) := ⟨by decide, rfl, rfl, trivial⟩
  exact ⟨⟨by decide, inverts, (decode_encode_chain tens (some 50)).2.1 (by decide) inverts⟩,
    (decode_encode_chain tens none).2.2 rfl⟩

end FieldType

end TypedTables
