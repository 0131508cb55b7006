import TypedTables.Proofs.FieldType.Faithful

/-!
# Integers of a width

A type of integers decodes a stored integer, or a real number that is one of 64 bits, where it lies in the range of the
width. Every other value is refused, one that is no integer for its kind and one that lies outside the range for the
integer that it is. So nothing is wrapped, cut off or rounded on the way, and what is decoded is stored again as the
column gave it (`FieldType.decode_integral`). -/

namespace TypedTables

/-! ### Values that are integers -/

namespace Binary64

variable {x : Binary64} {i : Int64}

theorem toInt?_of_units {n : Int} (finite : x.isFinite) (equal : x.units = n * one) : x.toInt? = some n := by
  have unit : one ≠ 0 := by
    rw [one_eq]
    exact Int.natCast_ne_zero.mpr (Nat.ne_of_gt (Nat.two_pow_pos _))
  have whole : x.units % one = 0 := by rw [equal, Int.mul_emod_left]
  rw [toInt?, if_pos ⟨finite, whole⟩, equal, Int.mul_ediv_cancel n unit]

/-- A real number gives the integer that is its exact value. -/
theorem toInt64?_eq_some_iff : x.toInt64? = some i ↔ x.meaning = .number i.toInt := by
  rw [meaning_eq_number]
  constructor
  · exact units_of_toInt64?
  · rintro ⟨finite, equal⟩
    rw [toInt64?, toInt?_of_units finite equal, Option.bind_some, if_pos ⟨i.minValue_le_toInt, i.toInt_le⟩,
      Int64.ofInt_toInt]

end Binary64

namespace Value

/-- The value is the integer, as one or as a real number that equals one of 64 bits. -/
inductive IsInteger : Value → Int → Prop where
  | integer (i : Int64) : IsInteger (.integer i) i.toInt
  | real {x : Binary64} {n : Int} (exact : x.meaning = .number n) (low : -2 ^ 63 ≤ n) (high : n < 2 ^ 63) :
      IsInteger (.real x) n

variable {v : Value} {n : Int}

theorem isInteger_iff : v.IsInteger n ↔ ∃ i, v.integer? = some i ∧ i.toInt = n := by
  constructor
  · rintro (i | ⟨exact, low, high⟩)
    · exact ⟨i, rfl, rfl⟩
    · have kept : (Int64.ofInt n).toInt = n := Int64.toInt_ofInt_of_le low high
      refine ⟨Int64.ofInt n, Binary64.toInt64?_eq_some_iff.mpr ?_, kept⟩
      rw [kept, exact]
  · rintro ⟨i, found, rfl⟩
    cases v with
    | null | text s => cases found
    | integer j =>
      cases found
      exact .integer i
    | real x =>
      have high : i.toInt < 2 ^ 63 := Int.lt_of_le_of_lt i.toInt_le (by decide)
      exact .real (Binary64.toInt64?_eq_some_iff.mp found) i.minValue_le_toInt high

end Value

namespace FieldType

/-- The types of integers, with the integer that a logical value is and the bits of the width. -/
inductive Integral : {α : Type} → FieldType α → (α → Int) → Nat → Prop where
  | tinyInt : Integral tinyInt Int8.toInt 8
  | smallInt : Integral smallInt Int16.toInt 16
  | int : Integral int Int32.toInt 32
  | bigInt : Integral bigInt Int64.toInt 64

/-- The integer has a place in the width. -/
def InWidth (bits : Nat) (n : Int) : Prop := -2 ^ (bits - 1) ≤ n ∧ n < 2 ^ (bits - 1)

instance (bits : Nat) (n : Int) : Decidable (InWidth bits n) := inferInstanceAs (Decidable (_ ∧ _))

variable {α : Type} {type : FieldType α} {value : α → Int} {bits : Nat} {v : Value} {n : Int}

theorem Integral.isInteger (integral : Integral type value bits) : type.root.isInteger := by
  cases integral <;> rfl

/-- A type of integers checks the range of its width, and what passes is kept in the width. -/
theorem Integral.read_eq (integral : Integral type value bits) :
    ∃ narrow : Int64 → α,
      (∀ v, type.read v =
        (integerIn ("i" ++ toString bits) (-2 ^ (bits - 1)) (2 ^ (bits - 1) - 1) v).map narrow) ∧
      ∀ i : Int64, InWidth bits i.toInt → value (narrow i) = i.toInt ∧ type.encode (narrow i) = .integer i := by
  cases integral with
  | tinyInt =>
    refine ⟨Int64.toInt8, fun v => rfl, fun i inside => ?_⟩
    have kept : i.toInt8.toInt = i.toInt := by
      rw [Int64.toInt_toInt8, Int.bmod_eq_of_le inside.1 inside.2]
    exact ⟨kept, congrArg Value.integer (Int64.toInt.inj (by rw [Int8.toInt_toInt64, kept]))⟩
  | smallInt =>
    refine ⟨Int64.toInt16, fun v => rfl, fun i inside => ?_⟩
    have kept : i.toInt16.toInt = i.toInt := by
      rw [Int64.toInt_toInt16, Int.bmod_eq_of_le inside.1 inside.2]
    exact ⟨kept, congrArg Value.integer (Int64.toInt.inj (by rw [Int16.toInt_toInt64, kept]))⟩
  | int =>
    refine ⟨Int64.toInt32, fun v => rfl, fun i inside => ?_⟩
    have kept : i.toInt32.toInt = i.toInt := by
      rw [Int64.toInt_toInt32, Int.bmod_eq_of_le inside.1 inside.2]
    exact ⟨kept, congrArg Value.integer (Int64.toInt.inj (by rw [Int32.toInt_toInt64, kept]))⟩
  | bigInt =>
    -- All 64 bits are kept, so nothing is narrowed.
    have same (v : Value) : integerIn "i64" (-2 ^ 63) (2 ^ 63 - 1) v =
        (integerIn "i64" (-2 ^ 63) (2 ^ 63 - 1) v).map id := by
      cases integerIn "i64" (-2 ^ 63) (2 ^ 63 - 1) v <;> rfl
    exact ⟨id, same, fun i _ => ⟨rfl, rfl⟩⟩

section
variable {raw : Value} {i : Int64}

theorem integerIn_of_integer? {width : String} (found : raw.integer? = some i) :
    integerIn width (-2 ^ (bits - 1)) (2 ^ (bits - 1) - 1) raw =
      if InWidth bits i.toInt then .ok i else .error (.outOfRange i width) := by
  have same : InWidth bits i.toInt ↔ -2 ^ (bits - 1) ≤ i.toInt ∧ i.toInt ≤ 2 ^ (bits - 1) - 1 :=
    and_congr_right' Int.le_sub_one_iff.symm
  rw [integerIn, found]
  exact if_congr same.symm rfl rfl

theorem Integral.decode_inside (integral : Integral type value bits) (found : raw.integer? = some i)
    (inside : InWidth bits i.toInt) :
    ∃ a, type.decode raw = .ok a ∧ value a = i.toInt ∧ type.encode a = .integer i := by
  obtain ⟨narrow, read, kept⟩ := integral.read_eq
  refine ⟨narrow i, decode_eq_ok.mpr ?_, kept i inside⟩
  rw [read, integerIn_of_integer? found, if_pos inside]
  rfl

theorem Integral.decode_outside (integral : Integral type value bits) (found : raw.integer? = some i)
    (outside : ¬InWidth bits i.toInt) :
    type.decode raw = .error ⟨raw, type.root, .outOfRange i ("i" ++ toString bits)⟩ := by
  obtain ⟨narrow, read, -⟩ := integral.read_eq
  rw [decode, read, integerIn_of_integer? found, if_neg outside]
  rfl

theorem Integral.decode_other (integral : Integral type value bits) (other : raw.integer? = none) :
    type.decode raw = .error ⟨raw, type.root, .unexpected "integer" raw.kind⟩ := by
  obtain ⟨narrow, read, -⟩ := integral.read_eq
  rw [decode, read, integerIn, other]
  rfl

end

/-- A type of integers decodes a value as an integer exactly where the value is the integer and the integer has a place
    in the width. An integer without a place there is refused as it is, and every other value for its kind. What is
    decoded is stored as the column gives the value. -/
theorem decode_integral (integral : Integral type value bits) (raw : Value) :
    (∀ n, (∃ a, type.decode raw = .ok a ∧ value a = n) ↔ raw.IsInteger n ∧ InWidth bits n) ∧
      (∀ n, raw.IsInteger n → ¬InWidth bits n → ∃ i : Int64, i.toInt = n ∧
        type.decode raw = .error ⟨raw, type.root, .outOfRange i ("i" ++ toString bits)⟩) ∧
      ((∀ n, ¬raw.IsInteger n) → type.decode raw = .error ⟨raw, type.root, .unexpected "integer" raw.kind⟩) ∧
      ∀ a, type.decode raw = .ok a → type.encode a = type.root.coerce raw := by
  have decoded {a : α} (h : type.decode raw = .ok a) : ∃ i, raw.integer? = some i ∧ InWidth bits i.toInt ∧
      value a = i.toInt ∧ type.encode a = .integer i := by
    cases found : raw.integer? with
    | none =>
      rw [integral.decode_other found] at h
      cases h
    | some i =>
      by_cases inside : InWidth bits i.toInt
      · obtain ⟨b, same, kept⟩ := integral.decode_inside found inside
        rw [h] at same
        cases same
        exact ⟨i, rfl, inside, kept⟩
      · rw [integral.decode_outside found inside] at h
        cases h
  refine ⟨fun n => ⟨?_, ?_⟩, ?_, fun other => ?_, fun a h => ?_⟩
  · rintro ⟨a, h, rfl⟩
    obtain ⟨i, found, inside, same, -⟩ := decoded h
    rw [same]
    exact ⟨Value.isInteger_iff.mpr ⟨i, found, rfl⟩, inside⟩
  · rintro ⟨integer, inside⟩
    obtain ⟨i, found, rfl⟩ := Value.isInteger_iff.mp integer
    obtain ⟨a, h, same, -⟩ := integral.decode_inside found inside
    exact ⟨a, h, same⟩
  · intro n integer outside
    obtain ⟨i, found, rfl⟩ := Value.isInteger_iff.mp integer
    exact ⟨i, rfl, integral.decode_outside found outside⟩
  · refine integral.decode_other (Option.eq_none_iff_forall_ne_some.mpr fun i found => ?_)
    exact other i.toInt (Value.isInteger_iff.mpr ⟨i, found, rfl⟩)
  · obtain ⟨i, found, -, -, stored⟩ := decoded h
    rw [stored, RootType.coerce_of_isInteger integral.isInteger, found]
    rfl

/-- Two to the power of 63 is no integer of 64 bits. The real number before it is one, and has no place in 32 bits. -/
theorem decode_near_limit :
    (Integral bigInt Int64.toInt 64 ∧
        bigInt.decode (.real ⟨0x43e0000000000000⟩) =
          .error ⟨.real ⟨0x43e0000000000000⟩, .bigInt, .unexpected "integer" "real"⟩ ∧
        ∃ a, bigInt.decode (.real ⟨0x43dfffffffffffff⟩) = .ok a ∧ a.toInt = 9223372036854774784) ∧
      Integral int Int32.toInt 32 ∧ ∃ i : Int64, i.toInt = 9223372036854774784 ∧
        int.decode (.real ⟨0x43dfffffffffffff⟩) = .error ⟨.real ⟨0x43dfffffffffffff⟩, .int, .outOfRange i "i32"⟩ := by
  have limit : (⟨0x43e0000000000000⟩ : Binary64).meaning = .number (2 ^ 63 : Int) := by decide +kernel
  have below : (⟨0x43dfffffffffffff⟩ : Binary64).meaning = .number (9223372036854774784 : Int) := by decide +kernel
  have other (n : Int) : ¬(Value.real ⟨0x43e0000000000000⟩).IsInteger n := by
    rintro (- | ⟨exact, -, high⟩)
    have same : (n : ℚ) = (2 ^ 63 : Int) := Meaning.number.inj (exact.symm.trans limit)
    exact absurd high (Int.not_lt.mpr (Int.le_of_eq (by exact_mod_cast same.symm)))
  have integer : (Value.real ⟨0x43dfffffffffffff⟩).IsInteger 9223372036854774784 := .real below (by decide) (by decide)
  refine ⟨⟨.bigInt, (decode_integral .bigInt _).2.2.1 other, ?_⟩, .int, ?_⟩
  · exact ((decode_integral .bigInt _).1 _).mpr ⟨integer, by decide⟩
  · exact (decode_integral .int _).2.1 _ integer (by decide)

end FieldType

end TypedTables
