import Mathlib.Algebra.Group.Nat.Defs
import TypedTables.Number.Binary64

/-!
# Numbers that are kept exactly

A ratio that is a magnitude of the format is rounded to that magnitude: in units it has no more digits than a magnitude
keeps, so nothing is dropped. So an integer is rounded to a real number of its own value if there is one, and the
integer that a real number gives has the value of the real number. -/

namespace TypedTables

namespace Format

variable {f : Format} {code n d : Nat}

theorem roundEven_mul (q : Nat) (pos : 0 < d) : roundEven (q * d) d = q := by
  simp [roundEven, Nat.mul_div_cancel q pos, pos]

theorem log2_mul_two_pow {m bits : Nat} (low : 2 ^ bits ≤ m) (high : m < 2 ^ (bits + 1)) (e : Nat) :
    Nat.log2 (m * 2 ^ e) = bits + e := by
  have pos : m * 2 ^ e ≠ 0 :=
    Nat.mul_ne_zero (Nat.ne_of_gt (Nat.lt_of_lt_of_le (Nat.two_pow_pos bits) low)) (Nat.ne_of_gt (Nat.two_pow_pos e))
  rw [Nat.log2_eq_iff pos]
  constructor
  · rw [Nat.pow_add]
    exact Nat.mul_le_mul_right _ low
  · rw [Nat.add_right_comm, Nat.pow_add]
    exact Nat.mul_lt_mul_of_pos_right high (Nat.two_pow_pos e)

/-- A magnitude below the first power that keeps its leading bit is its own number of units. -/
theorem units_of_lt (small : code < 2 ^ f.fractionBits) : f.units code = code := by
  simp [units, Nat.div_eq_of_lt small, Nat.mod_eq_of_lt small]

theorem units_add (e : Nat) {fraction : Nat} (small : fraction < 2 ^ f.fractionBits) :
    f.units ((e + 1) * 2 ^ f.fractionBits + fraction) = (fraction + 2 ^ f.fractionBits) * 2 ^ e := by
  have exponent : ((e + 1) * 2 ^ f.fractionBits + fraction) / 2 ^ f.fractionBits = e + 1 := by
    rw [Nat.add_comm, Nat.add_mul_div_right _ _ (Nat.two_pow_pos _), Nat.div_eq_of_lt small, Nat.zero_add]
  have rest : ((e + 1) * 2 ^ f.fractionBits + fraction) % 2 ^ f.fractionBits = fraction := by
    rw [Nat.add_comm, Nat.add_mul_mod_self_right, Nat.mod_eq_of_lt small]
  simp [units, exponent, rest]

/-- A ratio whose digits are dropped without a remainder. -/
theorem nearest_of_scaled {m e : Nat} (pos : 0 < d) (equal : n * 2 ^ f.places = m * 2 ^ e * d)
    (dropped : Nat.log2 (m * 2 ^ e) - f.fractionBits = e) :
    f.nearest n d = min (e * 2 ^ f.fractionBits + m) f.infinity := by
  have rounded : roundEven (m * 2 ^ e * d) (d * 2 ^ e) = m := by
    rw [Nat.mul_assoc, Nat.mul_comm (2 ^ e)]
    exact roundEven_mul m (Nat.mul_pos pos (Nat.two_pow_pos e))
  simp only [nearest, Nat.pow_eq, equal, Nat.mul_div_cancel _ pos, dropped, rounded]

theorem log2_le_of_lt {m bits : Nat} (h : m < 2 ^ bits) : Nat.log2 m ≤ bits := by
  rcases Nat.eq_zero_or_pos m with rfl | pos
  · exact Nat.zero_le bits
  · exact Nat.le_of_lt ((Nat.log2_lt (Nat.ne_of_gt pos)).mpr h)

/-- A ratio that a magnitude equals is rounded to the magnitude. -/
theorem nearest_of_units (finite : code < f.infinity) (pos : 0 < d) (equal : n * 2 ^ f.places = f.units code * d) :
    f.nearest n d = code := by
  have two : 2 ^ (f.fractionBits + 1) = 2 ^ f.fractionBits + 2 ^ f.fractionBits := by rw [Nat.pow_succ, Nat.mul_two]
  rcases Nat.lt_or_ge code (2 ^ f.fractionBits) with small | large
  · have dropped : Nat.log2 (code * 2 ^ 0) - f.fractionBits = 0 := by
      rw [Nat.pow_zero, Nat.mul_one]
      exact Nat.sub_eq_zero_of_le (log2_le_of_lt small)
    rw [units_of_lt small, ← Nat.mul_one code] at equal
    rw [nearest_of_scaled pos equal dropped, Nat.zero_mul, Nat.zero_add]
    exact Nat.min_eq_left (Nat.le_of_lt finite)
  · -- The field of the exponent counts one more than the bits to drop, in the place of the leading bit.
    obtain ⟨e, fraction, small, rfl⟩ : ∃ e fraction, fraction < 2 ^ f.fractionBits ∧
        code = (e + 1) * 2 ^ f.fractionBits + fraction := by
      refine ⟨code / 2 ^ f.fractionBits - 1, _, Nat.mod_lt code (Nat.two_pow_pos f.fractionBits), ?_⟩
      rw [Nat.sub_add_cancel (Nat.div_pos large (Nat.two_pow_pos _)), Nat.div_add_mod']
    have dropped : Nat.log2 ((fraction + 2 ^ f.fractionBits) * 2 ^ e) - f.fractionBits = e := by
      rw [log2_mul_two_pow (Nat.le_add_left _ _) (by omega), Nat.add_sub_cancel_left]
    rw [units_add e small] at equal
    rw [nearest_of_scaled pos equal dropped, Nat.add_comm fraction, ← Nat.add_assoc, ← Nat.succ_mul]
    exact Nat.min_eq_left (Nat.le_of_lt finite)

end Format

namespace Binary64

variable {x : Binary64} {code : Nat} {i : Int}

/-! ### Parts of a number -/

theorem toNat_ofMagnitude (negative : Bool) (small : code < 2 ^ 63) :
    (ofMagnitude negative code).bits.toNat = if negative then code + 2 ^ 63 else code := by
  show (UInt64.ofNat (if negative then code + 2 ^ 63 else code)).toNat = _
  rw [UInt64.toNat_ofNat', Nat.mod_eq_of_lt]
  split <;> omega

theorem magnitude_ofMagnitude (negative : Bool) (small : code < 2 ^ 63) :
    (ofMagnitude negative code).magnitude = code := by
  show (ofMagnitude negative code).bits.toNat % 2 ^ 63 = code
  rw [toNat_ofMagnitude negative small]
  split <;> omega

theorem isNegative_ofMagnitude (negative : Bool) (small : code < 2 ^ 63) :
    (ofMagnitude negative code).isNegative = negative := by
  show decide (2 ^ 63 ≤ (ofMagnitude negative code).bits.toNat) = negative
  rw [toNat_ofMagnitude negative small]
  cases negative
  · exact decide_eq_false (Nat.not_le_of_lt small)
  · exact decide_eq_true (Nat.le_add_left _ _)

theorem natAbs_units (x : Binary64) : x.units.natAbs = Format.double.units x.magnitude := by
  unfold units
  split <;> simp

/-! ### Integers -/

theorem one_eq : one = ((2 ^ Format.double.places : Nat) : Int) := by
  rw [one, Nat.pow_eq, Int.ofNat_eq_natCast]

/-- An integer that some real number equals is kept. -/
theorem units_ofInt (finite : x.isFinite) (equal : x.units = i * one) :
    (ofInt i).isFinite ∧ (ofInt i).units = i * one := by
  have scaled : i.natAbs * 2 ^ Format.double.places = Format.double.units x.magnitude := by
    rw [← natAbs_units, equal, Int.natAbs_mul, one_eq, Int.natAbs_natCast]
  have nearest : Format.double.nearest i.natAbs 1 = x.magnitude :=
    Format.nearest_of_units (of_decide_eq_true finite) Nat.one_pos (scaled.trans (Nat.mul_one _).symm)
  have small : x.magnitude < 2 ^ 63 := Nat.mod_lt _ (by decide)
  have magnitude : (ofInt i).magnitude = x.magnitude := by rw [ofInt, nearest, magnitude_ofMagnitude _ small]
  have negative : (ofInt i).isNegative = decide (i < 0) := by rw [ofInt, nearest, isNegative_ofMagnitude _ small]
  have absolute : (Format.double.units x.magnitude : Int) = i.natAbs * one := by
    rw [← scaled, Int.natCast_mul, one_eq]
  have kept : (ofInt i).isFinite = x.isFinite := by rw [isFinite, isFinite, magnitude]
  refine ⟨kept.trans finite, ?_⟩
  rw [units, magnitude, absolute, negative]
  by_cases below : i < 0
  · rw [decide_eq_true below, if_pos rfl, ← Int.neg_mul, Int.ofNat_natAbs_of_nonpos (Int.le_of_lt below), Int.neg_neg]
  · rw [decide_eq_false below, if_neg Bool.false_ne_true, Int.natAbs_of_nonneg (Int.not_lt.mp below)]

/-- The integer that a real number gives is its value. -/
theorem units_of_toInt64? {i : Int64} (h : x.toInt64? = some i) : x.isFinite ∧ x.units = i.toInt * one := by
  obtain ⟨j, whole, range⟩ := Option.bind_eq_some_iff.mp h
  unfold toInt? at whole
  split at whole
  · next exact =>
    cases whole
    split at range
    · next fits =>
      cases range
      refine ⟨exact.1, ?_⟩
      rw [Int64.toInt_ofInt_of_le fits.1 (Int.lt_of_le_of_lt fits.2 (by decide)),
        Int.ediv_mul_cancel_of_emod_eq_zero exact.2]
    · cases range
  · cases whole

end Binary64

end TypedTables
