import Mathlib.Data.List.TakeWhile
import TypedTables.Number.Decimal

/-!
# How numbers are written

Every integer and every finite real number is written as a numeral, with a minus sign in front where it is negative.
A numeral is digits, then places behind a point where it has some, then a power of ten where it has one. A real number
that is not zero has at least one digit that counts, because its decimal lies above the midpoint to the magnitude below
it. -/

namespace TypedTables

namespace Numeral

/-- A run of decimal digits, at least one. -/
def IsDigits (s : List Char) : Prop := s ≠ [] ∧ ∀ c ∈ s, c.isDigit

instance (s : List Char) : Decidable (IsDigits s) :=
  decidable_of_iff (s ≠ [] ∧ s.all Char.isDigit) (and_congr_right' List.all_eq_true)

/-- Nothing, or digits behind a point. -/
def IsPlaces (s : List Char) : Prop := s = [] ∨ ∃ digits, IsDigits digits ∧ s = '.' :: digits

/-- Nothing, or a power of ten. -/
def IsPower (s : List Char) : Prop :=
  s = [] ∨ ∃ digits, IsDigits digits ∧ (s = 'e' :: digits ∨ s = 'e' :: '-' :: digits)

/-- A number without a sign. -/
def IsNumeral (s : List Char) : Prop :=
  ∃ whole places power, IsDigits whole ∧ IsPlaces places ∧ IsPower power ∧ s = whole ++ (places ++ power)

theorem IsDigits.append_left {s t : List Char} (hs : ∀ c ∈ s, c.isDigit) (ht : IsDigits t) : IsDigits (s ++ t) := by
  refine ⟨fun h => ht.1 (List.append_eq_nil_iff.mp h).2, fun c hc => ?_⟩
  rcases List.mem_append.mp hc with hc | hc
  · exact hs c hc
  · exact ht.2 c hc

theorem isDigits_toDigits (n : Nat) : IsDigits (Nat.toDigits 10 n) :=
  ⟨Nat.toDigits_ne_nil, fun _ hc => Nat.isDigit_of_mem_toDigits (by decide) (by decide) hc⟩

theorem isDigit_of_mem_zeros {n : Nat} {c : Char} (hc : c ∈ List.replicate n '0') : c.isDigit := by
  rw [List.eq_of_mem_replicate hc]
  rfl

theorem IsDigits.isNumeral {s : List Char} (hs : IsDigits s) : IsNumeral s :=
  ⟨s, [], [], hs, Or.inl rfl, Or.inl rfl, by simp⟩

theorem toList_toString (n : Nat) : (toString n).toList = Nat.toDigits 10 n := String.toList_ofList

theorem isNumeral_toString (n : Nat) : IsNumeral (toString n).toList := by
  rw [toList_toString]
  exact (isDigits_toDigits n).isNumeral

theorem isNumeral_zero : IsNumeral "0.0".toList :=
  ⟨['0'], ['.', '0'], [], by decide, Or.inr ⟨['0'], by decide, rfl⟩, Or.inl rfl, rfl⟩

/-- A numeral starts with a digit. -/
theorem IsNumeral.eq_cons {s : List Char} (hs : IsNumeral s) : ∃ d t, s = d :: t ∧ d.isDigit := by
  obtain ⟨whole, places, power, ⟨nonempty, digit⟩, -, -, rfl⟩ := hs
  obtain ⟨d, ds, rfl⟩ := List.exists_cons_of_ne_nil nonempty
  exact ⟨d, _, rfl, digit d List.mem_cons_self⟩

theorem IsNumeral.isDigit_or {s : List Char} (hs : IsNumeral s) {c : Char} (hc : c ∈ s) :
    c.isDigit ∨ c ∈ ['.', 'e', '-'] := by
  obtain ⟨whole, places, power, hw, hp, he, rfl⟩ := hs
  rcases List.mem_append.mp hc with hc | hc
  · exact Or.inl (hw.2 c hc)
  rcases List.mem_append.mp hc with hc | hc
  · rcases hp with rfl | ⟨digits, hd, rfl⟩
    · cases hc
    rcases List.mem_cons.mp hc with rfl | hc
    · exact Or.inr (by decide)
    · exact Or.inl (hd.2 c hc)
  · rcases he with rfl | ⟨digits, hd, rfl | rfl⟩
    · cases hc
    · rcases List.mem_cons.mp hc with rfl | hc
      · exact Or.inr (by decide)
      · exact Or.inl (hd.2 c hc)
    · rcases List.mem_cons.mp hc with rfl | hc
      · exact Or.inr (by decide)
      rcases List.mem_cons.mp hc with rfl | hc
      · exact Or.inr (by decide)
      · exact Or.inl (hd.2 c hc)

/-- A character that is neither a digit nor a mark of a numeral does not occur in one. -/
theorem IsNumeral.ne_of_mem {s : List Char} (hs : IsNumeral s) {c d : Char} (hc : c ∈ s) (digit : d.isDigit = false)
    (mark : d ∉ ['.', 'e', '-']) : c ≠ d := fun same => by
  rcases hs.isDigit_or hc with h | h
  · rw [same, digit] at h
    cases h
  · exact mark (same ▸ h)

theorem toString_int (i : Int) : toString i = (if i < 0 then "-" else "") ++ toString i.natAbs := by
  cases i with
  | ofNat n =>
    have whole : ¬Int.ofNat n < 0 := Int.not_lt.mpr (Int.natCast_nonneg n)
    rw [if_neg whole, String.empty_append]
    rfl
  | negSucc n =>
    rw [if_pos (Int.negSucc_lt_zero n)]
    rfl

theorem ofDigitChars_zeros {s : List Char} (h : ∀ c ∈ s, c = '0') : Nat.ofDigitChars 10 s 0 = 0 := by
  induction s with
  | nil => rfl
  | cons c s ih =>
    obtain rfl := h c List.mem_cons_self
    exact ih fun d hd => h d (List.mem_cons_of_mem _ hd)

/-- Of the digits of a positive number some are left when the zeros at their end are dropped. -/
theorem trimmed_ne_nil {n : Nat} (h : 0 < n) : (Nat.toDigits 10 n).reverse.dropWhile (· = '0') ≠ [] := by
  intro none
  have zeros : ∀ c ∈ Nat.toDigits 10 n, c = '0' := fun c hc => by
    have zero := List.dropWhile_eq_nil_iff.mp none c (List.mem_reverse.mpr hc)
    simpa using zero
  have value := Nat.ofDigitChars_toDigits (b := 10) (n := n) (by decide) (by decide)
  rw [ofDigitChars_zeros zeros] at value
  omega

end Numeral

open Numeral

/-! ### Decimals -/

namespace DecimalStyle

theorem isNumeral_pointed {digits : List Char} (hd : IsDigits digits) (whole : Int) :
    IsNumeral (pointed digits whole) := by
  unfold pointed
  split
  · have zero : IsDigits ['0'] := by decide
    have places := IsDigits.append_left (fun c => isDigit_of_mem_zeros (n := (-whole).toNat)) hd
    exact ⟨['0'], _, [], zero, Or.inr ⟨_, places, rfl⟩, Or.inl rfl, by simp⟩
  · next positive =>
    simp only
    generalize hz : List.replicate (whole.toNat - (digits.take whole.toNat).length) '0' = zeros
    have long : 0 < (digits.take whole.toNat ++ zeros).length := by
      simp only [← hz, List.length_append, List.length_replicate]
      omega
    have first : IsDigits (digits.take whole.toNat ++ zeros) := by
      refine ⟨List.ne_nil_of_length_pos long, fun c hc => ?_⟩
      rcases List.mem_append.mp hc with hc | hc
      · exact hd.2 c (List.mem_of_mem_take hc)
      · exact isDigit_of_mem_zeros (hz ▸ hc)
    have last : IsDigits (if (digits.drop whole.toNat).isEmpty then ['0'] else digits.drop whole.toNat) := by
      split
      · decide
      · next some => exact ⟨fun h => some (by rw [h]; rfl), fun c hc => hd.2 c (List.mem_of_mem_drop hc)⟩
    exact ⟨_, _, [], first, Or.inr ⟨_, last, rfl⟩, Or.inl rfl, by simp⟩

end DecimalStyle

namespace Binary64

theorem isNumeral_layout {x : Decimal} (h : 0 < x.digits) : IsNumeral (inlineStyle.layout x).toList := by
  have digits : IsDigits ((Nat.toDigits 10 x.digits).reverse.dropWhile (· = '0')).reverse := by
    refine ⟨fun none => trimmed_ne_nil h (List.reverse_eq_nil_iff.mp none), fun c hc => ?_⟩
    have within := List.dropWhile_subset _ (List.mem_reverse.mp hc)
    exact (isDigits_toDigits x.digits).2 c (List.mem_reverse.mp within)
  unfold DecimalStyle.layout
  simp only
  generalize ((Nat.toDigits 10 x.digits).reverse.dropWhile (· = '0')).reverse = ds at digits ⊢
  generalize x.exponent + (Nat.toDigits 10 x.digits).length - 1 = place
  split
  · rw [String.toList_ofList]
    exact DecimalStyle.isNumeral_pointed digits _
  have power : IsPower (('e' :: (if place < 0 then "-" else "").toList) ++
      (List.replicate (1 - (Nat.toDigits 10 place.natAbs).length) '0' ++ Nat.toDigits 10 place.natAbs)) := by
    have exponent := IsDigits.append_left
      (fun c => isDigit_of_mem_zeros (n := 1 - (Nat.toDigits 10 place.natAbs).length)) (isDigits_toDigits place.natAbs)
    refine Or.inr ⟨_, exponent, ?_⟩
    split
    · exact Or.inr rfl
    · exact Or.inl rfl
  cases ds with
  | nil => exact absurd rfl digits.1
  | cons d rest =>
    have first : IsDigits [d] := ⟨by simp, fun c hc => digits.2 c (by simp_all)⟩
    cases rest with
    | nil => exact ⟨[d], [], _, first, Or.inl rfl, power, by simp [inlineStyle, String.toList_append]⟩
    | cons e rest =>
      have places : IsDigits (e :: rest) := ⟨by simp, fun c hc => digits.2 c (List.mem_cons_of_mem _ hc)⟩
      exact ⟨[d], '.' :: e :: rest, _, first, Or.inr ⟨_, places, rfl⟩, power,
        by simp [inlineStyle, String.toList_append]⟩

end Binary64

namespace Decimal

/-- A decimal that lies above a positive number is positive. -/
theorem digits_pos_of_beside {low mid high den : Nat} {closed : Bool} {exponent : Int} {x : Decimal} (hl : 0 < low)
    (h : beside low mid high den closed exponent = some x) : 0 < x.digits := by
  have lowest : 0 < low * (if 0 ≤ exponent then 1 else Nat.pow 10 (-exponent).toNat) := by
    refine Nat.mul_pos hl ?_
    split
    · exact Nat.one_pos
    · exact Nat.pow_pos (by decide)
  unfold beside at h
  simp only at h
  generalize (if 0 ≤ exponent then 1 else Nat.pow 10 (-exponent).toNat) = scale at *
  generalize (if 0 ≤ exponent then den * Nat.pow 10 exponent.toNat else den) = step at *
  have positive : ∀ below : Nat,
      (if closed then decide (low * scale ≤ below * step) && decide (below * step ≤ high * scale)
        else decide (low * scale < below * step) && decide (below * step < high * scale)) = true → 0 < below := by
    intro below inside
    have above : low * scale ≤ below * step := by
      cases closed <;> simp at inside <;> omega
    exact Nat.pos_of_mul_pos_right (Nat.lt_of_lt_of_le lowest above)
  split at h
  · next inside _ =>
    cases h
    split
    · exact positive _ inside
    · exact Nat.succ_pos _
  · next inside _ =>
    cases h
    exact positive _ inside
  · cases h
    exact Nat.succ_pos _
  · cases h

end Decimal

theorem Format.units_pos (f : Format) {code : Nat} (h : 0 < code) : 0 < f.units code := by
  have one : 0 < Nat.pow 2 f.fractionBits := Nat.pow_pos (by decide)
  unfold units
  simp only
  split
  · next low => rwa [Nat.mod_eq_of_lt (Nat.lt_of_div_eq_zero one low)]
  · exact Nat.mul_pos (Nat.lt_of_lt_of_le one (Nat.le_add_left _ _)) (Nat.pow_pos (by decide))

namespace Binary64

/-- The number without its sign. -/
def absolute (x : Binary64) : Binary64 := ofMagnitude false x.magnitude

theorem isNumeral_shortest {code : Nat} (h : 0 < code) :
    IsNumeral (inlineStyle.layout (Decimal.shortest Format.double code)).toList := by
  have low : 0 < Format.double.units (code - 1) + Format.double.units code :=
    Nat.lt_of_lt_of_le (Format.double.units_pos h) (Nat.le_add_left _ _)
  unfold Decimal.shortest
  simp only
  generalize Decimal.leadingPlace (2 * Format.double.units code) (Nat.pow 2 (Format.double.places + 1)) = place
  rcases found : (List.range 17).findSome? fun digits : Nat => Decimal.beside
      (Format.double.units (code - 1) + Format.double.units code) (2 * Format.double.units code)
      (Format.double.units code + Format.double.units (code + 1)) (Nat.pow 2 (Format.double.places + 1))
      (code % 2 = 0) (place - digits) with _ | x
  · rw [Option.getD_none]
    rcases Nat.eq_zero_or_pos (2 * Format.double.units code / Nat.pow 2 (Format.double.places + 1)) with zero | positive
    · rw [zero]
      exact isNumeral_zero
    · exact isNumeral_layout positive
  · rw [Option.getD_some]
    obtain ⟨digits, -, found⟩ := List.exists_of_findSome?_eq_some found
    exact isNumeral_layout (Decimal.digits_pos_of_beside low found)

theorem toNat_absolute (x : Binary64) : x.absolute.bits.toNat = x.magnitude := by
  have bound : x.magnitude < 2 ^ 63 := Nat.mod_lt _ (by decide)
  show (UInt64.ofNat x.magnitude).toNat = x.magnitude
  rw [UInt64.toNat_ofNat', Nat.mod_eq_of_lt (Nat.lt_trans bound (by decide))]

theorem magnitude_absolute (x : Binary64) : x.absolute.magnitude = x.magnitude := by
  rw [magnitude, toNat_absolute]
  exact Nat.mod_eq_of_lt (Nat.mod_lt _ (by decide))

theorem isNegative_absolute (x : Binary64) : x.absolute.isNegative = false := by
  have bound : x.magnitude < Nat.pow 2 63 := Nat.mod_lt _ (by decide)
  rw [isNegative, toNat_absolute, decide_eq_false_iff_not]
  exact Nat.not_le_of_lt bound

theorem isFinite_absolute (x : Binary64) : x.absolute.isFinite = x.isFinite := by
  rw [isFinite, isFinite, magnitude_absolute]

/-- What a finite number is written as, apart from its sign. -/
theorem text_of_isFinite {x : Binary64} (finite : x.isFinite) :
    x.text = (if x.isNegative then "-" else "") ++
      (if x.magnitude = 0 then "0.0" else inlineStyle.layout (Decimal.shortest Format.double x.magnitude)) := by
  have bound : x.magnitude < Format.double.infinity := of_decide_eq_true finite
  have number : x.isNaN = false := decide_eq_false (Nat.lt_asymm bound)
  unfold text DecimalStyle.text
  simp only [number, finite, not_true_eq_false, Bool.false_eq_true, if_false]
  split <;> simp [inlineStyle]

theorem text_eq {x : Binary64} (finite : x.isFinite) :
    x.text = (if x.isNegative then "-" else "") ++ x.absolute.text := by
  have same : x.absolute.isFinite := (isFinite_absolute x).trans finite
  rw [text_of_isFinite finite, text_of_isFinite same, magnitude_absolute, isNegative_absolute]
  simp

theorem isNumeral_absolute {x : Binary64} (finite : x.isFinite) : IsNumeral x.absolute.text.toList := by
  have same : x.absolute.isFinite := (isFinite_absolute x).trans finite
  rw [text_of_isFinite same, isNegative_absolute, magnitude_absolute]
  simp only [Bool.false_eq_true, if_false, String.empty_append]
  split
  · exact isNumeral_zero
  · next positive => exact isNumeral_shortest (Nat.pos_of_ne_zero positive)

end Binary64

end TypedTables
