import Mathlib.Algebra.Group.Nat.Defs
import Mathlib.Data.List.Induction
import TypedTables.Naming
import TypedTables.Proofs.Number.Written

/-!
# Names of versions and backups

The name of a version is read back as its number, and a number is read from no other name than this one with zeros in
front of its digits. A backup is no version of its base. The time in a backup's name can be told from the name, since
each of its numbers has a fixed count of places. -/

namespace TypedTables

/-! ### Times -/

namespace Text

theorem toList_padded (width n : Nat) :
    (padded width n).toList = List.replicate (width - (Nat.toDigits 10 n).length) '0' ++ Nat.toDigits 10 n := by
  rw [padded, String.toList_ofList]

theorem length_padded {width n : Nat} (wide : 0 < width) (fits : n < 10 ^ width) :
    (padded width n).toList.length = width := by
  have short := (Nat.length_toDigits_le_iff (b := 10) (by decide) wide).mpr fits
  rw [toList_padded, List.length_append, List.length_replicate]
  omega

/-- Zeros in front of digits do not change the number. -/
theorem ofDigitChars_zeros_append (zeros : Nat) (digits : List Char) :
    Nat.ofDigitChars 10 (List.replicate zeros '0' ++ digits) 0 = Nat.ofDigitChars 10 digits 0 := by
  rw [Nat.ofDigitChars_append, Nat.ofDigitChars_replicate_zero, Nat.mul_zero]

theorem ofDigitChars_padded (width n : Nat) : Nat.ofDigitChars 10 (padded width n).toList 0 = n := by
  rw [toList_padded, ofDigitChars_zeros_append, Nat.ofDigitChars_ten_toDigits]

/-- Numbers in as many places are told apart whatever stands behind them. -/
theorem padded_append_inj {width m n : Nat} {s t : List Char} (wide : 0 < width) (hm : m < 10 ^ width)
    (hn : n < 10 ^ width) (h : (padded width m).toList ++ s = (padded width n).toList ++ t) : m = n ∧ s = t := by
  have lengths : (padded width m).toList.length = (padded width n).toList.length := by
    rw [length_padded wide hm, length_padded wide hn]
  obtain ⟨digits, rest⟩ := List.append_inj h lengths
  refine ⟨?_, rest⟩
  rw [← ofDigitChars_padded width m, digits, ofDigitChars_padded]

end Text

theorem Timestamp.text_injective : Function.Injective Timestamp.text := by
  intro t u h
  have parts := congrArg String.toList h
  simp only [text, String.toList_append, List.append_assoc] at parts
  obtain ⟨year, parts⟩ := Text.padded_append_inj (by decide) t.year_lt u.year_lt parts
  obtain ⟨month, parts⟩ := Text.padded_append_inj (by decide) t.month_lt u.month_lt (List.append_cancel_left parts)
  obtain ⟨day, parts⟩ := Text.padded_append_inj (by decide) t.day_lt u.day_lt (List.append_cancel_left parts)
  obtain ⟨hour, parts⟩ := Text.padded_append_inj (by decide) t.hour_lt u.hour_lt (List.append_cancel_left parts)
  obtain ⟨minute, parts⟩ := Text.padded_append_inj (by decide) t.minute_lt u.minute_lt (List.append_cancel_left parts)
  obtain ⟨second, parts⟩ := Text.padded_append_inj (by decide) t.second_lt u.second_lt (List.append_cancel_left parts)
  have last := List.append_cancel_left parts
  rw [← List.append_nil (Text.padded 6 t.micro).toList, ← List.append_nil (Text.padded 6 u.micro).toList] at last
  obtain ⟨micro, -⟩ := Text.padded_append_inj (by decide) t.micro_lt u.micro_lt last
  cases t
  cases u
  simp_all

/-! ### Digits of a number -/

namespace Text

/-- A digit is the only one of the number that it denotes. -/
theorem toDigits_of_isDigit {c : Char} (h : c.isDigit) :
    c.toNat - '0'.toNat < 10 ∧ Nat.toDigits 10 (c.toNat - '0'.toNat) = [c] := by
  have range : '0'.toNat ≤ c.toNat ∧ c.toNat ≤ '9'.toNat := by
    simp only [Char.isDigit, Bool.and_eq_true, decide_eq_true_eq] at h
    exact ⟨UInt32.le_iff_toNat_le.mp h.1, UInt32.le_iff_toNat_le.mp h.2⟩
  have zero : '0'.toNat = 48 := rfl
  have nine : '9'.toNat = 57 := rfl
  have small : c.toNat - '0'.toNat < 10 := by omega
  refine ⟨small, ?_⟩
  rw [Nat.toDigits_of_lt_base small]
  refine congrArg (fun d => [d]) (Char.toNat_inj.mp ?_)
  rw [Nat.toNat_digitChar_of_lt_ten small]
  omega

/-- Digits are those of the number that they denote, with zeros in front. -/
theorem exists_zeros {digits : List Char} (h : Numeral.IsDigits digits) :
    ∃ zeros, digits = List.replicate zeros '0' ++ Nat.toDigits 10 (Nat.ofDigitChars 10 digits 0) := by
  obtain ⟨nonempty, digit⟩ := h
  -- Along the digits from the first on: the last one is behind the number that the others denote.
  induction digits using List.reverseRecOn with
  | nil => exact absurd rfl nonempty
  | append_singleton front last ih =>
    obtain ⟨small, alone⟩ := toDigits_of_isDigit (digit last (by simp))
    have value : Nat.ofDigitChars 10 (front ++ [last]) 0 =
        10 * Nat.ofDigitChars 10 front 0 + (last.toNat - '0'.toNat) := by
      rw [Nat.ofDigitChars_append]
      rfl
    rw [value]
    by_cases first : front = []
    · subst first
      exact ⟨0, by simpa using alone.symm⟩
    obtain ⟨zeros, written⟩ := ih first fun c hc => digit c (List.mem_append_left _ hc)
    rcases Nat.eq_zero_or_pos (Nat.ofDigitChars 10 front 0) with none | positive
    · rw [none] at written ⊢
      refine ⟨zeros + 1, ?_⟩
      rw [Nat.mul_zero, Nat.zero_add, alone, List.replicate_succ']
      exact congrArg (· ++ [last]) written
    · refine ⟨zeros, ?_⟩
      rw [← Nat.toDigits_append_toDigits (by decide) positive small, alone, ← List.append_assoc, ← written]

theorem natural?_iff {digits : List Char} {n : Nat} :
    natural? digits = some n ↔ Numeral.IsDigits digits ∧ Nat.ofDigitChars 10 digits 0 = n := by
  simp [natural?, Numeral.IsDigits]

/-- What is read as a number is the number's digits, with zeros in front of them or without. -/
theorem natural?_eq_some {digits : List Char} {n : Nat} :
    natural? digits = some n ↔ ∃ zeros, digits = List.replicate zeros '0' ++ Nat.toDigits 10 n := by
  rw [natural?_iff]
  constructor
  · rintro ⟨shape, rfl⟩
    exact exists_zeros shape
  · rintro ⟨zeros, rfl⟩
    refine ⟨.append_left (fun c hc => Numeral.isDigit_of_mem_zeros hc) (Numeral.isDigits_toDigits n), ?_⟩
    rw [ofDigitChars_zeros_append, Nat.ofDigitChars_ten_toDigits]

end Text

/-! ### Versions -/

namespace Naming

variable {base name : String} {version : Int32}

/-- A version of the base with zeros in front of its number. Without any it is the version's own name. -/
def respelt (base : String) (version : Int32) (zeros : Nat) : String :=
  base ++ versionMarker ++ String.ofList (List.replicate zeros '0') ++ toString version.toInt

theorem respelt_zero (base : String) (version : Int32) : respelt base version 0 = versioned base version := by
  rw [respelt, versioned, List.replicate_zero, String.ofList_nil, String.append_empty]

theorem unversioned_lt_iff : unversioned < version ↔ 0 ≤ version.toInt := by
  have below : unversioned.toInt = -1 := rfl
  rw [Int32.lt_iff_toInt_lt, below]
  omega

theorem toInt_ofNat {n : Nat} (small : n ≤ Int32.maxValue.toNatClampNeg) : (Int32.ofNat n).toInt = n :=
  Int32.toInt_ofNat_of_lt (Nat.lt_of_le_of_lt small (by decide))

/-- A version is a number that has digits. -/
theorem exists_digits (numbered : unversioned < version) :
    ∃ n, n ≤ Int32.maxValue.toNatClampNeg ∧ version = Int32.ofNat n ∧
      (toString version.toInt).toList = Nat.toDigits 10 n := by
  obtain ⟨n, hn⟩ := Int.eq_ofNat_of_zero_le (unversioned_lt_iff.mp numbered)
  have small : n ≤ Int32.maxValue.toNatClampNeg := by
    have bound := Int32.toInt_lt version
    have greatest : Int32.maxValue.toNatClampNeg = 2147483647 := rfl
    omega
  refine ⟨n, small, Int32.toInt_inj.mp (hn.trans (toInt_ofNat small).symm), ?_⟩
  rw [hn]
  exact String.toList_ofList

theorem digitsVersion?_eq_some {digits : List Char} :
    digitsVersion? digits = some version ↔
      unversioned < version ∧ ∃ zeros, digits = List.replicate zeros '0' ++ (toString version.toInt).toList := by
  rw [digitsVersion?, Option.bind_eq_some_iff]
  constructor
  · rintro ⟨n, read, found⟩
    split at found
    · next small =>
      cases found
      have numbered : unversioned < Int32.ofNat n := by
        rw [unversioned_lt_iff, toInt_ofNat small]
        exact Int.natCast_nonneg n
      obtain ⟨zeros, written⟩ := Text.natural?_eq_some.mp read
      refine ⟨numbered, zeros, ?_⟩
      rw [toInt_ofNat small, written]
      exact congrArg _ String.toList_ofList.symm
    · cases found
  · rintro ⟨numbered, zeros, written⟩
    obtain ⟨n, small, rfl, digits⟩ := exists_digits numbered
    rw [digits] at written
    exact ⟨n, Text.natural?_eq_some.mpr ⟨zeros, written⟩, if_pos small⟩

/-- A number is read from the names of its version and no others. -/
theorem version?_eq_some :
    version? base name = some version ↔ unversioned < version ∧ ∃ zeros, name = respelt base version zeros := by
  have spelt (zeros : Nat) : (respelt base version zeros).toList =
      (base ++ versionMarker).toList ++ (List.replicate zeros '0' ++ (toString version.toInt).toList) := by
    simp [respelt]
  rw [version?, Option.bind_eq_some_iff]
  constructor
  · rintro ⟨digits, cut, found⟩
    obtain ⟨numbered, zeros, rfl⟩ := digitsVersion?_eq_some.mp found
    rw [Text.stripStart?_eq_some, ← spelt] at cut
    exact ⟨numbered, zeros, String.toList_injective cut⟩
  · rintro ⟨numbered, zeros, rfl⟩
    exact ⟨_, Text.stripStart?_eq_some.mpr (spelt zeros), digitsVersion?_eq_some.mpr ⟨numbered, zeros, rfl⟩⟩

/-- A name holds no version below zero. -/
theorem unversioned_lt_of_version? (h : version? base name = some version) : unversioned < version :=
  (version?_eq_some.mp h).1

theorem version?_versioned (base : String) (numbered : unversioned < version) :
    version? base (versioned base version) = some version :=
  version?_eq_some.mpr ⟨numbered, 0, (respelt_zero base version).symm⟩

/-! ### Backups -/

/-- A backup of the base is no version of it. -/
theorem version?_retired (base stamp : String) : version? base (retired base stamp) = none := by
  cases read : version? base (retired base stamp) with
  | none => rfl
  | some version =>
    obtain ⟨-, zeros, same⟩ := version?_eq_some.mp read
    have chars := congrArg String.toList same
    simp only [retired, respelt, String.toList_append, List.append_assoc] at chars
    cases List.append_cancel_left chars

theorem backup_ne_versioned (base : String) (time : Timestamp) (numbered : unversioned < version) :
    backup base time ≠ versioned base version := by
  intro same
  have read := version?_versioned base numbered
  rw [← same, backup, version?_retired] at read
  cases read

theorem backup_inj {t u : Timestamp} (h : backup base t = backup base u) : t = u :=
  Timestamp.text_injective ((String.append_right_inj _).mp h)

end Naming

end TypedTables
