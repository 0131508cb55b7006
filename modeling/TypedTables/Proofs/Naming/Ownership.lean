import TypedTables.Proofs.Plan

/-!
# Whose version a name is

A base can be any text, so one base can be the start of another. What keeps their tables apart is the end of a name:
the digits there, and the mark before them, leave one base only that the name is a version of. A time ends in digits
behind a point, so a backup is a version of no base. What is left is the unversioned table of another base, which can be
called what a version is called. Names that are no versions of the base leave its plans alone, wherever they stand in
the catalog (`plans_from_own`). -/

namespace TypedTables

/-! ### Digits at the end -/

namespace Text

theorem takeWhile_reverse_append {s digits : List Char} {mark : Char} (hm : mark.isDigit = false)
    (hd : ∀ c ∈ digits, c.isDigit) : (s ++ mark :: digits).reverse.takeWhile Char.isDigit = digits.reverse := by
  have all : ∀ c ∈ digits.reverse, c.isDigit = true := fun c hc => hd c (List.mem_reverse.mp hc)
  rw [List.reverse_append, List.reverse_cons, List.append_assoc, List.takeWhile_append_of_pos all]
  simp [hm]

/-- A text has one way to end in digits with a mark before them. -/
theorem append_digits_inj {s t a b : List Char} {m n : Char} (hm : m.isDigit = false) (hn : n.isDigit = false)
    (ha : ∀ c ∈ a, c.isDigit) (hb : ∀ c ∈ b, c.isDigit) (same : s ++ m :: a = t ++ n :: b) :
    s = t ∧ m = n ∧ a = b := by
  have digits : a = b := by
    rw [← List.reverse_inj, ← takeWhile_reverse_append hm ha, same, takeWhile_reverse_append hn hb]
  obtain ⟨front, behind⟩ := List.append_inj' same (by simp [digits])
  exact ⟨front, List.cons.inj behind⟩

theorem isDigits_padded (width n : Nat) : Numeral.IsDigits (padded width n).toList := by
  rw [toList_padded]
  exact .append_left (fun _ hc => Numeral.isDigit_of_mem_zeros hc) (Numeral.isDigits_toDigits n)

end Text

namespace Naming

variable {base other name : String} {version number : Int32} {digits : List Char}

/-! ### Names read as a version -/

/-- Digits, at least one, whose number is the version. -/
def Denotes (digits : List Char) (version : Int32) : Prop :=
  Numeral.IsDigits digits ∧ (Nat.ofDigitChars 10 digits 0 : Int) = version.toInt

theorem digitsVersion?_iff : digitsVersion? digits = some version ↔ Denotes digits version := by
  have greatest : Int32.maxValue.toNatClampNeg = 2147483647 := rfl
  have bound := Int32.toInt_lt version
  rw [digitsVersion?, Option.bind_eq_some_iff]
  constructor
  · rintro ⟨n, read, found⟩
    obtain ⟨shape, rfl⟩ := Text.natural?_iff.mp read
    split at found
    · next small =>
      cases found
      exact ⟨shape, (toInt_ofNat small).symm⟩
    · cases found
  · rintro ⟨shape, value⟩
    have small : Nat.ofDigitChars 10 digits 0 ≤ Int32.maxValue.toNatClampNeg := by omega
    refine ⟨_, Text.natural?_iff.mpr ⟨shape, rfl⟩, ?_⟩
    rw [if_pos small]
    exact congrArg some (Int32.toInt_inj.mp ((toInt_ofNat small).trans value))

theorem version?_iff : version? base name = some version ↔
    ∃ digits, Denotes digits version ∧ name = base ++ versionMarker ++ String.ofList digits := by
  rw [version?, Option.bind_eq_some_iff]
  refine exists_congr fun digits => ?_
  rw [Text.stripStart?_eq_some, digitsVersion?_iff, and_comm, ← String.toList_inj]
  simp

theorem denotes_toString (numbered : unversioned < version) : Denotes (toString version.toInt).toList version :=
  digitsVersion?_iff.mp (digitsVersion?_eq_some.mpr ⟨numbered, 0, rfl⟩)

/-- A version is one of its own base only. -/
theorem version?_versioned_iff (numbered : unversioned < number) :
    version? base (versioned other number) = some version ↔ base = other ∧ version = number := by
  constructor
  · intro h
    obtain ⟨digits, denotes, same⟩ := version?_iff.mp h
    have chars := congrArg String.toList same
    have spelt := denotes_toString numbered
    simp only [versioned, versionMarker, String.toList_append, String.toList_ofList] at chars
    obtain ⟨front, -, rfl⟩ := Text.append_digits_inj (s := other.toList ++ [':']) (t := base.toList ++ [':'])
      (m := 'v') (n := 'v') rfl rfl spelt.1.2 denotes.1.2 (by simpa using chars)
    refine ⟨String.toList_injective (List.append_cancel_right front).symm, ?_⟩
    exact Int32.toInt_inj.mp (denotes.2.symm.trans spelt.2)
  · rintro ⟨rfl, rfl⟩
    exact version?_versioned base numbered

/-- The number at the end of a time stands behind a point, and that of a version behind a letter. -/
theorem version?_backup (base other : String) (time : Timestamp) : version? base (backup other time) = none := by
  cases read : version? base (backup other time) with
  | none => rfl
  | some version =>
    obtain ⟨digits, denotes, same⟩ := version?_iff.mp read
    obtain ⟨front, text⟩ : ∃ front, time.text = front ++ "." ++ Text.padded 6 time.micro := ⟨_, rfl⟩
    have chars := congrArg String.toList same
    simp only [backup, retired, text, versionMarker, String.toList_append, String.toList_ofList] at chars
    obtain ⟨-, ⟨⟩, -⟩ := Text.append_digits_inj (s := other.toList ++ (backupMarker.toList ++ front.toList)) (m := '.')
      (t := base.toList ++ [':']) (n := 'v') rfl rfl (Text.isDigits_padded 6 time.micro).2 denotes.1.2
      (by simpa using chars)

/-- A version of another base, or a backup: one of the base with any text for its time, or one of any base. -/
inductive Foreign (base : String) : String → Prop where
  | version {other : String} {number : Int32} (different : other ≠ base) (numbered : unversioned < number) :
      Foreign base (versioned other number)
  | retired (stamp : String) : Foreign base (retired base stamp)
  | backup (other : String) (time : Timestamp) : Foreign base (backup other time)

theorem Foreign.unread (h : Foreign base name) : version? base name = none := by
  cases h with
  | @version other number different numbered =>
    cases read : version? base (versioned other number) with
    | none => rfl
    | some found => exact absurd ((version?_versioned_iff numbered).mp read).1.symm different
  | retired stamp => exact version?_retired base stamp
  | backup other time => exact version?_backup base other time

end Naming

/-! ### Plans -/

namespace Plan

variable {base : String} {version : Int32} {catalog larger : List TableInfo}

/-- The second catalog is the first with further entries, all of the kind, anywhere between its own. -/
inductive Enlarged (New : TableInfo → Prop) : List TableInfo → List TableInfo → Prop where
  | nil : Enlarged New [] []
  | keep {catalog larger : List TableInfo} (info : TableInfo) (rest : Enlarged New catalog larger) :
      Enlarged New (info :: catalog) (info :: larger)
  | add {info : TableInfo} {catalog larger : List TableInfo} (new : New info) (rest : Enlarged New catalog larger) :
      Enlarged New catalog (info :: larger)

namespace Enlarged

variable {New : TableInfo → Prop}

theorem versions_eq (h : Enlarged New catalog larger)
    (unread : ∀ info, New info → Naming.version? base info.name = none) :
    versions (tableNames larger) base = versions (tableNames catalog) base := by
  induction h with
  | nil => rfl
  | keep info rest ih =>
    simp only [versions, tableNames] at ih
    by_cases table : info.kind = .table <;> simp [versions, tableNames, table, List.filterMap_cons, ih]
  | @add info _ _ new rest ih =>
    simp only [versions, tableNames] at ih
    by_cases table : info.kind = .table <;> simp [versions, tableNames, table, unread info new, ih]

theorem mem_iff {name : String} (h : Enlarged New catalog larger) (apart : ∀ info, New info → info.name ≠ name) :
    name ∈ tableNames larger ↔ name ∈ tableNames catalog := by
  induction h with
  | nil => rfl
  | keep info rest ih =>
    simp only [tableNames] at ih
    by_cases table : info.kind = .table <;> simp [tableNames, table, ih]
  | @add info _ _ new rest ih =>
    simp only [tableNames] at ih
    by_cases table : info.kind = .table <;> simp [tableNames, table, (apart info new).symm, ih]

end Enlarged

/-- A plan depends on whether the active name is there and on the versions that are. -/
theorem ofCatalog_congr
    (present : Naming.active base version ∈ tableNames larger ↔ Naming.active base version ∈ tableNames catalog)
    (found : versions (tableNames larger) base = versions (tableNames catalog) base) :
    ofCatalog larger base version = ofCatalog catalog base version := by
  simp only [ofCatalog, present, found]

/-- A base is planned for from its own versions: what is read as one of its versions is a version of it, or another
    base's unversioned table that ends like one. Versions of other bases and backups, put into the catalog anywhere,
    leave the plan as it is where none of them has the active name. -/
theorem plans_from_own (base : String) :
    (∀ other number version, unversioned < number →
        (Naming.version? base (Naming.versioned other number) = some version ↔ base = other ∧ version = number)) ∧
      (∀ other version, Naming.version? base (Naming.active other unversioned) = some version ↔
        ∃ digits, Naming.Denotes digits version ∧ other = base ++ Naming.versionMarker ++ String.ofList digits) ∧
      (∀ stamp, Naming.version? base (Naming.retired base stamp) = none) ∧
      (∀ other time, Naming.version? base (Naming.backup other time) = none) ∧
      ∀ version catalog larger,
        Enlarged (fun info => Naming.Foreign base info.name ∧ info.name ≠ Naming.active base version) catalog larger →
          ofCatalog larger base version = ofCatalog catalog base version := by
  refine ⟨fun other number version numbered => Naming.version?_versioned_iff numbered, fun other version => ?_,
    Naming.version?_retired base, Naming.version?_backup base, fun version catalog larger enlarged => ?_⟩
  · rw [Naming.active_unversioned]
    exact Naming.version?_iff
  · have present := enlarged.mem_iff fun info new => new.2
    have found := enlarged.versions_eq fun info new => new.1.unread
    exact ofCatalog_congr present found

/-- The end of the day in the name of a backup. -/
def endOfDay : Timestamp :=
  { year := 2024, month := 12, day := 31, hour := 23, minute := 59, second := 59, micro := 999999,
    year_lt := Nat.le_of_ble_eq_true rfl, month_lt := Nat.le_of_ble_eq_true rfl }

/-- The first version of `t` between a version and a backup of bases that are called like it, and a backup of `t` that
    ends like a version. -/
def crowded : List TableInfo :=
  [⟨Naming.versioned "t:v1" 2, .table⟩, ⟨Naming.versioned "t" 1, .table⟩, ⟨Naming.retired "t" "x:v9", .table⟩,
    ⟨Naming.backup "t:v7" endOfDay, .table⟩]

theorem crowded_plan :
    Enlarged (fun info => Naming.Foreign "t" info.name ∧ info.name ≠ Naming.active "t" 3)
        [⟨Naming.versioned "t" 1, .table⟩] crowded ∧
      ofCatalog crowded "t" 3 = .ok (.migrate "t:v1" "t:v3" "t:v3" 1) := by
  have enlarged : Enlarged (fun info => Naming.Foreign "t" info.name ∧ info.name ≠ Naming.active "t" 3)
      [⟨Naming.versioned "t" 1, .table⟩] crowded :=
    .add ⟨.version (by decide) (by decide), by decide +kernel⟩ <| .keep _ <|
      .add ⟨.retired "x:v9", by decide +kernel⟩ <| .add ⟨.backup "t:v7" endOfDay, by decide +kernel⟩ .nil
  refine ⟨enlarged, ?_⟩
  rw [(plans_from_own "t").2.2.2.2 3 _ _ enlarged]
  decide +kernel

end Plan

end TypedTables
