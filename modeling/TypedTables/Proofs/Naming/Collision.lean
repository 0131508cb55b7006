import TypedTables.Proofs.Naming

/-!
# Names that two tables share

What a table is, its role with its base and its version or time, can be told from its name as long as no base has a
colon in it: a name is known by what stands before its first colon and what stands behind it. There is one exception.
The name of a temporary table starts like that of a version of the base `migrate`, and its base can look like the
number of that version (`name_eq_iff`). -/

namespace TypedTables.Naming

/-- A base without a colon. -/
@[ext]
structure Base where
  text : String
  plain : ':' ∉ text.toList := by decide +kernel
  deriving DecidableEq

/-- The base whose versions are named like temporary tables. -/
def migrating : Base := { text := "migrate" }

/-- What a table is, with all that its name is made of. The text of a time may be any. -/
inductive Designation where
  | current (base : Base)
  | version (base : Base) (number : Int32) (numbered : unversioned < number)
  | retired (base : Base) (stamp : String)
  | temporary (base : Base)
  deriving DecidableEq

namespace Designation

def name : Designation → String
  | current base => active base.text unversioned
  | version base number _ => versioned base.text number
  | retired base stamp => Naming.retired base.text stamp
  | temporary base => Naming.temporary base.text

/-- What stands before the first colon of the name. -/
def head : Designation → Base
  | current base => base
  | version base _ _ => base
  | retired base _ => base
  | temporary _ => migrating

/-- What stands behind the first colon of the name, if it has one. -/
def tail? : Designation → Option String
  | current _ => none
  | version _ number _ => some ("v" ++ toString number.toInt)
  | retired _ stamp => some ("backup:" ++ stamp)
  | temporary base => some base.text

/-! ### Parts of a name -/

theorem toList_name (d : Designation) :
    d.name.toList = d.head.text.toList ++ d.tail?.elim [] fun tail => ':' :: tail.toList := by
  cases d with
  | current base => simp [name, head, tail?, active]
  | version base number => simp [name, head, tail?, versioned, versionMarker]
  | retired base stamp => simp [name, head, tail?, Naming.retired, backupMarker]
  | temporary base => simp [name, head, tail?, Naming.temporary, temporaryStart, migrating]

theorem takeWhile_name (d : Designation) : d.name.toList.takeWhile (· ≠ ':') = d.head.text.toList := by
  have plain : ∀ c ∈ d.head.text.toList, decide (c ≠ ':') = true := fun c hc =>
    decide_eq_true fun same => d.head.plain (same ▸ hc)
  have stop : (d.tail?.elim [] fun tail => ':' :: tail.toList).takeWhile (· ≠ ':') = [] := by
    cases d.tail? <;> simp
  rw [toList_name, List.takeWhile_append_of_pos plain, stop, List.append_nil]

/-- A name is known by what stands before and behind its first colon. -/
theorem name_eq_iff_parts {d e : Designation} : d.name = e.name ↔ d.head = e.head ∧ d.tail? = e.tail? := by
  constructor
  · intro same
    have heads : d.head = e.head := Base.ext (String.toList_injective (by rw [← takeWhile_name, same, takeWhile_name]))
    have chars := congrArg String.toList same
    rw [toList_name, toList_name, heads] at chars
    have tails := List.append_cancel_left chars
    refine ⟨heads, ?_⟩
    cases hd : d.tail? <;> cases he : e.tail? <;> simp_all [String.toList_inj]
  · rintro ⟨heads, tails⟩
    apply String.toList_injective
    rw [toList_name, toList_name, heads, tails]

/-! ### What parts can agree -/

theorem number_inj {m n : Int32} (hm : unversioned < m) (hn : unversioned < n)
    (same : toString m.toInt = toString n.toInt) : m = n := by
  have read := version?_versioned "" hm
  rw [versioned, same] at read
  exact Option.some.inj (read.symm.trans (version?_versioned "" hn))

theorem version_ne_retired (digits stamp : String) : "v" ++ digits ≠ "backup:" ++ stamp := fun same => by
  have chars := congrArg String.toList same
  simp at chars

theorem retired_ne_text (base : Base) (stamp : String) : "backup:" ++ stamp ≠ base.text := fun same =>
  base.plain (by simp [← same])

/-- A version of `migrate`, and the temporary table of a base that looks like the number of the version. -/
def Clash : Designation → Designation → Prop
  | version base number _, temporary other => base = migrating ∧ other.text = "v" ++ toString number.toInt
  | _, _ => False

variable {d e : Designation}

theorem Clash.name_eq (h : Clash d e) : d.name = e.name := by
  unfold Clash at h
  split at h
  · obtain ⟨rfl, other⟩ := h
    exact name_eq_iff_parts.mpr ⟨rfl, congrArg some other.symm⟩
  · cases h

theorem eq_or_clash (heads : d.head = e.head) (tails : d.tail? = e.tail?) : d = e ∨ Clash d e ∨ Clash e d := by
  cases d with
  | current base =>
    cases e with
    | current other => exact Or.inl (congrArg current heads)
    | version | retired | temporary => cases tails
  | version base number numbered =>
    cases e with
    | current => cases tails
    | version other number' numbered' =>
      obtain rfl : base = other := heads
      have digits := (String.append_right_inj "v").mp (Option.some.inj tails)
      obtain rfl := number_inj numbered numbered' digits
      exact Or.inl rfl
    | retired other stamp => exact absurd (Option.some.inj tails) (version_ne_retired _ _)
    | temporary other => exact Or.inr (Or.inl ⟨heads, (Option.some.inj tails).symm⟩)
  | retired base stamp =>
    cases e with
    | current => cases tails
    | version other number' numbered' => exact absurd (Option.some.inj tails).symm (version_ne_retired _ _)
    | retired other stamp' =>
      obtain rfl : base = other := heads
      exact Or.inl (congrArg (retired base) ((String.append_right_inj "backup:").mp (Option.some.inj tails)))
    | temporary other => exact absurd (Option.some.inj tails) (retired_ne_text other stamp)
  | temporary base =>
    cases e with
    | current => cases tails
    | version other number numbered => exact Or.inr (Or.inr ⟨heads.symm, Option.some.inj tails⟩)
    | retired other stamp => exact absurd (Option.some.inj tails).symm (retired_ne_text base stamp)
    | temporary other => exact Or.inl (congrArg temporary (Base.ext (Option.some.inj tails)))

/-- Two tables that are not the same have different names, but for a version and a temporary table that clash. -/
theorem name_eq_iff (d e : Designation) : d.name = e.name ↔ d = e ∨ Clash d e ∨ Clash e d := by
  constructor
  · intro same
    obtain ⟨heads, tails⟩ := name_eq_iff_parts.mp same
    exact eq_or_clash heads tails
  · rintro (rfl | clash | clash)
    · rfl
    · exact clash.name_eq
    · exact clash.name_eq.symm

/-- The first version of `migrate` and the temporary table of `v1` have one name. -/
theorem migrate_v1_shared :
    name (version migrating 1 (by decide)) = "migrate:v1" ∧ name (temporary { text := "v1" }) = "migrate:v1" ∧
      version migrating 1 (by decide) ≠ temporary { text := "v1" } := by
  decide +kernel

end Designation

end TypedTables.Naming
