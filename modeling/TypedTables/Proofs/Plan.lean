import TypedTables.Plan
import TypedTables.Proofs.Naming

/-!
# What a plan says

Everything that can be decided for a base, with what the decision rests on (`Decision`). A migration either fills an
unversioned table in place or copies an older version. A version that is there under its active name is left alone.
No name holds a version below zero, so an unversioned table that is missing has nothing to be migrated from. -/

namespace TypedTables

namespace Naming

theorem active_unversioned (base : String) : active base unversioned = base := if_pos rfl

theorem temporary_ne (name : String) : temporary name ≠ name := fun h => by
  have length := congrArg String.length h
  rw [temporary, String.length_append] at length
  have start : temporaryStart.length = 8 := rfl
  omega

end Naming

/-- Versions are in order, and of two the greater is one of them. -/
instance lawfulOrderMax : Std.LawfulOrderMax Int32 where
  max_eq_or v w := by
    show (if v ≤ w then w else v) = v ∨ (if v ≤ w then w else v) = w
    split
    · exact Or.inr rfl
    · exact Or.inl rfl
  max_le_iff v w bound := by
    show (if v ≤ w then w else v) ≤ bound ↔ v ≤ bound ∧ w ≤ bound
    split
    · next less => exact ⟨fun h => ⟨Int32.le_trans less h, h⟩, And.right⟩
    · next less => exact ⟨fun h => ⟨h, Int32.le_trans (Int32.le_of_lt (Int32.not_le.mp less)) h⟩, And.left⟩

namespace Plan

theorem greatest?_eq_max? (versions : List Int32) : greatest? versions = versions.max? := by
  cases versions <;> rfl

theorem greatest?_eq_none {versions : List Int32} : greatest? versions = none ↔ versions = [] := by
  rw [greatest?_eq_max?, List.max?_eq_none_iff]

theorem greatest?_eq_some {versions : List Int32} {v : Int32} :
    greatest? versions = some v ↔ v ∈ versions ∧ ∀ w ∈ versions, w ≤ v := by
  rw [greatest?_eq_max?, List.max?_eq_some_iff]

theorem greatest?_mem {versions : List Int32} {v : Int32} (h : greatest? versions = some v) : v ∈ versions :=
  (greatest?_eq_some.mp h).1

variable {base source destination active : String} {version fromVersion : Int32} {catalog : List TableInfo}

/-- The greatest version above the target is the greatest of all. -/
theorem greatest_of_above {found : List Int32} {newest : Int32}
    (h : greatest? (found.filter (version < ·)) = some newest) :
    newest ∈ found ∧ version < newest ∧ ∀ v ∈ found, v ≤ newest := by
  obtain ⟨among, bound⟩ := greatest?_eq_some.mp h
  obtain ⟨among, above⟩ := List.mem_filter.mp among
  have above : version < newest := of_decide_eq_true above
  refine ⟨among, above, fun v hv => ?_⟩
  by_cases higher : version < v
  · exact bound v (List.mem_filter.mpr ⟨hv, decide_eq_true higher⟩)
  · exact Int32.le_trans (Int32.not_lt.mp higher) (Int32.le_of_lt above)

theorem unversioned_lt_of_mem {names : List String} (h : version ∈ versions names base) : unversioned < version := by
  obtain ⟨name, -, h⟩ := List.mem_filterMap.mp h
  exact Naming.unversioned_lt_of_version? h

/-- What is decided for a base, with everything that the decision rests on. -/
inductive Decision (names : List String) (base : String) (version : Int32) : Except Error Plan → Prop where
  | invalid (low : version < unversioned) : Decision names base version (.error (.invalidVersion version))
  | refilled (always : version = unversioned) (present : base ∈ names) :
      Decision names base version (.ok (.migrate base (Naming.temporary base) base unversioned))
  | kept (numbered : version ≠ unversioned) (present : Naming.active base version ∈ names) :
      Decision names base version (.ok (.skip (Naming.active base version)))
  /-- The version is there, with its number written in another way. -/
  | respelt (missing : Naming.active base version ∉ names) (found : version ∈ versions names base) :
      Decision names base version (.ok (.skip (Naming.active base version)))
  | conflict {newer : Int32} (missing : Naming.active base version ∉ names)
      (found : greatest? ((versions names base).filter (version < ·)) = some newer) :
      Decision names base version (.error (.versionConflict base version newer))
  | copied {older : Int32} (missing : Naming.active base version ∉ names)
      (highest : greatest? ((versions names base).filter (version < ·)) = none)
      (found : greatest? ((versions names base).filter (· < version)) = some older) :
      Decision names base version
        (.ok (.migrate (Naming.versioned base older) (Naming.active base version) (Naming.active base version) older))
  | created (missing : Naming.active base version ∉ names)
      (highest : greatest? ((versions names base).filter (version < ·)) = none)
      (lowest : greatest? ((versions names base).filter (· < version)) = none) :
      Decision names base version (.ok (.create (Naming.active base version)))

theorem ofCatalog_decision (catalog : List TableInfo) (base : String) (version : Int32) :
    Decision (tableNames catalog) base version (ofCatalog catalog base version) := by
  unfold ofCatalog
  split
  · next low => exact .invalid low
  simp only
  split
  · next present =>
    split
    · next always =>
      subst always
      exact .refilled rfl present
    · next numbered => exact .kept numbered present
  next missing =>
  unfold ofVersions
  simp only
  split
  · next found => exact .respelt missing found
  split
  · next found => exact .conflict missing found
  next highest =>
  split
  · next found => exact .copied missing highest found
  · next lowest => exact .created missing highest lowest

theorem decision_of_eq {result : Except Error Plan} (h : ofCatalog catalog base version = result) :
    Decision (tableNames catalog) base version result := h ▸ ofCatalog_decision catalog base version

/-- The catalog is refused where the target is no version, or where it holds a newer one. -/
theorem ofCatalog_eq_error {e : Error} (h : ofCatalog catalog base version = .error e) :
    e = .invalidVersion version ∨ ∃ newer, e = .versionConflict base version newer := by
  cases decision_of_eq h with
  | invalid => exact Or.inl rfl
  | conflict => exact Or.inr ⟨_, rfl⟩

/-- A migration fills an unversioned table in place, or it copies an older version to the active name. -/
theorem ofCatalog_eq_migrate
    (h : ofCatalog catalog base version = .ok (.migrate source destination active fromVersion)) :
    active = Naming.active base version ∧
      (version = unversioned ∧ source = active ∧ destination = Naming.temporary active ∨
        version ≠ unversioned ∧ destination = active) := by
  cases decision_of_eq h with
  | refilled always present =>
    rw [always, Naming.active_unversioned]
    exact ⟨rfl, Or.inl ⟨rfl, rfl, rfl⟩⟩
  | copied missing highest found =>
    obtain ⟨present, less⟩ := List.mem_filter.mp (greatest?_mem found)
    have positive := Int32.lt_trans (unversioned_lt_of_mem present) (of_decide_eq_true less)
    exact ⟨rfl, Or.inr ⟨(Int32.ne_of_lt positive).symm, rfl⟩⟩

/-- A version that is there under its active name is left alone. -/
theorem ofCatalog_of_mem {plan : Plan} (h : ofCatalog catalog base version = .ok plan)
    (numbered : version ≠ unversioned) (present : Naming.active base version ∈ tableNames catalog) :
    plan = .skip (Naming.active base version) := by
  cases decision_of_eq h with
  | refilled always => exact absurd always numbered
  | kept => rfl
  | respelt missing => exact absurd present missing
  | copied missing => exact absurd present missing
  | created missing => exact absurd present missing

/-- An unversioned table is filled again if it is there and created if it is not. -/
theorem ofCatalog_unversioned {plan : Plan} (h : ofCatalog catalog base unversioned = .ok plan) :
    base ∈ tableNames catalog ∧ plan = .migrate base (Naming.temporary base) base unversioned ∨
      base ∉ tableNames catalog ∧ plan = .create base := by
  cases decision_of_eq h with
  | refilled _ present => exact Or.inl ⟨present, rfl⟩
  | kept numbered => exact absurd rfl numbered
  | respelt _ found => exact absurd (unversioned_lt_of_mem found) Int32.lt_irrefl
  | copied _ _ found =>
    obtain ⟨present, less⟩ := List.mem_filter.mp (greatest?_mem found)
    exact absurd (of_decide_eq_true less) (Int32.lt_asymm (unversioned_lt_of_mem present))
  | created missing => exact Or.inr ⟨missing, rfl⟩

/-! ### Targets with a version -/

theorem active_of_numbered (numbered : unversioned < version) :
    Naming.active base version = Naming.versioned base version := if_neg (Int32.ne_of_lt numbered).symm

/-- An active table is one of the versions. -/
theorem mem_versions_of_active {names : List String} (numbered : unversioned < version)
    (present : Naming.active base version ∈ names) : version ∈ versions names base := by
  rw [active_of_numbered numbered] at present
  exact List.mem_filterMap.mpr ⟨_, present, Naming.version?_versioned base numbered⟩

/-- A target with a version is decided by the versions that are there, however their names are written. -/
theorem ofCatalog_of_numbered (numbered : unversioned < version) :
    ofCatalog catalog base version = ofVersions base version (versions (tableNames catalog) base) := by
  rw [ofCatalog, if_neg (Int32.lt_asymm numbered)]
  by_cases present : Naming.active base version ∈ tableNames catalog
  · have different : version ≠ unversioned := (Int32.ne_of_lt numbered).symm
    simp only [present, different, ofVersions, mem_versions_of_active numbered present, ite_true, ite_false]
  · simp only [present, ite_false]

theorem ofVersions_nil : ofVersions base version [] = .ok (.create (Naming.active base version)) := rfl

/-- One version decides: a target below it is refused, and one above it is copied from it. -/
theorem ofVersions_singleton (base : String) (version current : Int32) :
    ofVersions base version [current] =
      if version < current then .error (.versionConflict base version current)
      else if version = current then .ok (.skip (Naming.active base version))
      else .ok (.migrate (Naming.versioned base current) (Naming.active base version)
        (Naming.active base version) current) := by
  by_cases older : version < current
  · have different : version ≠ current := Int32.ne_of_lt older
    simp [ofVersions, greatest?, older, different]
  by_cases same : version = current
  · simp [ofVersions, same]
  · have newer : current < version := Int32.lt_of_le_of_ne (Int32.not_lt.mp older) (Ne.symm same)
    simp [ofVersions, greatest?, older, same, newer]

end Plan

end TypedTables
