import Mathlib.Order.Bounds.Basic
import TypedTables.Proofs.Plan

/-!
# What a plan is chosen by

A catalog tells a plan two things: whether the active table is there, and which versions of the base its tables hold,
taken as a set. `Chosen` is the choice that follows from the two, and `ofCatalog_eq_iff` says that a plan is that choice
and no other. So the order of the catalog, its repetitions and its views do not matter.

The versions can be met one after the other. A pass from the first to the last keeps the greatest on either side of
the target and ends where it meets the target itself; what it comes to is the plan (`ofVersions_eq_ofPass`). -/

namespace TypedTables.Plan

variable {base : String} {version : Int32} {catalog : List TableInfo}

/-! ### One pass over the versions -/

/-- The greatest versions that were met above and below the target. -/
structure Met where
  newer : Option Int32 := none
  older : Option Int32 := none

namespace Met

/-- The greater of a version and one that was met before, if there was one. -/
def raise (found : Int32) (before : Option Int32) : Option Int32 := some (before.elim found (max · found))

/-- Meets a version that is not the target. -/
def note (version found : Int32) (met : Met) : Met :=
  if version < found then { met with newer := raise found met.newer } else { met with older := raise found met.older }

/-- What is kept is the greatest on either side among the versions seen. -/
structure Covers (version : Int32) (seen : List Int32) (met : Met) : Prop where
  newer : met.newer = greatest? (seen.filter (version < ·))
  older : met.older = greatest? (seen.filter (· < version))

theorem greatest?_concat (seen : List Int32) (found : Int32) :
    greatest? (seen ++ [found]) = raise found (greatest? seen) := by
  cases seen with
  | nil => rfl
  | cons first seen => simp [greatest?, raise]

theorem Covers.note {seen : List Int32} {found : Int32} {met : Met} (covers : Covers version seen met)
    (different : found ≠ version) : Covers version (seen ++ [found]) (met.note version found) := by
  by_cases above : version < found
  · have below : ¬found < version := Int32.lt_asymm above
    constructor
    · simp [Met.note, above, greatest?_concat, covers.newer]
    · simp [Met.note, above, below, covers.older]
  · have below : found < version := Int32.lt_of_le_of_ne (Int32.not_lt.mp above) different
    constructor
    · simp [Met.note, above, covers.newer]
    · simp [Met.note, above, below, greatest?_concat, covers.older]

end Met

/-- Meets the versions one after the other. Nothing is kept where the target is one of them. -/
def pass (version : Int32) : Met → List Int32 → Option Met
  | met, [] => some met
  | met, found :: rest => if found = version then none else pass version (met.note version found) rest

/-- A pass ends early at the target only, and otherwise keeps the greatest of all. -/
theorem pass_covers {seen : List Int32} {met : Met} (rest : List Int32) (covers : met.Covers version seen) :
    match pass version met rest with
    | none => version ∈ rest
    | some final => version ∉ rest ∧ final.Covers version (seen ++ rest) := by
  -- On what is left to be met; what was seen before is covered all along.
  induction rest generalizing seen met with
  | nil => exact ⟨List.not_mem_nil, by simpa using covers⟩
  | cons found rest ih =>
    by_cases target : found = version
    · simp [pass, target]
    · have tail := ih (covers.note target)
      simp only [pass, target, if_false]
      split at tail
      · exact List.mem_cons_of_mem _ tail
      · refine ⟨fun among => ?_, by simpa using tail.2⟩
        rcases List.mem_cons.mp among with same | among
        · exact target same.symm
        · exact tail.1 among

/-- The plan that a pass comes to. -/
def ofPass (base : String) (version : Int32) : Option Met → Except Error Plan
  | none => .ok (.skip (Naming.active base version))
  | some ⟨some newer, _⟩ => .error (.versionConflict base version newer)
  | some ⟨none, some older⟩ =>
    .ok (.migrate (Naming.versioned base older) (Naming.active base version) (Naming.active base version) older)
  | some ⟨none, none⟩ => .ok (.create (Naming.active base version))

theorem ofVersions_eq_ofPass (found : List Int32) :
    ofVersions base version found = ofPass base version (pass version {} found) := by
  have start : Met.Covers version [] {} := ⟨rfl, rfl⟩
  have run := pass_covers found start
  rw [ofVersions]
  split at run
  · next ended =>
    simp only [run, if_true, ended, ofPass]
  · next final ended =>
    obtain ⟨newer, older⟩ := final
    obtain ⟨missing, covers⟩ := run
    have above : greatest? (found.filter (version < ·)) = newer := covers.newer.symm
    have below : greatest? (found.filter (· < version)) = older := covers.older.symm
    simp only [missing, if_false, ended, above, below]
    cases newer <;> cases older <;> rfl

/-! ### The choice -/

/-- A table of the name is in the catalog. -/
def Listed (catalog : List TableInfo) (name : String) : Prop := ⟨name, .table⟩ ∈ catalog

/-- The versions of a base that the tables of a catalog hold. -/
def held (catalog : List TableInfo) (base : String) : Set Int32 :=
  {v | ∃ name, Listed catalog name ∧ Naming.version? base name = some v}

theorem listed_iff {name : String} : Listed catalog name ↔ name ∈ tableNames catalog := by
  simp only [Listed, tableNames, List.mem_map, List.mem_filter, decide_eq_true_eq]
  constructor
  · intro listed
    exact ⟨_, ⟨listed, rfl⟩, rfl⟩
  · rintro ⟨⟨other, kind⟩, ⟨among, rfl⟩, rfl⟩
    exact among

theorem mem_held {v : Int32} : v ∈ held catalog base ↔ v ∈ versions (tableNames catalog) base := by
  simp only [held, Set.mem_ofPred_eq, versions, List.mem_filterMap, listed_iff]

/-- The plan for a base, by whether its active table is there and by the versions of it that are. -/
inductive Chosen (base : String) (version : Int32) (present : Prop) (stored : Set Int32) :
    Except Error Plan → Prop where
  | invalid (low : version < unversioned) : Chosen base version present stored (.error (.invalidVersion version))
  /-- An unversioned table is migrated in place. -/
  | refilled (always : version = unversioned) (there : present) :
      Chosen base version present stored
        (.ok (.migrate (Naming.active base version) (Naming.temporary (Naming.active base version))
          (Naming.active base version) unversioned))
  | kept (numbered : unversioned < version) (there : present) :
      Chosen base version present stored (.ok (.skip (Naming.active base version)))
  /-- The target is there under another spelling of its number. -/
  | respelt (released : unversioned ≤ version) (missing : ¬present) (found : version ∈ stored) :
      Chosen base version present stored (.ok (.skip (Naming.active base version)))
  | conflict {newest : Int32} (released : unversioned ≤ version) (missing : ¬present) (absent : version ∉ stored)
      (greatest : IsGreatest stored newest) (newer : version < newest) :
      Chosen base version present stored (.error (.versionConflict base version newest))
  | copied {newest : Int32} (released : unversioned ≤ version) (missing : ¬present) (absent : version ∉ stored)
      (greatest : IsGreatest stored newest) (older : newest < version) :
      Chosen base version present stored
        (.ok (.migrate (Naming.versioned base newest) (Naming.active base version) (Naming.active base version) newest))
  | created (released : unversioned ≤ version) (missing : ¬present) (empty : stored = ∅) :
      Chosen base version present stored (.ok (.create (Naming.active base version)))

theorem greatest_unique {stored : Set Int32} {v w : Int32} (hv : IsGreatest stored v) (hw : IsGreatest stored w) :
    v = w := Int32.le_antisymm (hw.2 hv.1) (hv.2 hw.1)

section
variable {present : Prop} {stored : Set Int32}

/-- There is one choice: two cases exclude each other by what they say of the target, or they name the one greatest
    version. -/
theorem Chosen.unique {r r' : Except Error Plan} (h : Chosen base version present stored r)
    (h' : Chosen base version present stored r') : r = r' := by
  cases h <;> cases h'
  all_goals grind [IsGreatest, greatest_unique]

/-- Where no version is above the target and none is the target, all are below it. -/
theorem below_of_none {found : List Int32} (absent : version ∉ found)
    (h : greatest? (found.filter (version < ·)) = none) {v : Int32} (hv : v ∈ found) :
    v ∈ found.filter (· < version) := by
  have notAbove : ¬version < v := fun above => by
    have among : v ∈ found.filter (version < ·) := List.mem_filter.mpr ⟨hv, decide_eq_true above⟩
    rw [greatest?_eq_none.mp h] at among
    cases among
  have different : v ≠ version := fun same => absent (same ▸ hv)
  exact List.mem_filter.mpr ⟨hv, decide_eq_true (Int32.lt_of_le_of_ne (Int32.not_lt.mp notAbove) different)⟩

/-- What a pass over the versions comes to is chosen for a target that is not there under its active name. -/
theorem chosen_ofVersions {found : List Int32} (released : unversioned ≤ version) (missing : ¬present)
    (same : ∀ v, v ∈ stored ↔ v ∈ found) : Chosen base version present stored (ofVersions base version found) := by
  have start : Met.Covers version [] {} := ⟨rfl, rfl⟩
  have run := pass_covers found start
  rw [ofVersions_eq_ofPass]
  cases ended : pass version {} found with
  | none =>
    rw [ended] at run
    exact .respelt released missing ((same version).mpr run)
  | some final =>
    rw [ended] at run
    obtain ⟨newer, older⟩ := final
    obtain ⟨absent, covers⟩ := run
    have absent' : version ∉ stored := fun among => absent ((same version).mp among)
    have above : greatest? (found.filter (version < ·)) = newer := covers.newer.symm
    have below : greatest? (found.filter (· < version)) = older := covers.older.symm
    cases newer with
    | some newest =>
      obtain ⟨among, newer, bound⟩ := greatest_of_above above
      exact .conflict released missing absent' ⟨(same newest).mpr among, fun v hv => bound v ((same v).mp hv)⟩ newer
    | none =>
      have all : ∀ v ∈ stored, v ∈ found.filter (· < version) := fun v hv => below_of_none absent above ((same v).mp hv)
      cases older with
      | some newest =>
        obtain ⟨among, bound⟩ := greatest?_eq_some.mp below
        obtain ⟨among, older⟩ := List.mem_filter.mp among
        exact .copied released missing absent' ⟨(same newest).mpr among, fun v hv => bound v (all v hv)⟩
          (of_decide_eq_true older)
      | none =>
        rw [greatest?_eq_none.mp below] at all
        exact .created released missing (Set.eq_empty_iff_forall_notMem.mpr fun v hv => List.not_mem_nil (all v hv))

end

/-- The plan for a base is chosen by what the catalog holds of it. -/
theorem chosen_ofCatalog (catalog : List TableInfo) (base : String) (version : Int32) :
    Chosen base version (Listed catalog (Naming.active base version)) (held catalog base)
      (ofCatalog catalog base version) := by
  by_cases low : version < unversioned
  · rw [ofCatalog, if_pos low]
    exact .invalid low
  have released : unversioned ≤ version := Int32.not_lt.mp low
  rw [ofCatalog, if_neg low]
  by_cases there : Listed catalog (Naming.active base version)
  · have present := listed_iff.mp there
    by_cases always : version = unversioned
    · simp only [present, if_true]
      rw [if_pos always]
      exact .refilled always there
    · simp only [present, if_true]
      rw [if_neg always]
      exact .kept (Int32.lt_of_le_of_ne released (Ne.symm always)) there
  · have missing : Naming.active base version ∉ tableNames catalog := fun present => there (listed_iff.mpr present)
    simp only [missing, if_false]
    exact chosen_ofVersions released there fun v => mem_held

/-- A plan is what is chosen and nothing else. Catalogs of the same tables, in any order, each table any number of
    times and with any views, have the same plan. -/
theorem ofCatalog_eq_iff (catalog : List TableInfo) (base : String) (version : Int32) :
    (∀ r, ofCatalog catalog base version = r ↔
        Chosen base version (Listed catalog (Naming.active base version)) (held catalog base) r) ∧
      ∀ other, (∀ name, Listed other name ↔ Listed catalog name) →
        ofCatalog other base version = ofCatalog catalog base version := by
  have chosen := chosen_ofCatalog catalog base version
  refine ⟨fun r => ⟨fun same => same ▸ chosen, chosen.unique⟩, fun other same => ?_⟩
  have again := chosen_ofCatalog other base version
  have stored : held other base = held catalog base := by simp only [held, same]
  rw [stored, propext (same _)] at again
  exact again.unique chosen

/-- Three versions of `t`. -/
def three : List TableInfo := [⟨"t:v9", .table⟩, ⟨"t:v10", .table⟩, ⟨"t:v2", .table⟩]

/-- The same tables in another order, one of them twice, between views that are called like newer versions. -/
def threeMixed : List TableInfo :=
  [⟨"t:v12", .view⟩, ⟨"t:v10", .table⟩, ⟨"t:v2", .table⟩, ⟨"t:v9", .table⟩, ⟨"t:v11", .view⟩, ⟨"t:v10", .table⟩]

theorem threeMixed_plan :
    (∀ name, Listed threeMixed name ↔ Listed three name) ∧
      ofCatalog threeMixed "t" 11 = .ok (.migrate "t:v10" "t:v11" "t:v11" 10) := by
  have same : ∀ name, Listed threeMixed name ↔ Listed three name := fun name => by
    simp only [Listed, three, threeMixed, List.mem_cons, TableInfo.mk.injEq, reduceCtorEq, and_false, and_true,
      List.not_mem_nil, or_false, false_or]
    tauto
  refine ⟨same, ?_⟩
  rw [(ofCatalog_eq_iff three "t" 11).2 threeMixed same]
  decide +kernel

end TypedTables.Plan
