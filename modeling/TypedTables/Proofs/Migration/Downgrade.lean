import TypedTables.Proofs.Migration.Presence

/-!
# Targets below a stored version

A catalog can hold a version that is asked for and a newer one beside it, as after a migration that was stopped before
its source was retired. The target is looked for first, so a newer version is a conflict exactly where the target is
missing (`ofCatalog_of_reached`, `ofCatalog_of_outdated`). A call that meets a newer version executes nothing, unless it
is for an unversioned table that is there: that table is migrated in place (`newer_refused_iff_missing`). -/

namespace TypedTables

namespace Plan

/-- The names hold a version above the target. -/
def Outdated (names : List String) (base : String) (version : Int32) : Prop :=
  ∃ found ∈ versions names base, version < found

/-- The names hold the target, under its active name or with its number written in another way. -/
def Reached (names : List String) (base : String) (version : Int32) : Prop :=
  Naming.active base version ∈ names ∨ version ∈ versions names base

variable {names : List String} {catalog : List TableInfo} {base : String} {version : Int32}

/-- A target that is there is kept, and an unversioned one is migrated in place, whatever else is there. -/
theorem ofCatalog_of_reached (released : unversioned ≤ version) (reached : Reached (tableNames catalog) base version) :
    ofCatalog catalog base version =
      .ok (if version = unversioned then .migrate base (Naming.temporary base) base unversioned
        else .skip (Naming.active base version)) := by
  by_cases always : version = unversioned
  · subst always
    rw [if_pos rfl]
    rcases reached with present | found
    · rw [Naming.active_unversioned] at present
      simp [ofCatalog, Naming.active_unversioned, present]
    · exact absurd (unversioned_lt_of_mem found) Int32.lt_irrefl
  · have numbered : unversioned < version := Int32.lt_of_le_of_ne released (Ne.symm always)
    have found : version ∈ versions (tableNames catalog) base := reached.elim (mem_versions_of_active numbered) id
    rw [if_neg always, ofCatalog_of_mem_versions found, active_of_numbered numbered]

theorem Outdated.newest (outdated : Outdated names base version) :
    ∃ newest, greatest? ((versions names base).filter (version < ·)) = some newest ∧
      newest ∈ versions names base ∧ ∀ found ∈ versions names base, found ≤ newest := by
  obtain ⟨newer, held, above⟩ := outdated
  have among : newer ∈ (versions names base).filter (version < ·) := List.mem_filter.mpr ⟨held, decide_eq_true above⟩
  cases greatest : greatest? ((versions names base).filter (version < ·)) with
  | none =>
    rw [greatest?_eq_none.mp greatest] at among
    cases among
  | some newest =>
    obtain ⟨stored, -, bound⟩ := greatest_of_above greatest
    exact ⟨newest, rfl, stored, bound⟩

/-- A target that is missing is refused for the newest version. -/
theorem ofCatalog_of_outdated (released : unversioned ≤ version) (outdated : Outdated (tableNames catalog) base version)
    (missing : ¬Reached (tableNames catalog) base version) :
    ∃ newest, ofCatalog catalog base version = .error (.versionConflict base version newest) ∧
      newest ∈ versions (tableNames catalog) base ∧ ∀ found ∈ versions (tableNames catalog) base, found ≤ newest := by
  obtain ⟨newest, greatest, stored⟩ := outdated.newest
  refine ⟨newest, ?_, stored⟩
  generalize decided : ofCatalog catalog base version = result
  cases decision_of_eq decided with
  | invalid low => exact absurd (Int32.lt_of_lt_of_le low released) Int32.lt_irrefl
  | refilled always present =>
    rw [← Naming.active_unversioned base, ← always] at present
    exact absurd (Or.inl present) missing
  | kept _ present => exact absurd (Or.inl present) missing
  | respelt _ found => exact absurd (Or.inr found) missing
  | conflict _ found =>
    cases greatest.symm.trans found
    rfl
  | copied _ highest => cases greatest.symm.trans highest
  | created _ highest => cases greatest.symm.trans highest

end Plan

namespace Migration

variable {κ ρ σ : Type} [Kinds κ] {backend : Backend σ} {base : String} {schema : Schema κ ρ}
  {time : Option Timestamp} {s t : σ} {calls : List Call} {r : Except Error (Option Report)} {catalog : List TableInfo}

theorem Planned.of_listed {other : List TableInfo} {plan : Plan} (h : Planned backend base schema s other plan t)
    (listed : (backend.listTables.runOn s).1 = .ok catalog) :
    Plan.ofCatalog catalog base schema.version = .ok plan := by
  rw [h.listed] at listed
  cases listed
  exact h.plan

/-- A call that has nothing to create and nothing to migrate executes nothing and reports nothing. -/
theorem Course.idle (h : Course backend base schema time s calls r t)
    (listed : (backend.listTables.runOn s).1 = .ok catalog)
    (idle : ∀ plan, Plan.ofCatalog catalog base schema.version = .ok plan → ∃ table, plan = .skip table) :
    calls.filterMap Call.executed? = [] ∧ ∀ report, r ≠ .ok (some report) := by
  cases h with
  | created planned =>
    obtain ⟨table, ⟨⟩⟩ := idle _ (planned.of_listed listed)
  | migrated planned =>
    obtain ⟨table, ⟨⟩⟩ := idle _ (planned.of_listed listed)
  | _ => exact ⟨rfl, fun report => by simp⟩

/-- A catalog that is refused stops every call for a sound schema. -/
theorem Course.conflict {e : Error} (h : Course backend base schema time s calls r t)
    (listed : (backend.listTables.runOn s).1 = .ok catalog)
    (conflict : Plan.ofCatalog catalog base schema.version = .error e) (valid : schema.validate = .ok ()) :
    r = .error e := by
  have unplanned : ∀ {other plan u}, ¬Planned backend base schema s other plan u := fun planned => by
    cases conflict.symm.trans (planned.of_listed listed)
  cases h with
  | invalid check => cases valid.symm.trans check
  | unlisted answer =>
    rw [answer] at listed
    cases listed
  | unplanned answer refused =>
    rw [answer] at listed
    cases listed
    cases conflict.symm.trans refused
    rfl
  | skipped planned => exact absurd planned unplanned
  | created planned => exact absurd planned unplanned
  | unread planned => exact absurd planned unplanned
  | unfit planned => exact absurd planned unplanned
  | migrated planned => exact absurd planned unplanned

/-- A version above the target is a conflict, named by the newest, exactly where the target is missing. Otherwise the
    target is kept, or migrated in place where it is unversioned, which is the one case in which a call for it executes
    anything. -/
theorem newer_refused_iff_missing {version : Int32} (released : unversioned ≤ version)
    (outdated : Plan.Outdated (Plan.tableNames catalog) base version) :
    ((∃ newest, Plan.ofCatalog catalog base version = .error (.versionConflict base version newest) ∧
          newest ∈ Plan.versions (Plan.tableNames catalog) base ∧
          ∀ found ∈ Plan.versions (Plan.tableNames catalog) base, found ≤ newest) ↔
        ¬Plan.Reached (Plan.tableNames catalog) base version) ∧
      (Plan.Reached (Plan.tableNames catalog) base version →
        Plan.ofCatalog catalog base version =
          .ok (if version = unversioned then .migrate base (Naming.temporary base) base unversioned
            else .skip (Naming.active base version))) ∧
      ∀ {κ ρ σ : Type} [Kinds κ] {backend : Backend σ} {schema : Schema κ ρ} {time : Option Timestamp} {s : σ}
        {r : Except Error (Option Report)} {after : Journaled σ}, schema.version = version →
        (backend.listTables.runOn s).1 = .ok catalog →
        (bring backend.journaled base schema time).runOn ⟨s, []⟩ = (r, after) →
        (schema.validate = .ok () → ∀ e, Plan.ofCatalog catalog base version = .error e → r = .error e) ∧
          (Plan.Reached (Plan.tableNames catalog) base version ∧ version = unversioned ∨
            after.executed = [] ∧ ∀ report, r ≠ .ok (some report)) := by
  refine ⟨⟨?_, Plan.ofCatalog_of_outdated released outdated⟩, Plan.ofCatalog_of_reached released, ?_⟩
  · rintro ⟨newest, conflict, -⟩ reached
    cases conflict.symm.trans (Plan.ofCatalog_of_reached released reached)
  rintro κ ρ σ _ backend schema time s r after rfl listed run
  have course := bring_journal run
  refine ⟨fun valid e conflict => course.conflict listed conflict valid, ?_⟩
  by_cases reached : Plan.Reached (Plan.tableNames catalog) base schema.version
  · by_cases always : schema.version = unversioned
    · exact Or.inl ⟨reached, always⟩
    have kept := Plan.ofCatalog_of_reached released reached
    rw [if_neg always] at kept
    refine Or.inr (course.idle listed fun plan planned => ?_)
    cases kept.symm.trans planned
    exact ⟨_, rfl⟩
  · obtain ⟨newest, conflict, -⟩ := Plan.ofCatalog_of_outdated released outdated reached
    refine Or.inr (course.idle listed fun plan planned => ?_)
    cases conflict.symm.trans planned

/-- A schema of the people that is older than the store. -/
theorem older_people_refused :
    Plan.Outdated (Plan.tableNames peopleStore.catalog) "people" 0 ∧
      Plan.ofCatalog peopleStore.catalog "people" 0 = .error (.versionConflict "people" 0 1) ∧
      ∃ after : Journaled PlainStore,
        (bring PlainStore.backend.journaled "people" (people.withVersion 0) (some noon)).runOn ⟨peopleStore, []⟩ =
            (.error (.versionConflict "people" 0 1), after) ∧
          after.executed = [] := by
  have names : Plan.versions (Plan.tableNames peopleStore.catalog) "people" = [1] := by decide +kernel
  have active : Naming.active "people" 0 ∉ Plan.tableNames peopleStore.catalog := by decide +kernel
  have missing : ¬Plan.Reached (Plan.tableNames peopleStore.catalog) "people" 0 := by
    rintro (present | found)
    · exact active present
    · simp [names] at found
  have outdated : Plan.Outdated (Plan.tableNames peopleStore.catalog) "people" 0 := ⟨1, by simp [names], by decide⟩
  obtain ⟨conflict, -, call⟩ := newer_refused_iff_missing (by decide) outdated
  obtain ⟨newest, refused, found, -⟩ := conflict.mpr missing
  rw [names] at found
  cases List.mem_singleton.mp found
  rcases run : (bring PlainStore.backend.journaled "people" (people.withVersion 0) (some noon)).runOn
    ⟨peopleStore, []⟩ with ⟨r, after⟩
  obtain ⟨fails, ⟨reached, -⟩ | ⟨nothing, -⟩⟩ := call rfl rfl run
  · exact absurd reached missing
  · obtain rfl := fails (by decide +kernel) _ refused
    exact ⟨outdated, refused, after, rfl, nothing⟩

/-- With both versions in the store the older one is kept, and people without a version are migrated in place though
    there is a version of them: the newer version is noticed in neither case. -/
theorem newer_people_unnoticed :
    2 ∈ Plan.versions (Plan.tableNames [⟨"people:v1", .table⟩, ⟨"people:v2", .table⟩]) "people" ∧
      Plan.ofCatalog [⟨"people:v1", .table⟩, ⟨"people:v2", .table⟩] "people" 1 = .ok (.skip "people:v1") ∧
      Plan.ofCatalog [⟨"people", .table⟩, ⟨"people:v1", .table⟩] "people" unversioned =
        .ok (.migrate "people" "migrate:people" "people" unversioned) ∧
      ((bring PlainStore.backend.journaled "people" (people.withVersion unversioned) none).runOn
          ⟨peopleStore.put "people" firstPeople, []⟩).2.executed.map Prod.snd = [.ok 0, .ok 2, .ok 0, .ok 0] := by
  decide +kernel

end Migration

end TypedTables
