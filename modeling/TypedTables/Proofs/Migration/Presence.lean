import TypedTables.Proofs.Migration.Forward
import TypedTables.Proofs.Plan

/-!
# Tables that a plan takes to be there

A plan is made from the numbers of versions, and the tables that it skips or copies are named anew from these numbers.
A name with zeros in front of its number is read as the same version but is not the name that is written for it. So a
plan relies on a table that is there exactly as far as each version of the base also stands under its own name
(`relied_present_iff`), and a call that ends well can leave the active table missing (`bring_active`). -/

namespace TypedTables

namespace Plan

/-- The table that a plan takes to be there. -/
def relied? : Plan → Option String
  | .create _ => none
  | .migrate source _ _ _ => some source
  | .skip table => some table

variable {names : List String} {catalog : List TableInfo} {base name : String} {version : Int32} {plan : Plan}

theorem mem_versions :
    version ∈ versions names base ↔ unversioned < version ∧ ∃ zeros, Naming.respelt base version zeros ∈ names := by
  rw [versions, List.mem_filterMap]
  constructor
  · rintro ⟨name, present, read⟩
    obtain ⟨numbered, zeros, rfl⟩ := Naming.version?_eq_some.mp read
    exact ⟨numbered, zeros, present⟩
  · rintro ⟨numbered, zeros, present⟩
    exact ⟨_, present, Naming.version?_eq_some.mpr ⟨numbered, zeros, rfl⟩⟩

/-- The table that a plan takes to be there is, or it has the name of a version that the catalog holds. -/
theorem relied_cases (h : ofCatalog catalog base version = .ok plan) (relied : plan.relied? = some name) :
    name ∈ tableNames catalog ∨
      ∃ found ∈ versions (tableNames catalog) base, name = Naming.versioned base found := by
  cases decision_of_eq h with
  | refilled _ present =>
    cases relied
    exact Or.inl present
  | kept _ present =>
    cases relied
    exact Or.inl present
  | respelt _ found =>
    cases relied
    exact Or.inr ⟨version, found, active_of_numbered (unversioned_lt_of_mem found)⟩
  | copied _ _ found =>
    cases relied
    exact Or.inr ⟨_, (List.mem_filter.mp (greatest?_mem found)).1, rfl⟩
  | created => cases relied

theorem ofCatalog_of_mem_versions (found : version ∈ versions (tableNames catalog) base) :
    ofCatalog catalog base version = .ok (.skip (Naming.versioned base version)) := by
  have numbered := unversioned_lt_of_mem found
  rw [ofCatalog_of_numbered numbered, ofVersions, if_pos found, active_of_numbered numbered]

/-- Every plan for a base relies on a table that is there exactly if each version that the catalog holds also stands
    under the name that is written for it. -/
theorem relied_present_iff (catalog : List TableInfo) (base : String) :
    (∀ version plan name, ofCatalog catalog base version = .ok plan → plan.relied? = some name →
        name ∈ tableNames catalog) ↔
      ∀ version zeros, unversioned < version → Naming.respelt base version zeros ∈ tableNames catalog →
        Naming.versioned base version ∈ tableNames catalog := by
  constructor
  · intro present version zeros numbered spelt
    have found : version ∈ versions (tableNames catalog) base := mem_versions.mpr ⟨numbered, zeros, spelt⟩
    exact present version _ _ (ofCatalog_of_mem_versions found) rfl
  · intro written version plan name h relied
    rcases relied_cases h relied with present | ⟨found, held, rfl⟩
    · exact present
    · obtain ⟨numbered, zeros, spelt⟩ := mem_versions.mp held
      exact written found zeros numbered spelt

theorem not_mem_of_create (h : ofCatalog catalog base version = .ok (.create name)) : name ∉ tableNames catalog := by
  cases decision_of_eq h with
  | created missing => exact missing

end Plan

namespace Migration

variable {κ ρ σ : Type} [Kinds κ] {backend : Backend σ} {view : σ → PlainStore} {base : String}
  {schema : Schema κ ρ} {time : Option Timestamp} {s t : σ} {answer : Option Report}

/-- A call that ends well leaves the active table, unless it found nothing to do because the version is there only under
    a name with zeros in front of its number. -/
theorem bring_active (follows : Follows backend view)
    (run : (bring backend base schema time).runOn s = (.ok answer, t)) :
    (∃ table, (view t).table? (Naming.active base schema.version) = some table) ∨
      answer = none ∧ view t = view s ∧ (view s).table? (Naming.active base schema.version) = none ∧
        ∃ zeros table, 0 < zeros ∧ (view s).table? (Naming.respelt base schema.version zeros) = some table := by
  obtain ⟨calls, course⟩ := bring_course run
  obtain ⟨-, done⟩ := course.done follows
  generalize view t = q at done ⊢
  cases done with
  | skipped plan =>
    cases Plan.decision_of_eq plan with
    | kept _ present => exact Or.inl (PlainStore.mem_tableNames.mp present)
    | respelt missing found =>
      obtain ⟨numbered, zeros, spelt⟩ := Plan.mem_versions.mp found
      obtain ⟨table, stored⟩ := PlainStore.mem_tableNames.mp spelt
      refine Or.inr ⟨rfl, rfl, PlainStore.table?_eq_none missing, zeros, table, ?_, stored⟩
      -- Without zeros it would be the active name.
      rcases Nat.eq_zero_or_pos zeros with rfl | positive
      · rw [Naming.respelt_zero, ← Plan.active_of_numbered numbered] at spelt
        exact absurd spelt missing
      · exact positive
  | created plan tables =>
    cases Plan.decision_of_eq plan with
    | created => exact Or.inl ⟨_, by rw [tables, Function.update_self]⟩
  | migrated plan _ _ tables =>
    obtain ⟨rfl, -⟩ := Plan.ofCatalog_eq_migrate plan
    exact Or.inl ⟨_, tables.filled⟩

/-- What is created was not there, and what is skipped or copied is there for every target exactly if each version that
    the catalog holds also stands under the name that is written for it. A call that ends well leaves the active table,
    but for the case in which such a name is missing and the call takes the version to be there. -/
theorem relied_tables_present (base : String) :
    (∀ catalog version table, Plan.ofCatalog catalog base version = .ok (.create table) →
        table ∉ Plan.tableNames catalog) ∧
      (∀ catalog, (∀ version plan name, Plan.ofCatalog catalog base version = .ok plan → plan.relied? = some name →
            name ∈ Plan.tableNames catalog) ↔
          ∀ version zeros, unversioned < version → Naming.respelt base version zeros ∈ Plan.tableNames catalog →
            Naming.versioned base version ∈ Plan.tableNames catalog) ∧
      ∀ {κ ρ σ : Type} [Kinds κ] {backend : Backend σ} {view : σ → PlainStore} {schema : Schema κ ρ}
        {time : Option Timestamp} {s t : σ} {answer : Option Report}, Follows backend view →
        (bring backend base schema time).runOn s = (.ok answer, t) →
        (∃ table, (view t).table? (Naming.active base schema.version) = some table) ∨
          answer = none ∧ view t = view s ∧ (view s).table? (Naming.active base schema.version) = none ∧
            ∃ zeros table, 0 < zeros ∧ (view s).table? (Naming.respelt base schema.version zeros) = some table := by
  refine ⟨fun _ _ _ => Plan.not_mem_of_create, fun catalog => Plan.relied_present_iff catalog base, ?_⟩
  intro κ ρ σ _ backend view schema time s t answer follows run
  exact bring_active follows run

theorem people_tables_present :
    (∀ version plan name, Plan.ofCatalog peopleStore.catalog "people" version = .ok plan → plan.relied? = some name →
        name ∈ Plan.tableNames peopleStore.catalog) ∧
      ∃ table, ((bring PlainStore.backend "people" people (some noon)).runOn peopleStore).2.table? "people:v2" =
        some table := by
  have names : Plan.tableNames peopleStore.catalog = ["people:v1"] := by decide +kernel
  have answer : ((bring PlainStore.backend "people" people (some noon)).runOn peopleStore).1 =
      .ok (some ⟨some "people:backup:2024-02-29T12:00:00.000042", 1, 2⟩) := by decide +kernel
  obtain ⟨-, relied, active⟩ := relied_tables_present "people"
  refine ⟨(relied peopleStore.catalog).mpr fun version zeros numbered spelt => ?_, ?_⟩
  · rw [names] at spelt ⊢
    have read : Naming.version? "people" "people:v1" = some version :=
      Naming.version?_eq_some.mpr ⟨numbered, zeros, (List.mem_singleton.mp spelt).symm⟩
    have first : Naming.version? "people" "people:v1" = some 1 := by decide +kernel
    cases first.symm.trans read
    decide +kernel
  · rcases run : (bring PlainStore.backend "people" people (some noon)).runOn peopleStore with ⟨r, t⟩
    rw [run] at answer
    cases answer
    rcases active Follows.plain run with present | ⟨nothing, -⟩
    · exact present
    · cases nothing

/-- With the second version of the people under a name with a zero, the plan skips a table that is not there or copies
    from it, and a call ends well without one. -/
theorem padded_people_missing :
    Plan.ofCatalog [⟨"people:v02", .table⟩] "people" 2 = .ok (.skip "people:v2") ∧
      Plan.ofCatalog [⟨"people:v02", .table⟩] "people" 3 =
        .ok (.migrate "people:v2" "people:v3" "people:v3" 2) ∧
      "people:v2" ∉ Plan.tableNames [⟨"people:v02", .table⟩] ∧
      ((bring PlainStore.backend "people" people none).runOn (PlainStore.put {} "people:v02" firstPeople)).1 = .ok none ∧
      "people:v2" ∉ Plan.tableNames
        ((bring PlainStore.backend "people" people none).runOn (PlainStore.put {} "people:v02" firstPeople)).2.catalog := by
  decide +kernel

end Migration

end TypedTables
