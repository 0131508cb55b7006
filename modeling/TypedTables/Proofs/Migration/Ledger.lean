import Mathlib.Order.BooleanAlgebra.Set
import TypedTables.Command
import TypedTables.Proofs.Listing
import TypedTables.Proofs.Migration.Forward
import TypedTables.Proofs.Naming.Reading
import TypedTables.Proofs.Plan

/-!
# What migrations leave behind

A ledger of tables is kept beside a store that only migrations change: each call that ends well enters the table that
it has put into use and the backup that it has made, and strikes out the version that it has replaced. It needs no more
than what the call was asked and what it reports. Up to names the ledger is the catalog (`Brought.kept`), so a listing
shows the tables of the ledger, each as what it is and under its base, but for what is read as temporary
(`Brought.listing_shows`). -/

namespace TypedTables

namespace Naming.Designation

/-- The table of the base that is in use at a version. -/
def inUse (base : Base) (number : Int32) : Designation :=
  if numbered : unversioned < number then version base number numbered else current base

/-- The table stays when a migration has ended: it is not temporary, and what is retired has the text of a time. -/
def Lasting : Designation → Prop
  | temporary _ => False
  | retired _ stamp => ∃ time : Timestamp, stamp = time.text
  | _ => True

variable {d e : Designation}

theorem Lasting.timed (h : d.Lasting) : d.Timed := by
  cases d with
  | current | version => trivial
  | retired base stamp => exact h
  | temporary base => cases h

theorem lasting_inUse (base : Base) (number : Int32) : (inUse base number).Lasting := by
  unfold inUse
  split <;> trivial

theorem Lasting.eq_of_name_eq (hd : d.Lasting) (he : e.Lasting) (same : d.name = e.name) : d = e := by
  obtain ⟨heads, tails⟩ := name_eq_iff_parts.mp same
  rcases eq_or_clash heads tails with equal | clash | clash
  · exact equal
  · cases e with
    | temporary other => cases he
    | current | version | retired => cases d <;> cases clash
  · cases d with
    | temporary other => cases hd
    | current | version | retired => cases e <;> cases clash

theorem name_inUse (base : Base) {number : Int32} (released : unversioned ≤ number) :
    (inUse base number).name = active base.text number := by
  unfold inUse
  split
  · next numbered => exact (Plan.active_of_numbered numbered).symm
  · next low =>
    rw [Int32.le_antisymm (Int32.not_lt.mp low) released]
    rfl

end Naming.Designation

namespace Migration

open Naming (Designation)

variable {κ ρ : Type} [Kinds κ]

/-- The ledger without the version that a migration came from. An unversioned table is filled again in its place. -/
def struck (base : Naming.Base) (fromVersion : Int32) (ledger : List Designation) : List Designation :=
  if fromVersion = unversioned then ledger else ledger.erase (.inUse base fromVersion)

/-- The ledger with the backup of a time, where one was made. -/
def withBackup (base : Naming.Base) (time : Option Timestamp) (ledger : List Designation) : List Designation :=
  time.elim ledger fun time => ledger.insert (.retired base time.text)

/-- The ledger after a call for the base that was given the time and has reported so. -/
def entered (base : Naming.Base) (time : Option Timestamp) (ledger : List Designation) :
    Option Report → List Designation
  | none => ledger
  | some report =>
    (withBackup base (report.backup.bind fun _ => time) (struck base report.fromVersion ledger)).insert
      (.inUse base report.toVersion)

/-- The store has come from an empty one by calls that all ended well, with this ledger. -/
inductive Brought : PlainStore → List Designation → Prop where
  | empty : Brought {} []
  | call {κ ρ : Type} [Kinds κ] {s t : PlainStore} {ledger : List Designation} (before : Brought s ledger)
      {base : Naming.Base} {schema : Schema κ ρ} {time : Option Timestamp} {report : Option Report}
      (run : (bring PlainStore.backend base.text schema time).runOn s = (.ok report, t)) :
      Brought t (entered base time ledger report)

/-! ### One call -/

/-- The names are those of the tables in the ledger. -/
structure Keeps (ledger : List Designation) (names : Set String) : Prop where
  distinct : ledger.Nodup
  lasting : ∀ d ∈ ledger, d.Lasting
  names : ∀ name, name ∈ names ↔ ∃ d ∈ ledger, d.name = name

/-- The names of the tables of a store. -/
def stored (s : PlainStore) : Set String := {name | ∃ table, s.table? name = some table}

section
variable {ledger : List Designation} {names : Set String} {d : Designation} {base : Naming.Base}
  {time : Option Timestamp}

theorem Keeps.empty : Keeps [] (stored {}) :=
  ⟨.nil, fun _ hd => (List.not_mem_nil hd).elim, fun name => by simp [stored, PlainStore.table?, AList.lookup_empty]⟩

theorem Keeps.insert (h : Keeps ledger names) (lasting : d.Lasting) :
    Keeps (ledger.insert d) (Insert.insert d.name names) where
  distinct := h.distinct.insert
  lasting e he := by
    rcases List.mem_insert_iff.mp he with rfl | he
    · exact lasting
    · exact h.lasting e he
  names name := by simp [h.names, eq_comm]

theorem Keeps.erase (h : Keeps ledger names) (lasting : d.Lasting) :
    Keeps (ledger.erase d) (names \ {d.name}) where
  distinct := h.distinct.erase d
  lasting e he := h.lasting e (List.mem_of_mem_erase he)
  names name := by
    simp only [Set.mem_sdiff, Set.mem_singleton_iff, h.names, h.distinct.mem_erase_iff]
    constructor
    · rintro ⟨⟨e, he, rfl⟩, other⟩
      exact ⟨e, ⟨fun same => other (congrArg Designation.name same), he⟩, rfl⟩
    · rintro ⟨e, ⟨other, he⟩, rfl⟩
      exact ⟨⟨e, he, rfl⟩, fun same => other ((h.lasting e he).eq_of_name_eq lasting same)⟩

theorem Keeps.withBackup (h : Keeps ledger names) :
    Keeps (withBackup base time ledger) ({name | time.map (Naming.backup base.text) = some name} ∪ names) := by
  cases time with
  | none =>
    have unchanged : {name | none.map (Naming.backup base.text) = some name} ∪ names = names := by simp
    rwa [unchanged]
  | some time =>
    have added : {name | (some time).map (Naming.backup base.text) = some name} ∪ names =
        Insert.insert (Designation.retired base time.text).name names := by
      ext name
      simp [Naming.backup, Designation.name, eq_comm]
    rw [added]
    exact h.insert ⟨time, rfl⟩

end

section
variable {schema : Schema κ ρ} {source active : String} {backup : Option String} {origin : PlainTable}
  {p q : PlainStore} {base : Naming.Base} {time : Option Timestamp} {report : Option Report}
  {ledger : List Designation} {plan : Plan}

theorem Settled.stored_eq (h : Settled schema source active backup origin p q) :
    stored q = insert active ({name | backup = some name} ∪ stored p \ {source}) := by
  ext name
  -- The source's name comes last: it is in use again where it is the active one.
  by_cases own : name = active
  · subst own
    exact iff_of_true ⟨_, h.filled⟩ (Set.mem_insert _ _)
  by_cases made : backup = some name
  · exact iff_of_true ⟨_, h.kept name made⟩ (Set.mem_insert_of_mem _ (Or.inl made))
  by_cases left : name = source
  · subst left
    simp [stored, h.gone own, own, made]
  · simp [stored, h.others name left own made, own, made, left]

theorem released_of_planned (h : Plan.ofCatalog p.catalog base.text schema.version = .ok plan) :
    unversioned ≤ schema.version := by
  refine Int32.not_lt.mp fun low => ?_
  rw [Plan.ofCatalog, if_pos low] at h
  cases h

theorem stored_update {name : String} {table : PlainTable}
    (tables : q.table? = Function.update p.table? name (some table)) : stored q = insert name (stored p) := by
  ext other
  by_cases own : other = name
  · simp [stored, tables, own]
  · simp [stored, tables, own, Function.update_of_ne]

/-- What a call that ends well does to the ledger it does to the store. -/
theorem Done.keeps (h : Done base.text schema time p report q) (keeps : Keeps ledger (stored p)) :
    Keeps (entered base time ledger report) (stored q) := by
  cases h with
  | skipped => exact keeps
  | created plan tables =>
    have name := Designation.name_inUse base (released_of_planned plan)
    cases Plan.decision_of_eq plan with
    | created =>
      rw [stored_update tables, ← name]
      exact keeps.insert (Designation.lasting_inUse base schema.version)
  | migrated plan found free tables =>
    have name := Designation.name_inUse base (released_of_planned plan)
    have same : ((time.map (Naming.backup base.text)).bind fun _ => time) = time := by cases time <;> rfl
    rw [entered, same, tables.stored_eq]
    cases Plan.decision_of_eq plan with
    | refilled always present =>
      -- The source has the name of what takes its place.
      rw [always, Naming.active_unversioned] at name
      rw [struck, if_pos rfl, ← Set.union_insert, Set.insert_sdiff_singleton, Set.union_insert, always, ← name]
      exact keeps.withBackup.insert (Designation.lasting_inUse base unversioned)
    | copied missing highest older =>
      have numbered := Plan.unversioned_lt_of_mem (List.mem_filter.mp (Plan.greatest?_mem older)).1
      have source := (Designation.name_inUse base (Int32.le_of_lt numbered)).trans (Plan.active_of_numbered numbered)
      rw [struck, if_neg (Int32.ne_of_lt numbered).symm, ← name, ← source]
      exact (keeps.erase (Designation.lasting_inUse base _)).withBackup.insert
        (Designation.lasting_inUse base schema.version)

end

/-- The ledger names what is in the store. -/
theorem Brought.kept {s : PlainStore} {ledger : List Designation} (h : Brought s ledger) : Keeps ledger (stored s) := by
  induction h with
  | empty => exact .empty
  | call before run ih =>
    obtain ⟨calls, course⟩ := bring_course run
    exact (course.done .plain).2.keeps ih

/-! ### Listings -/

/-- The groups show the tables of the ledger and no others, each as what its name is read as. -/
structure Shows (ledger : List Designation) (groups : List TableGroup) : Prop where
  ordered : groups.Pairwise fun group other => group.base < other.base
  bases : ∀ base, (∃ group ∈ groups, group.base = base) ↔ ∃ d ∈ ledger, d.shown.base = base
  tables : ∀ group ∈ groups, (group.tables.map fun table => (table, Naming.classify table.name)).Perm
    ((ledger.filter (·.shown.base = group.base)).map fun d => (⟨d.name, .table⟩, d.shown))

section
variable {s : PlainStore} {ledger : List Designation}

theorem Keeps.catalog_perm (h : Keeps ledger (stored s)) :
    s.catalog.Perm (ledger.map fun d => ⟨d.name, .table⟩) := by
  have names : (ledger.map Designation.name).Nodup :=
    h.distinct.map_on fun d hd e he same => (h.lasting d hd).eq_of_name_eq (h.lasting e he) same
  have perm : s.tables.keys.Perm (ledger.map Designation.name) := by
    refine (List.perm_ext_iff_of_nodup s.tables.keys_nodup names).mpr fun name => ?_
    rw [← PlainStore.tableNames_catalog, PlainStore.mem_tableNames, List.mem_map]
    exact h.names name
  have entries := perm.map fun name => (⟨name, .table⟩ : TableInfo)
  rwa [List.map_map] at entries

theorem Keeps.entries_perm (h : Keeps ledger (stored s)) :
    (s.catalog.map fun table => (table, Naming.classify table.name)).Perm
      (ledger.map fun d => (⟨d.name, .table⟩, d.shown)) := by
  have read : ∀ d ∈ ledger, Naming.classify d.name = d.shown := fun d hd => d.classify_name (h.lasting d hd).timed
  have entries := h.catalog_perm.map fun table => (table, Naming.classify table.name)
  rw [List.map_map] at entries
  exact entries.trans (.of_eq (List.map_congr_left fun d hd => Prod.ext rfl (read d hd)))

theorem Keeps.shows (h : Keeps ledger (stored s)) : Shows ledger (Listing.ofCatalog none false s.catalog).groups := by
  have files := Listing.files_ofCatalog none false s.catalog
  have all : s.catalog.filter (Listing.keeps none false) = s.catalog := List.filter_eq_self.mpr fun _ _ => rfl
  rw [all] at files
  refine ⟨files.ordered, fun base => ?_, fun group hg => ?_⟩
  · have bases := (h.entries_perm.map fun entry => entry.2.base).mem_iff (a := base)
    rw [List.map_map, List.map_map] at bases
    rw [← List.mem_map, files.bases]
    exact bases.trans List.mem_map
  · have selected := h.entries_perm.filter (·.2.base = group.base)
    rw [List.filter_map, List.filter_map] at selected
    rw [files.tables_of_mem hg]
    exact selected

/-- After any calls that ended well, whatever bases they were for, the store holds the tables of the ledger, and its
    tables are listed in groups by the bases that they are shown under, one for each, every table as what it is shown
    as. -/
theorem Brought.listing_shows (h : Brought s ledger) :
    ((Command.tables none false).answer PlainStore.backend).run.run s =
        (.ok ⟨(Listing.ofCatalog none false s.catalog).text, (Listing.ofCatalog none false s.catalog).toJson⟩, s) ∧
      (∀ name, (∃ table, s.table? name = some table) ↔ ∃ d ∈ ledger, d.name = name) ∧
      Shows ledger (Listing.ofCatalog none false s.catalog).groups := ⟨rfl, h.kept.names, h.kept.shows⟩

/-- The store after a call for a version of the people under a base. -/
def peopled (s : PlainStore) (base : Naming.Base) (version : Int32) (time : Option Timestamp) : PlainStore :=
  ((bring PlainStore.backend base.text (people.withVersion version) time).runOn s).2

theorem Brought.peopled (before : Brought s ledger) (base : Naming.Base) (version : Int32) (time : Option Timestamp)
    (report : Report) {later : List Designation}
    (answer : ((bring PlainStore.backend base.text (people.withVersion version) time).runOn s).1 = .ok (some report))
    (next : entered base time ledger (some report) = later) : Brought (peopled s base version time) later :=
  next ▸ before.call (Prod.ext answer rfl)

end

def peopleBase : Naming.Base := { text := "people" }

/-- A store with the people without a version, their second version, and a backup of the first. -/
def threefoldStore : PlainStore :=
  peopled (peopled (peopled {} peopleBase (-1) none) peopleBase 1 none) peopleBase 2 noon

theorem threefold_listed :
    (Listing.ofCatalog none false threefoldStore.catalog).groups.map (fun group =>
        (group.base, group.tables.map fun table => (table.name, Naming.classify table.name))) =
      [("people",
        [("people:backup:2024-02-29T12:00:00.000042", .backup "people" none noon.text),
          ("people:v2", .active "people" (some 2)), ("people", .active "people" none)])] ∧
      Shows [.version peopleBase 2 (by decide), .retired peopleBase noon.text, .current peopleBase]
        (Listing.ofCatalog none false threefoldStore.catalog).groups := by
  have first : Brought (peopled {} peopleBase (-1) none) [.current peopleBase] :=
    Brought.empty.peopled peopleBase (-1) none ⟨none, unversioned, -1⟩ (by decide +kernel) (by decide +kernel)
  have second : Brought (peopled (peopled {} peopleBase (-1) none) peopleBase 1 none)
      [.version peopleBase 1 (by decide), .current peopleBase] :=
    first.peopled peopleBase 1 none ⟨none, unversioned, 1⟩ (by decide +kernel) (by decide +kernel)
  have third : Brought threefoldStore
      [.version peopleBase 2 (by decide), .retired peopleBase noon.text, .current peopleBase] :=
    second.peopled peopleBase 2 noon ⟨some "people:backup:2024-02-29T12:00:00.000042", 1, 2⟩ (by decide +kernel)
      (by decide +kernel)
  exact ⟨by decide +kernel, third.listing_shows.2.2⟩

/-- The first version of `migrate` is listed as a temporary table of `v1`. -/
theorem migrate_listed_temporary :
    ((bring PlainStore.backend "migrate" (people.withVersion 1) none).runOn {}).1 =
        .ok (some ⟨none, unversioned, 1⟩) ∧
      (peopled {} Naming.migrating 1 none).catalog = [⟨"migrate:v1", .table⟩] ∧
      (Listing.ofCatalog none false (peopled {} Naming.migrating 1 none).catalog).groups =
        [⟨"v1", [⟨"migrate:v1", .table⟩]⟩] ∧
      Naming.classify "migrate:v1" = .temporary "v1" := by
  decide +kernel

end Migration

end TypedTables
