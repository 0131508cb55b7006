import TypedTables.Dynamic
import TypedTables.Proofs.Migration.Stages

/-!
# Migrations carry rows forward

A migration that ends well leaves every row of the source in the active table, with the values of the columns that
the two tables share, and touches nothing else (`bring_carriesOver`). One that is stopped by a failing statement
leaves the rows in the source, in its backup, or in the table that was filled from it (`bring_failed_keeps_rows`).
Both read the stages of a migration off the calls that the backend received. -/

namespace TypedTables.Migration

variable {κ ρ : Type} [Kinds κ]

/-- The table has the columns of the schema and the rows of `origin`, one for one and in order. A row has the values of
    its origin in the columns that both tables have, and what a row starts with in the others. -/
structure CarriesOver (schema : Schema κ ρ) (origin table : PlainTable) : Prop where
  columns : table.columns = schema.definitions
  rows : List.Forall₂ (fun before after => ∀ column ∈ schema.definitions,
      table.cell after column.label =
        if column.label ∈ origin.labels then origin.cell before column.label else column.initial)
    origin.rows table.rows

theorem carriesOver_carried {schema : Schema κ ρ} (valid : schema.validate = .ok ()) (origin : PlainTable) :
    CarriesOver schema origin (carried schema origin) where
  columns := rfl
  rows := by
    have distinct : (carried schema origin).labels.Nodup := by
      rw [PlainTable.labels, carried, Schema.definitions_labels]
      exact Schema.validate_eq_ok.mp valid
    rw [carried, List.forall₂_map_right_iff, List.forall₂_same]
    intro row _ column hc
    exact PlainTable.cell_map distinct _ hc

variable {schema : Schema κ ρ} {base : String} {time : Option Timestamp} {source destination active : String}
  {fromVersion : Int32}

/-- The people of a store at the second version of their schema, which gives them an age. -/
def people : Schema CellKind CellRow :=
  (Schema.ofSpecs ⟨"id", .int, []⟩
    [⟨"name", .fixedString 20, []⟩, ⟨"age", .int, [.default (.ofInteger 7)]⟩]).withVersion 2

/-- Two people at the first version. -/
def firstPeople : PlainTable :=
  ⟨[⟨"id", "INTEGER", true, []⟩, ⟨"name", "NVARCHAR(20)", false, []⟩],
    [[.integer 1, .text "ada"], [.integer 2, .text "bob"]]⟩

/-- A store that holds the first version of the people and nothing else. -/
def peopleStore : PlainStore := PlainStore.put {} "people:v1" firstPeople

def noon : Timestamp := { year := 2024, month := 2, day := 29, hour := 12, minute := 0, second := 0, micro := 42 }

theorem people_plan :
    Plan.ofCatalog peopleStore.catalog "people" people.version =
      .ok (.migrate "people:v1" "people:v2" "people:v2" 1) := by
  decide +kernel

theorem people_stored : peopleStore.table? "people:v1" = some firstPeople := by
  rw [peopleStore, PlainStore.put_table?, Function.update_self]

/-- A migration that ends well leaves the rows of its source in the active table. With a backup the source itself is
    kept under the backup's name, without one it is gone, and every other table is as before. -/
theorem bring_carriesOver {s t : PlainStore} {origin : PlainTable} {report : Report}
    (plan : Plan.ofCatalog s.catalog base schema.version = .ok (.migrate source destination active fromVersion))
    (stored : s.table? source = some origin)
    (run : (bring PlainStore.backend base schema time).runOn s = (.ok (some report), t)) :
    report = ⟨time.map (Naming.backup base), fromVersion, schema.version⟩ ∧
      (∃ table, t.table? active = some table ∧ CarriesOver schema origin table) ∧
      (∀ name, report.backup = some name → t.table? name = some origin) ∧
      (source ≠ active → t.table? source = none) ∧
      ∀ name, name ≠ source → name ≠ active → report.backup ≠ some name → t.table? name = s.table? name := by
  obtain ⟨calls, course⟩ := bring_course run
  obtain ⟨valid, done⟩ := course.done Follows.plain
  cases done with
  | created other =>
    rw [plan] at other
    cases other
  | migrated other found _ tables =>
    rw [plan] at other
    cases other
    rw [stored] at found
    cases found
    exact ⟨rfl, ⟨_, tables.filled, carriesOver_carried valid origin⟩, tables.kept, tables.gone, tables.others⟩

theorem bring_people_carriesOver :
    ((bring PlainStore.backend "people" people (some noon)).runOn peopleStore).1 =
        .ok (some ⟨some "people:backup:2024-02-29T12:00:00.000042", 1, 2⟩) ∧
      ∃ table, ((bring PlainStore.backend "people" people (some noon)).runOn peopleStore).2.table? "people:v2" =
          some table ∧
        CarriesOver people firstPeople table := by
  have answer : ((bring PlainStore.backend "people" people (some noon)).runOn peopleStore).1 =
      .ok (some ⟨some "people:backup:2024-02-29T12:00:00.000042", 1, 2⟩) := by decide +kernel
  rcases run : (bring PlainStore.backend "people" people (some noon)).runOn peopleStore with ⟨r, t⟩
  rw [run] at answer
  cases answer
  exact ⟨rfl, (bring_carriesOver people_plan people_stored run).2.1⟩

/-- A migration that is stopped by a failing statement ends with that failure and issues no statement after it, and no
    row is lost: the source is as it was, or its rows are in the destination or in the active table, and then the
    source itself is kept under the backup's name where a backup was asked for. -/
theorem bring_failed_keeps_rows {s : PlainStore} {faults : List (Option Error)} {r : Except Error (Option Report)}
    {after : Journaled (Faulty PlainStore)} {k : Nat} {statement : Statement} {e : Error}
    (plan : Plan.ofCatalog s.catalog base schema.version = .ok (.migrate source destination active fromVersion))
    (run : (bring PlainStore.backend.faulty.journaled base schema time).runOn ⟨⟨s, faults⟩, []⟩ = (r, after))
    (failed : after.executed[k]? = some (statement, .error e)) :
    (∃ error, r = .error error ∧ error.rootCause = e.rootCause) ∧ after.executed.length = k + 1 ∧
      ∃ origin, s.table? source = some origin ∧
        (after.inner.inner.table? source = some origin ∨
          (∃ name table, (name = destination ∨ name = active) ∧ after.inner.inner.table? name = some table ∧
              CarriesOver schema origin table) ∧
            ∀ name, time.map (Naming.backup base) = some name → after.inner.inner.table? name = some origin) := by
  obtain ⟨valid, rfl, length, origin, stored, stage⟩ :=
    (bring_journal run).failed Follows.plain.faulty.journaled plan failed
  refine ⟨⟨_, rfl, rfl⟩, length, origin, stored, ?_⟩
  have carries := carriesOver_carried valid origin
  generalize k + 1 = n at stage
  generalize hr : (.error e : Except Error Unit) = outcome at stage
  cases stage with
  | planned => exact Or.inl stored
  | created free tables => exact Or.inl (PlainStore.kept_of_update stored free tables)
  | copied free tables => exact Or.inl (PlainStore.kept_of_update stored free tables)
  | retired _ tables => exact Or.inr ⟨⟨destination, _, Or.inl rfl, tables.filled, carries⟩, tables.kept⟩
  | settled tables => exact Or.inr ⟨⟨active, _, Or.inr rfl, tables.filled, carries⟩, tables.kept⟩

/-- A failure that has nothing to do with what is asked. -/
def diskFull : Error := .statement "COMMIT" "disk full"

/-- The migration of the people where the source cannot be retired. -/
def stoppedPeople : Except Error (Option Report) × Journaled (Faulty PlainStore) :=
  (bring PlainStore.backend.faulty.journaled "people" people (some noon)).runOn
    ⟨⟨peopleStore, [none, none, some diskFull]⟩, []⟩

theorem stoppedPeople_keeps_rows :
    stoppedPeople.2.executed.map Prod.snd = [.ok 0, .ok 2, .error diskFull] ∧
      (∃ error, stoppedPeople.1 = .error error ∧ error.rootCause = diskFull) ∧
      (stoppedPeople.2.inner.inner.table? "people:v1" = some firstPeople ∨
        ∃ table, stoppedPeople.2.inner.inner.table? "people:v2" = some table ∧
          CarriesOver people firstPeople table) := by
  have answers : stoppedPeople.2.executed.map Prod.snd = [.ok 0, .ok 2, .error diskFull] := by decide +kernel
  rcases run : stoppedPeople with ⟨r, after⟩
  rw [run] at answers
  obtain ⟨statement, failed⟩ := Journaled.exists_statement (k := 2) (congrArg (·[2]?) answers)
  obtain ⟨error, -, origin, stored, kept⟩ := bring_failed_keeps_rows people_plan run failed
  cases people_stored.symm.trans stored
  refine ⟨answers, error, kept.imp_right ?_⟩
  rintro ⟨⟨name, table, rfl | rfl, found, carries⟩, -⟩
  · exact ⟨table, found, carries⟩
  · exact ⟨table, found, carries⟩

end TypedTables.Migration
