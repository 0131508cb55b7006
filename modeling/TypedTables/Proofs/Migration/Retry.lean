import TypedTables.Proofs.Migration.Forward
import TypedTables.Proofs.Plan

/-!
# Migrations that are tried again

A migration that failed is called again and decides from the names that the first call left behind. Nothing marks a
table as not yet filled. A destination that was created and not filled counts as the finished table of its version,
and where the last move of an unversioned table failed, its name is free and gets an empty table. At every other
point the retry makes good what was missing, or it fails (`bring_retried`). -/

namespace TypedTables.Migration

variable {κ ρ : Type} [Kinds κ]

/-- Rows that have been carried over once are not changed by carrying them over again. -/
theorem carried_carried {schema : Schema κ ρ} (valid : schema.validate = .ok ()) (origin : PlainTable) :
    carried schema (carried schema origin) = carried schema origin := by
  have labels : (carried schema origin).labels = schema.labels := schema.definitions_labels
  have distinct : (carried schema origin).labels.Nodup := labels ▸ Schema.validate_eq_ok.mp valid
  have rows : (carried schema (carried schema origin)).rows = (carried schema origin).rows := by
    rw [carried, carried, List.map_map]
    refine List.map_congr_left fun row _ => List.map_congr_left fun column hc => ?_
    have present : column.label ∈ (carried schema origin).labels := List.mem_map_of_mem hc
    exact (if_pos present).trans (PlainTable.cell_map distinct _ hc)
  exact congrArg (PlainTable.mk schema.definitions) rows

/-! ### A call on what is there -/

section
variable {base : String} {schema : Schema κ ρ} {time : Option Timestamp} {p q : PlainStore} {answer : Option Report}
  {table : PlainTable}

/-- A version that is there is left alone. -/
theorem Done.of_numbered (h : Done base schema time p answer q) (numbered : schema.version ≠ unversioned)
    (present : p.table? (Naming.active base schema.version) = some table) : answer = none ∧ q = p := by
  have listed : Naming.active base schema.version ∈ Plan.tableNames p.catalog :=
    PlainStore.mem_tableNames.mpr ⟨table, present⟩
  cases h with
  | skipped => exact ⟨rfl, rfl⟩
  | created plan => cases Plan.ofCatalog_of_mem plan numbered listed
  | migrated plan => cases Plan.ofCatalog_of_mem plan numbered listed

/-- An unversioned table that is there is filled again, for which the name of the table to fill has to be free. -/
theorem Done.of_unversioned (h : Done base schema time p answer q) (always : schema.version = unversioned)
    (present : p.table? base = some table) :
    p.table? (Naming.temporary base) = none ∧ q.table? base = some (carried schema table) := by
  have listed : base ∈ Plan.tableNames p.catalog := PlainStore.mem_tableNames.mpr ⟨table, present⟩
  have decided : ∀ {plan : Plan}, Plan.ofCatalog p.catalog base schema.version = .ok plan →
      plan = .migrate base (Naming.temporary base) base unversioned := fun h => by
    rw [always] at h
    rcases Plan.ofCatalog_unversioned h with ⟨-, h⟩ | ⟨missing, -⟩
    · exact h
    · exact absurd listed missing
  cases h with
  | skipped plan => cases decided plan
  | created plan => cases decided plan
  | migrated plan stored free tables =>
    cases decided plan
    rw [present] at stored
    cases stored
    exact ⟨free, tables.filled⟩

/-- An unversioned table that is missing is created empty. -/
theorem Done.of_missing (h : Done base schema time p answer q) (always : schema.version = unversioned)
    (missing : p.table? base = none) :
    answer = some ⟨none, unversioned, unversioned⟩ ∧
      q.table? = Function.update p.table? base (some (emptyTable schema)) := by
  have unlisted : base ∉ Plan.tableNames p.catalog := fun listed => by
    obtain ⟨table, present⟩ := PlainStore.mem_tableNames.mp listed
    rw [missing] at present
    cases present
  have decided : ∀ {plan : Plan}, Plan.ofCatalog p.catalog base schema.version = .ok plan →
      plan = .create base := fun h => by
    rw [always] at h
    rcases Plan.ofCatalog_unversioned h with ⟨listed, -⟩ | ⟨-, h⟩
    · exact absurd listed unlisted
    · exact h
  cases h with
  | skipped plan => cases decided plan
  | created plan tables =>
    cases decided plan
    exact ⟨by rw [always], tables⟩
  | migrated plan => cases decided plan

end

/-! ### A call on what a failure has left -/

section
variable {base source : String} {schema : Schema κ ρ} {backup : Option String} {time : Option Timestamp}
  {origin : PlainTable} {s q t : PlainStore} {fromVersion : Int32} {n : Nat} {e : Error} {answer : Option Report}

/-- On the way to a version only a destination that was not filled is left without its rows. -/
theorem Stage.retried_numbered (numbered : schema.version ≠ unversioned)
    (plan : Plan.ofCatalog s.catalog base schema.version =
      .ok (.migrate source (Naming.active base schema.version) (Naming.active base schema.version) fromVersion))
    (stored : s.table? source = some origin)
    (h : Stage schema source (Naming.active base schema.version) (Naming.active base schema.version) backup origin s n
      (.error e) q)
    (again : Done base schema time q answer t) :
    t.table? (Naming.active base schema.version) = some (carried schema origin) ∨
      n = 2 ∧ answer = none ∧ t.table? source = some origin ∧
        t.table? (Naming.active base schema.version) = some (emptyTable schema) := by
  cases h with
  | planned =>
    cases again with
    | skipped other => cases plan.symm.trans other
    | created other => cases plan.symm.trans other
    | migrated other found _ tables =>
      cases plan.symm.trans other
      cases stored.symm.trans found
      exact Or.inl tables.filled
  | created free tables =>
    have filled : q.table? (Naming.active base schema.version) = some (emptyTable schema) := by
      rw [tables, Function.update_self]
    have kept := PlainStore.kept_of_update stored free tables
    obtain ⟨rfl, rfl⟩ := again.of_numbered numbered filled
    exact Or.inr ⟨rfl, rfl, kept, filled⟩
  | copied free tables =>
    have filled : q.table? (Naming.active base schema.version) = some (carried schema origin) := by
      rw [tables, Function.update_self]
    obtain ⟨-, rfl⟩ := again.of_numbered numbered filled
    exact Or.inl filled
  | retired differ => exact absurd rfl differ
  | settled tables =>
    obtain ⟨-, rfl⟩ := again.of_numbered numbered tables.filled
    exact Or.inl tables.filled

/-- In place only a table that was not moved back is left without its rows. -/
theorem Stage.retried_unversioned (valid : schema.validate = .ok ()) (always : schema.version = unversioned)
    (stored : s.table? base = some origin)
    (h : Stage schema base (Naming.temporary base) base backup origin s n (.error e) q)
    (again : Done base schema time q answer t) :
    t.table? base = some (carried schema origin) ∨
      n = 4 ∧ answer = some ⟨none, unversioned, unversioned⟩ ∧
        t.table? (Naming.temporary base) = some (carried schema origin) ∧
        t.table? base = some (emptyTable schema) := by
  cases h with
  | planned => exact Or.inl (again.of_unversioned always stored).2
  | created free tables =>
    have present := PlainStore.kept_of_update stored free tables
    have blocked := (again.of_unversioned always present).1
    rw [tables, Function.update_self] at blocked
    cases blocked
  | copied free tables =>
    have present := PlainStore.kept_of_update stored free tables
    have blocked := (again.of_unversioned always present).1
    rw [tables, Function.update_self] at blocked
    cases blocked
  | retired _ tables =>
    obtain ⟨rfl, filled⟩ := again.of_missing always tables.gone
    refine Or.inr ⟨rfl, rfl, ?_, ?_⟩
    · rw [filled, Function.update_of_ne (Naming.temporary_ne base), tables.filled]
    · rw [filled, Function.update_self]
  | settled tables =>
    rw [← carried_carried valid origin]
    exact Or.inl (again.of_unversioned always tables.filled).2

/-- A retry that ends well after a statement failed leaves the rows of the source in the active table, but for two
    points of failure. Where the first copy to a version failed, the retry finds the version and changes nothing: the
    table is empty and the rows are in the source. Where the last move of an unversioned table failed, the retry
    creates it empty and the rows are in the table that was not moved. -/
theorem bring_retried {faults : List (Option Error)} {retryTime : Option Timestamp} {destination active : String}
    {r : Except Error (Option Report)} {after : Journaled (Faulty PlainStore)} {k : Nat} {statement : Statement}
    (plan : Plan.ofCatalog s.catalog base schema.version = .ok (.migrate source destination active fromVersion))
    (run : (bring PlainStore.backend.faulty.journaled base schema time).runOn ⟨⟨s, faults⟩, []⟩ = (r, after))
    (failed : after.executed[k]? = some (statement, .error e))
    (again : (bring PlainStore.backend base schema retryTime).runOn after.inner.inner = (.ok answer, t)) :
    ∃ origin table, s.table? source = some origin ∧
      t.table? (Naming.active base schema.version) = some table ∧
      (CarriesOver schema origin table ∨
        table = emptyTable schema ∧
          (schema.version ≠ unversioned ∧ k = 1 ∧ answer = none ∧ t.table? source = some origin ∨
            schema.version = unversioned ∧ k = 3 ∧ answer = some ⟨none, unversioned, unversioned⟩ ∧
              ∃ held, t.table? (Naming.temporary base) = some held ∧ CarriesOver schema origin held)) := by
  obtain ⟨valid, -, -, origin, stored, stage⟩ :=
    (bring_journal run).failed Follows.plain.faulty.journaled plan failed
  obtain ⟨retryCalls, retryCourse⟩ := bring_course again
  obtain ⟨-, done⟩ := retryCourse.done Follows.plain
  have carries := carriesOver_carried valid origin
  obtain ⟨rfl, ⟨always, rfl, rfl⟩ | ⟨numbered, rfl⟩⟩ := Plan.ofCatalog_eq_migrate plan
  · rw [always, Naming.active_unversioned] at stage stored ⊢
    rcases stage.retried_unversioned valid always stored done with filled | ⟨hk, rfl, held, filled⟩
    · exact ⟨origin, _, stored, filled, Or.inl carries⟩
    · exact ⟨origin, _, stored, filled, Or.inr ⟨rfl, Or.inr ⟨rfl, by omega, rfl, _, held, carries⟩⟩⟩
  · rcases stage.retried_numbered numbered plan stored done with filled | ⟨hk, rfl, kept, filled⟩
    · exact ⟨origin, _, stored, filled, Or.inl carries⟩
    · exact ⟨origin, _, stored, filled, Or.inr ⟨rfl, Or.inl ⟨numbered, by omega, rfl, kept⟩⟩⟩

end

/-- The people whose source could not be retired, tried again. -/
def retriedPeople : Except Error (Option Report) × PlainStore :=
  (bring PlainStore.backend "people" people none).runOn stoppedPeople.2.inner.inner

theorem retriedPeople_carriesOver :
    stoppedPeople.2.executed.map Prod.snd = [.ok 0, .ok 2, .error diskFull] ∧
      retriedPeople.1 = .ok none ∧
      ∃ table, retriedPeople.2.table? "people:v2" = some table ∧ CarriesOver people firstPeople table := by
  have answers : stoppedPeople.2.executed.map Prod.snd = [.ok 0, .ok 2, .error diskFull] := by decide +kernel
  have answer : retriedPeople.1 = .ok none := by decide +kernel
  refine ⟨answers, answer, ?_⟩
  rcases again : retriedPeople with ⟨r, t⟩
  rw [again] at answer
  cases answer
  rcases run : stoppedPeople with ⟨first, after⟩
  rw [retriedPeople, run] at again
  rw [run] at answers
  obtain ⟨statement, failed⟩ := Journaled.exists_statement (k := 2) (congrArg (·[2]?) answers)
  obtain ⟨origin, table, stored, filled, carries | ⟨-, ⟨-, k, -⟩ | ⟨-, k, -⟩⟩⟩ :=
    bring_retried people_plan run failed again
  · cases people_stored.symm.trans stored
    exact ⟨table, filled, carries⟩
  · cases k
  · cases k

/-- A migration of the people with failures that are laid down, and a second call on the store that it leaves: the
    answers to the statements of the first, the answer of the second, and the store at the end. -/
def tryTwice (version : Int32) (s : PlainStore) (faults : List (Option Error)) :
    List (Except Error Nat) × Except Error (Option Report) × PlainStore :=
  let schema := people.withVersion version
  let (_, first) := (bring PlainStore.backend.faulty.journaled "people" schema none).runOn ⟨⟨s, faults⟩, []⟩
  let (answer, second) := (bring PlainStore.backend "people" schema none).runOn first.inner.inner
  (first.executed.map Prod.snd, answer, second)

/-- The retry ends well and the table of the people is empty, though both people were in the store: with a version
    where the copy failed, and without one where the last move failed. -/
theorem tryTwice_empty :
    (tryTwice 2 peopleStore [none, some diskFull]).1 = [.ok 0, .error diskFull] ∧
      (tryTwice 2 peopleStore [none, some diskFull]).2.1 = .ok none ∧
      ((tryTwice 2 peopleStore [none, some diskFull]).2.2.table? "people:v2").map PlainTable.rows = some [] ∧
      (tryTwice unversioned (PlainStore.put {} "people" firstPeople) [none, none, none, some diskFull]).1 =
        [.ok 0, .ok 2, .ok 0, .error diskFull] ∧
      (tryTwice unversioned (PlainStore.put {} "people" firstPeople) [none, none, none, some diskFull]).2.1 =
        .ok (some ⟨none, unversioned, unversioned⟩) ∧
      ((tryTwice unversioned (PlainStore.put {} "people" firstPeople) [none, none, none, some diskFull]).2.2.table?
        "people").map PlainTable.rows = some [] := by
  decide +kernel

end TypedTables.Migration
