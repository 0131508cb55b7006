import Mathlib.Data.List.AList
import Mathlib.Logic.Function.Basic
import TypedTables.Proofs.Backend.Trial
import TypedTables.Store

/-!
# Plain stores

A store as the statements of a migration mean it: a finite map from names to tables, a table being its columns and
its rows, and a list of indexes. Values are kept as they are given, and nothing is checked but names. A statement
that is refused changes nothing. What a statement does is said of `table?`, the map as a function; `Follows` says
that a backend does the same on a store seen through a view, whatever else may make it refuse. -/

namespace TypedTables

/-- The value that a constraint gives a row without one. -/
def ColumnRule.initial? : ColumnRule → Option Value
  | .default root v => some (root.constant v)
  | _ => none

/-- The value of a row that gives none: the default declared last, NULL without one. -/
def ColumnDef.initial (column : ColumnDef) : Value := (column.rules.reverse.findSome? ColumnRule.initial?).getD .null

/-- A table of a plain store. -/
structure PlainTable where
  columns : List ColumnDef
  /-- Values in the order of the columns. -/
  rows : List (List Value) := []

namespace PlainTable

/-- The names of the columns. -/
def labels (t : PlainTable) : List String := t.columns.map ColumnDef.label

/-- The value of a row in a column, NULL where there is none. -/
def cell (t : PlainTable) (row : List Value) (label : String) : Value := ((t.labels.zip row).lookup label).getD .null

/-- A row with the listed columns of a row of another table, and what a row starts with in the other columns. -/
def take (t other : PlainTable) (labels : List String) (row : List Value) : List Value :=
  t.columns.map fun column => if column.label ∈ labels then other.cell row column.label else column.initial

/-- In a list of different labels with something beside each, a label finds what stands beside it. -/
theorem lookup_map {α β : Type*} {label : α → String} {f : α → β} {members : List α}
    (distinct : (members.map label).Nodup) {m : α} (hm : m ∈ members) :
    (members.map fun m => (label m, f m)).lookup (label m) = some (f m) := by
  induction members with
  | nil => cases hm
  | cons first members ih =>
    obtain ⟨fresh, distinct⟩ := List.nodup_cons.mp distinct
    rcases List.mem_cons.mp hm with rfl | hm
    · simp
    · have hne : label m ≠ label first := fun h => fresh (h ▸ List.mem_map_of_mem hm)
      rw [List.map_cons, List.lookup_cons, beq_eq_false_iff_ne.mpr hne]
      exact ih distinct hm

/-- A row made column by column holds in each column what was put there. -/
theorem cell_map {t : PlainTable} (distinct : t.labels.Nodup) (f : ColumnDef → Value) {column : ColumnDef}
    (hc : column ∈ t.columns) : t.cell (t.columns.map f) column.label = f column := by
  rw [cell, labels, List.zip_map', lookup_map distinct hc, Option.getD_some]

end PlainTable

/-- An index of a plain store. -/
structure PlainIndex where
  name : String
  table : String
  terms : IndexTerms

/-- Tables by their names, and indexes. -/
structure PlainStore where
  tables : AList fun _ : String => PlainTable := ∅
  indexes : List PlainIndex := []

namespace PlainStore

/-- The table of a name. -/
def table? (s : PlainStore) (name : String) : Option PlainTable := s.tables.lookup name

/-- The tables of the store. -/
def catalog (s : PlainStore) : List TableInfo := s.tables.keys.map (⟨·, .table⟩)

/-- The names of a table's columns, none where it is not there. -/
def columnNames (s : PlainStore) (name : String) : List String := (s.table? name).elim [] PlainTable.labels

/-! ### Statements -/

/-- Puts a table under a name, in the place of another one if there is one. -/
def put (s : PlainStore) (name : String) (t : PlainTable) : PlainStore := { s with tables := s.tables.insert name t }

/-- Takes the table of a name away. -/
def remove (s : PlainStore) (name : String) : PlainStore := { s with tables := s.tables.erase name }

/-- Adds an empty table. -/
def create (s : PlainStore) (name : String) (columns : List ColumnDef) : Except Refusal PlainStore :=
  match s.table? name with
  | some _ => .error (.tableExists name)
  | none => .ok (s.put name ⟨columns, []⟩)

/-- Refuses the first of some columns that a table lacks. -/
def checkColumns (t : PlainTable) (refusal : String → Refusal) (labels : List String) : Except Refusal Unit :=
  match labels.find? (· ∉ t.labels) with
  | some label => .error (refusal label)
  | none => .ok ()

/-- Adds one row for every row of another table, in their order. -/
def copy (s : PlainStore) (source target : String) (labels : List String) : Except Refusal (PlainStore × Nat) :=
  match s.table? target, s.table? source with
  | none, _ => .error (.noTable target)
  | some _, none => .error (.noTable source)
  | some t, some other => do
    checkColumns t (.noTargetColumn target) labels
    checkColumns other (fun label => .noColumn (Store.qualified source label)) labels
    pure (s.put target { t with rows := t.rows ++ other.rows.map (t.take other labels) }, other.rows.length)

/-- Moves a table to another name. Its indexes stay with it. -/
def rename (s : PlainStore) (source target : String) : Except Refusal PlainStore :=
  match s.table? source, s.table? target with
  | none, _ => .error (.noTable source)
  | some _, some _ => .error (.nameTaken target)
  | some t, none =>
    .ok
      { (s.remove source).put target t with
        indexes := s.indexes.map fun index => { index with table := Store.renamed source target index.table } }

/-- Removes a table with its indexes. -/
def drop (s : PlainStore) (name : String) : Except Refusal PlainStore :=
  match s.table? name with
  | none => .error (.noTable name)
  | some _ => .ok { s.remove name with indexes := s.indexes.filter (·.table ≠ name) }

/-- Adds an index to a table. -/
def createIndex (s : PlainStore) (name table : String) (terms : IndexTerms) : Except Refusal PlainStore :=
  if s.indexes.any (·.name = name) then .error (.indexTaken name)
  else
    match s.table? table with
    | none => .error (.noTable table)
    | some _ => .ok { s with indexes := s.indexes ++ [⟨name, table, terms⟩] }

/-- Removes the index of a name, if there is one. -/
def dropIndex (s : PlainStore) (name : String) : PlainStore := { s with indexes := s.indexes.filter (·.name ≠ name) }

/-- Carries out a statement: the store after it and the number of rows that were affected. Statements that no
    migration issues are refused. -/
def perform (s : PlainStore) : Statement → Except Refusal (PlainStore × Nat)
  | .createTable table columns => (s.create table columns).map (·, 0)
  | .copy source target labels => s.copy source target labels
  | .rename source target => (s.rename source target).map (·, 0)
  | .dropTable table => (s.drop table).map (·, 0)
  | .createIndex name table terms => (s.createIndex name table terms).map (·, 0)
  | .dropIndex name => .ok (s.dropIndex name, 0)
  | statement => .error (.fault (.unexpected statement.text))

/-- The plain store as a backend. -/
def backend : Backend PlainStore where
  name := "Plain"
  listTables := .ofFn fun s => (.ok s.catalog, s)
  listColumns name := .ofFn fun s => (.ok (s.columnNames name), s)
  execute statement := .ofFn fun s =>
    match s.perform statement with
    | .ok (t, n) => (.ok n, t)
    | .error r => (.error (.statement statement.text r.message), s)
  query statement := .ofFn fun s => (.error (.statement statement.text Refusal.givesRows.message), s)

/-! ### What a statement does to the tables -/

section
variable {s t : PlainStore} {n : Nat}

theorem put_table? (s : PlainStore) (name : String) (table : PlainTable) :
    (s.put name table).table? = Function.update s.table? name (some table) := by
  funext other
  by_cases h : other = name
  · subst h
    simp [put, table?, AList.lookup_insert]
  · simp [put, table?, AList.lookup_insert_ne h, Function.update_of_ne h]

theorem remove_table? (s : PlainStore) (name : String) :
    (s.remove name).table? = Function.update s.table? name none := by
  funext other
  by_cases h : other = name
  · subst h
    simp [remove, table?, AList.lookup_erase]
  · simp [remove, table?, AList.lookup_erase_ne h, Function.update_of_ne h]

theorem perform_createTable {name : String} {columns : List ColumnDef}
    (h : s.perform (.createTable name columns) = .ok (t, n)) :
    s.table? name = none ∧ t.table? = Function.update s.table? name (some ⟨columns, []⟩) := by
  simp only [perform, create] at h
  split at h
  · cases h
  · next free =>
    cases h
    exact ⟨free, put_table? s name _⟩

theorem perform_copy {source target : String} {labels : List String}
    (h : s.perform (.copy source target labels) = .ok (t, n)) :
    ∃ table other, s.table? target = some table ∧ s.table? source = some other ∧
      t.table? = Function.update s.table? target
        (some { table with rows := table.rows ++ other.rows.map (table.take other labels) }) := by
  simp only [perform, copy] at h
  split at h
  · cases h
  · cases h
  · next table other htable hother =>
    simp only [bind, Except.bind] at h
    split at h
    · cases h
    · split at h
      · cases h
      · cases h
        exact ⟨table, other, htable, hother, put_table? s target _⟩

theorem perform_rename {source target : String} (h : s.perform (.rename source target) = .ok (t, n)) :
    ∃ table, s.table? source = some table ∧ s.table? target = none ∧
      t.table? = Function.update (Function.update s.table? source none) target (some table) := by
  simp only [perform, rename] at h
  split at h
  · cases h
  · cases h
  · next table hsource htarget =>
    cases h
    refine ⟨table, hsource, htarget, ?_⟩
    rw [← remove_table?]
    exact put_table? (s.remove source) target table

theorem perform_dropTable {name : String} (h : s.perform (.dropTable name) = .ok (t, n)) :
    t.table? = Function.update s.table? name none := by
  simp only [perform, drop] at h
  split at h
  · cases h
  · cases h
    exact remove_table? s name

theorem perform_createIndex {name table : String} {terms : IndexTerms}
    (h : s.perform (.createIndex name table terms) = .ok (t, n)) : t.table? = s.table? := by
  simp only [perform, createIndex] at h
  split at h
  · cases h
  · split at h
    · cases h
    · cases h
      rfl

theorem perform_dropIndex {name : String} (h : s.perform (.dropIndex name) = .ok (t, n)) : t.table? = s.table? := by
  cases h
  rfl

/-- A name that is in use is not one that is free. -/
theorem ne_of_free {name other : String} {table : PlainTable} (stored : s.table? name = some table)
    (free : s.table? other = none) : name ≠ other := fun h => by
  rw [h, free] at stored
  cases stored

/-- What is put under a free name leaves the tables in use as they are. -/
theorem kept_of_update {name other : String} {table : PlainTable} {new : Option PlainTable}
    (stored : s.table? name = some table) (free : s.table? other = none)
    (tables : t.table? = Function.update s.table? other new) : t.table? name = some table := by
  rw [tables, Function.update_of_ne (ne_of_free stored free), stored]

/-- All that a plain store holds is tables. -/
theorem tableNames_catalog (s : PlainStore) : Plan.tableNames s.catalog = s.tables.keys := by
  have all : s.catalog.filter (fun info => decide (info.kind = .table)) = s.catalog := by
    rw [List.filter_eq_self]
    intro info hi
    obtain ⟨_, -, rfl⟩ := List.mem_map.mp hi
    rfl
  rw [Plan.tableNames, all, catalog, List.map_map]
  exact List.map_id _

theorem mem_tableNames {name : String} : name ∈ Plan.tableNames s.catalog ↔ ∃ table, s.table? name = some table := by
  rw [tableNames_catalog, ← Option.isSome_iff_exists, table?, AList.lookup_isSome, AList.mem_keys]

theorem table?_eq_none {name : String} (missing : name ∉ Plan.tableNames s.catalog) : s.table? name = none := by
  cases stored : s.table? name with
  | none => rfl
  | some table => exact absurd (mem_tableNames.mpr ⟨table, stored⟩) missing

end

end PlainStore

/-! ### Backends that do as a plain store does -/

/-- A backend answers as a plain store does, seen through a view of its state. It may refuse any statement, which then
    leaves the plain store as it is. -/
structure Follows {σ : Type} (backend : Backend σ) (view : σ → PlainStore) : Prop where
  listTables : ∀ {s t : σ} {r : Except Error (List TableInfo)}, backend.listTables.runOn s = (r, t) →
    r = .ok (view s).catalog ∧ view t = view s
  listColumns : ∀ {name : String} {s t : σ} {r : Except Error (List String)},
    (backend.listColumns name).runOn s = (r, t) → r = .ok ((view s).columnNames name) ∧ view t = view s
  executed : ∀ {statement : Statement} {s t : σ} {n : Nat}, (backend.execute statement).runOn s = (.ok n, t) →
    (view s).perform statement = .ok (view t, n)
  refused : ∀ {statement : Statement} {s t : σ} {e : Error}, (backend.execute statement).runOn s = (.error e, t) →
    view t = view s

namespace Follows

variable {σ : Type} {backend : Backend σ} {view : σ → PlainStore}

theorem plain : Follows PlainStore.backend fun s => s where
  listTables h := by
    cases h
    exact ⟨rfl, rfl⟩
  listColumns h := by
    cases h
    exact ⟨rfl, rfl⟩
  executed {statement s t n} h := by
    simp only [PlainStore.backend, Action.runOn_ofFn] at h
    split at h
    · next performed =>
      cases h
      exact performed
    · cases h
  refused {statement s t e} h := by
    simp only [PlainStore.backend, Action.runOn_ofFn] at h
    split at h
    · cases h
    · cases h
      rfl

theorem faulty (h : Follows backend view) : Follows backend.faulty (fun s => view s.inner) where
  listTables run := by
    cases run
    exact h.listTables rfl
  listColumns run := by
    cases run
    exact h.listColumns rfl
  executed run := by
    rcases Faulty.runOn_meet run with ⟨e, he, -⟩ | run
    · cases he
    · exact h.executed run
  refused run := by
    rcases Faulty.runOn_meet run with ⟨e, -, same⟩ | run
    · exact congrArg view same
    · exact h.refused run

theorem journaled (h : Follows backend view) : Follows backend.journaled (fun s => view s.inner) where
  listTables run := h.listTables (Journaled.runOn_note run).1
  listColumns run := h.listColumns (Journaled.runOn_note run).1
  executed run := h.executed (Journaled.runOn_note run).1
  refused run := h.refused (Journaled.runOn_note run).1

end Follows

end TypedTables
