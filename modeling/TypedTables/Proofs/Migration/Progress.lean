import TypedTables.Proofs.Migration.Stages
import TypedTables.Proofs.Naming
import TypedTables.Proofs.Plan
import TypedTables.Proofs.Sql.Compilation

/-!
# Migrations that nothing stops

A plain store refuses a statement of a migration only for a table or a column that is missing or a name that is taken.
On the way to a version neither happens, whatever tables there are, once the name of the backup is free. So a backend
that refuses no more than a plain store does carries out every plan, except where the source is unfit (`Outcome`). -/

namespace TypedTables

namespace PlainStore

variable {s : PlainStore} {name source target : String} {table other : PlainTable}

/-! ### Statements that are carried out -/

theorem exists_createTable (columns : List ColumnDef) (free : s.table? name = none) :
    ∃ t, s.perform (.createTable name columns) = .ok (t, 0) := by
  simp only [perform, create, free]
  exact ⟨_, rfl⟩

theorem checkColumns_of_subset {refusal : String → Refusal} {labels : List String} (h : labels ⊆ table.labels) :
    checkColumns table refusal labels = .ok () := by
  have none_missing : labels.find? (· ∉ table.labels) = none := by
    rw [List.find?_eq_none]
    intro label hl
    simpa using h hl
  rw [checkColumns, none_missing]

theorem exists_copy {labels : List String} (htarget : s.table? target = some table)
    (hsource : s.table? source = some other) (ht : labels ⊆ table.labels) (hs : labels ⊆ other.labels) :
    ∃ t n, s.perform (.copy source target labels) = .ok (t, n) := by
  simp only [perform, copy, htarget, hsource, checkColumns_of_subset ht, checkColumns_of_subset hs]
  exact ⟨_, _, rfl⟩

theorem exists_rename (stored : s.table? source = some table) (free : s.table? target = none) :
    ∃ t, s.perform (.rename source target) = .ok (t, 0) := by
  simp only [perform, rename, stored, free]
  exact ⟨_, rfl⟩

theorem exists_dropTable (stored : s.table? name = some table) : ∃ t, s.perform (.dropTable name) = .ok (t, 0) := by
  simp only [perform, drop, stored]
  exact ⟨_, rfl⟩

/-- An index can be created where the one of its name was dropped. -/
theorem exists_createIndex (index : String) (terms : IndexTerms) (stored : s.table? name = some table) :
    ∃ t, (s.dropIndex index).perform (.createIndex index name terms) = .ok (t, 0) := by
  have free : ((s.dropIndex index).indexes.any fun other => decide (other.name = index)) = false := by
    simp [dropIndex]
  have kept : (s.dropIndex index).table? name = some table := stored
  simp only [perform, createIndex, free, kept]
  exact ⟨_, rfl⟩

end PlainStore

/-- A backend that does as a plain store does and refuses no more. -/
structure Obliges {σ : Type} (backend : Backend σ) (view : σ → PlainStore) : Prop extends Follows backend view where
  refuses : ∀ {statement : Statement} {s t : σ} {e : Error}, (backend.execute statement).runOn s = (.error e, t) →
    ∃ refusal, (view s).perform statement = .error refusal

namespace Obliges

variable {σ : Type} {backend : Backend σ} {view : σ → PlainStore}

theorem plain : Obliges PlainStore.backend fun s => s where
  toFollows := .plain
  refuses {statement s t e} h := by
    simp only [PlainStore.backend, Action.runOn_ofFn] at h
    split at h
    · cases h
    · next refusal refused => exact ⟨refusal, refused⟩

theorem journaled (h : Obliges backend view) : Obliges backend.journaled (fun s => view s.inner) where
  toFollows := h.toFollows.journaled
  refuses run := h.refuses (Journaled.runOn_note run).1

end Obliges

namespace Migration

variable {κ ρ σ : Type} [Kinds κ]

/-! ### Steps that are carried out -/

/-- A plain store carries out every step. -/
inductive Runs : PlainStore → Steps → PlainStore → Prop where
  | done {p : PlainStore} : Runs p [] p
  | next {statement : Statement} {steps : Steps} {p q u : PlainStore} {n : Nat}
      (performed : p.perform statement = .ok (q, n)) (rest : Runs q steps u) : Runs p (.ok statement :: steps) u

/-- A backend that refuses no more than the plain store goes through the steps that the plain store carries out. -/
theorem Runs.trace {backend : Backend σ} {view : σ → PlainStore} (obliges : Obliges backend view) {steps : Steps}
    {u : PlainStore} {s t : σ} {calls : List Call} {r : Except Error Unit} (runs : Runs (view s) steps u)
    (h : Trace backend steps s calls r t) : r = .ok () := by
  induction h with
  | done => rfl
  | unwritten => cases runs
  | refused answer =>
    cases runs with
    | next performed =>
      obtain ⟨refusal, refused⟩ := obliges.refuses answer
      cases performed.symm.trans refused
  | next answer rest ih =>
    cases runs with
    | next performed runs =>
      cases performed.symm.trans (obliges.executed answer)
      exact ih runs

section
variable {p : PlainStore} {schema : Schema κ ρ} {table source destination : String} {stored origin : PlainTable}
  {backup : Option String}

theorem runs_indexSteps {indexes : List Index} (present : p.table? table = some stored)
    (supported : ∀ index ∈ indexes, ∀ f ∈ index.filters, f.Supported) :
    ∃ q, Runs p (indexSteps table indexes) q := by
  induction indexes generalizing p with
  | nil => exact ⟨p, .done⟩
  | cons index indexes ih =>
    obtain ⟨terms, written⟩ := Compilation.exists_terms (supported index List.mem_cons_self)
    obtain ⟨p₁, created⟩ := PlainStore.exists_createIndex (Naming.index table index.name) terms present
    have kept : p₁.table? table = some stored := by
      rw [PlainStore.perform_createIndex created]
      exact present
    obtain ⟨q, rest⟩ := ih kept fun other ho => supported other (List.mem_cons_of_mem _ ho)
    have step : index.create table = .ok (.createIndex (Naming.index table index.name) table terms) := by
      rw [Index.create, written]
      rfl
    refine ⟨q, .next (n := 0) rfl ?_⟩
    show Runs _ (index.create table :: indexSteps table indexes) q
    rw [step]
    exact .next created rest

theorem runs_createSteps (free : p.table? table = none)
    (supported : ∀ index ∈ schema.indexes, ∀ f ∈ index.filters, f.Supported) :
    ∃ q, Runs p (createSteps schema table) q := by
  obtain ⟨p₁, created⟩ := PlainStore.exists_createTable schema.definitions free
  have present : p₁.table? table = some ⟨schema.definitions, []⟩ := by
    rw [(PlainStore.perform_createTable created).2, Function.update_self]
  obtain ⟨q, rest⟩ := runs_indexSteps present supported
  exact ⟨q, .next created rest⟩

theorem exists_retire (present : p.table? source = some origin)
    (clear : ∀ name, backup = some name → p.table? name = none) : ∃ q, p.perform (retire source backup) = .ok (q, 0) := by
  cases backup with
  | none => exact PlainStore.exists_dropTable present
  | some name => exact PlainStore.exists_rename present (clear name rfl)

/-- A migration to a destination that is in its place goes through where the names to be given are free. -/
theorem runs_migrateSteps (present : p.table? source = some origin) (free : p.table? destination = none)
    (clear : ∀ name, backup = some name → p.table? name = none)
    (apart : ∀ name, backup = some name → name ≠ destination)
    (supported : ∀ index ∈ schema.indexes, ∀ f ∈ index.filters, f.Supported) :
    ∃ q, Runs p (migrateSteps schema source destination destination backup origin.labels) q := by
  obtain ⟨p₁, created⟩ := PlainStore.exists_createTable schema.definitions free
  have tables := (PlainStore.perform_createTable created).2
  have new : p₁.table? destination = some (emptyTable schema) := by rw [tables, Function.update_self]; rfl
  have old := PlainStore.kept_of_update present free tables
  have wanted : shared schema origin.labels ⊆ (emptyTable schema).labels := by
    intro label hl
    rw [PlainTable.labels, emptyTable, Schema.definitions_labels]
    exact (List.mem_filter.mp hl).1
  have given : shared schema origin.labels ⊆ origin.labels := fun label hl =>
    of_decide_eq_true (List.mem_filter.mp hl).2
  obtain ⟨p₂, n, copied⟩ := PlainStore.exists_copy new old wanted given
  have filled := copied_of_perform present free tables copied
  have clear' : ∀ name, backup = some name → p₂.table? name = none := fun name hb => by
    rw [filled, Function.update_of_ne (apart name hb), clear name hb]
  obtain ⟨p₃, retired⟩ := exists_retire (PlainStore.kept_of_update present free filled) clear'
  obtain ⟨q, rest⟩ := runs_indexSteps (retired_of_perform present free filled retired).filled supported
  refine ⟨q, .next created (.next copied (.next retired ?_))⟩
  simpa [moveSteps] using rest

end

/-! ### Whole calls -/

/-- What a call comes to, given what is decided from the catalog: the answer, the statements that are executed, and
    the store that is left. -/
inductive Outcome (base : String) (schema : Schema κ ρ) (time : Option Timestamp) (p : PlainStore) :
    Except Error Plan → Except Error (Option Report) → List (Statement × Except Error Nat) → PlainStore → Prop where
  | refused {e : Error} : Outcome base schema time p (.error e) (.error e) [] p
  | skipped {table : String} : Outcome base schema time p (.ok (.skip table)) (.ok none) [] p
  | created {table : String} {executed : List (Statement × Except Error Nat)} {q : PlainStore}
      (tables : q.table? = Function.update p.table? table (some (emptyTable schema))) :
      Outcome base schema time p (.ok (.create table)) (.ok (some ⟨none, unversioned, schema.version⟩)) executed q
  | unfit {source destination active : String} {fromVersion : Int32} {e : Error}
      (check : checkSource schema source (p.columnNames source) = .error e) :
      Outcome base schema time p (.ok (.migrate source destination active fromVersion))
        (.error (.failed "migrate" source e)) [] p
  | migrated {source destination active : String} {fromVersion : Int32} {origin : PlainTable}
      {executed : List (Statement × Except Error Nat)} {q : PlainStore}
      (tables : Settled schema source active (time.map (Naming.backup base)) origin p q) :
      Outcome base schema time p (.ok (.migrate source destination active fromVersion))
        (.ok (some ⟨time.map (Naming.backup base), fromVersion, schema.version⟩)) executed q

section
variable {backend : Backend σ} {view : σ → PlainStore} {base : String} {schema : Schema κ ρ}
  {time : Option Timestamp} {s t : σ} {calls : List Call} {r : Except Error (Option Report)}

/-- What is planned for a version is made under a name that is free, and in its place. -/
theorem active_free {catalog : List TableInfo} {version : Int32} {plan : Plan} (numbered : unversioned < version)
    (h : Plan.ofCatalog catalog base version = .ok plan) :
    (∀ table, plan = .create table → table ∉ Plan.tableNames catalog) ∧
      ∀ source destination active fromVersion, plan = .migrate source destination active fromVersion →
        active = destination ∧ destination = Naming.versioned base version ∧
          destination ∉ Plan.tableNames catalog := by
  cases Plan.decision_of_eq h with
  | refilled always => exact absurd always (Int32.ne_of_lt numbered).symm
  | kept => simp
  | respelt => simp
  | copied missing =>
    refine ⟨by simp, fun _ _ _ _ he => ?_⟩
    cases he
    exact ⟨rfl, Plan.active_of_numbered numbered, missing⟩
  | created missing =>
    refine ⟨fun _ he => ?_, by simp⟩
    cases he
    exact missing

/-- A call for a version of a sound schema comes to what is decided from the catalog. -/
theorem Course.outcome (obliges : Obliges backend view) (numbered : unversioned < schema.version)
    (distinct : schema.labels.Nodup) (supported : ∀ index ∈ schema.indexes, ∀ f ∈ index.filters, f.Supported)
    (clear : ∀ name, time.map (Naming.backup base) = some name → (view s).table? name = none)
    (h : Course backend base schema time s calls r t) :
    Outcome base schema time (view s) (Plan.ofCatalog (view s).catalog base schema.version) r
      (calls.filterMap Call.executed?) (view t) := by
  cases h with
  | invalid check =>
    rw [Schema.validate_eq_ok.mpr distinct] at check
    cases check
  | unlisted answer => cases (obliges.listTables answer).1
  | unplanned listed conflict =>
    obtain ⟨hc, same⟩ := obliges.listTables listed
    cases hc
    rw [conflict, same]
    exact .refused
  | skipped planned =>
    obtain ⟨plan, same⟩ := planned.of_view obliges.toFollows
    rw [plan, same]
    exact .skipped
  | created planned trace =>
    obtain ⟨plan, same⟩ := planned.of_view obliges.toFollows
    have free := PlainStore.table?_eq_none ((active_free numbered plan).1 _ rfl)
    rw [← same] at free
    obtain ⟨q, runs⟩ := runs_createSteps free supported
    cases runs.trace obliges trace
    rw [plan]
    exact .created (same ▸ trace.created obliges.toFollows)
  | unread _ answer => cases (obliges.listColumns answer).1
  | unfit planned read check =>
    obtain ⟨plan, same⟩ := planned.of_view obliges.toFollows
    obtain ⟨hc, same'⟩ := obliges.listColumns read
    cases hc
    rw [same] at check
    rw [plan, same', same]
    exact .unfit check
  | @migrated _ _ _ active _ _ _ _ _ _ _ planned read fit trace =>
    obtain ⟨plan, same⟩ := planned.of_view obliges.toFollows
    obtain ⟨rfl, target, missing⟩ := (active_free numbered plan).2 _ _ _ _ rfl
    obtain ⟨origin, stored, rfl, same'⟩ := stored_of_fit obliges.toFollows read fit
    have free := PlainStore.table?_eq_none missing
    rw [← same'] at stored
    rw [← same, ← same'] at free clear
    have apart : ∀ name, time.map (Naming.backup base) = some name → name ≠ active := fun name hb => by
      obtain ⟨u, -, rfl⟩ := Option.map_eq_some_iff.mp hb
      rw [target]
      exact Naming.backup_ne_versioned base u numbered
    obtain ⟨q, runs⟩ := runs_migrateSteps stored free clear apart supported
    cases runs.trace obliges trace
    have settled := (trace.stage obliges.toFollows stored).settled_of_ok
    rw [same', same] at settled
    rw [plan]
    exact .migrated settled

end

end Migration

end TypedTables
