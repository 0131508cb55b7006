import TypedTables.Proofs.Migration.Course
import TypedTables.Proofs.PlainStore

/-!
# The stages of a migration in a plain store

What a plain store holds after each statement of a migration, and so also where the migration stops. The source is
copied (`carried`) before it is retired, and the copy is moved only when the source is out of the way; no name that
is in use is ever given to another table, since the store refuses that. Building indexes changes no table. -/

namespace TypedTables.Migration

variable {κ ρ σ : Type} [Kinds κ]

/-- What a migration makes of a table: the columns of the schema, and for every row one with the values of the shared
    columns and what a row starts with in the others. -/
def carried (schema : Schema κ ρ) (origin : PlainTable) : PlainTable where
  columns := schema.definitions
  rows := origin.rows.map fun row => schema.definitions.map fun column =>
    if column.label ∈ origin.labels then origin.cell row column.label else column.initial

/-- The table of a schema before anything is put into it. -/
def emptyTable (schema : Schema κ ρ) : PlainTable := ⟨schema.definitions, []⟩

/-- Copying the shared columns into the empty table of the schema carries the rows over. -/
theorem carried_eq (schema : Schema κ ρ) (origin : PlainTable) :
    carried schema origin =
      { emptyTable schema with
        rows := (emptyTable schema).rows ++
          origin.rows.map ((emptyTable schema).take origin (shared schema origin.labels)) } := by
  have shared_iff : ∀ column ∈ schema.definitions,
      column.label ∈ shared schema origin.labels ↔ column.label ∈ origin.labels := fun column hc => by
    have hl : column.label ∈ schema.labels := schema.definitions_labels ▸ List.mem_map_of_mem hc
    simp [shared, hl]
  simp only [carried, emptyTable, List.nil_append]
  congr 2
  funext row
  refine List.map_congr_left fun column hc => ?_
  simp only [shared_iff column hc]

/-! ### Steps that change no table -/

section
variable {backend : Backend σ} {view : σ → PlainStore} {steps : Steps} {s t : σ} {calls : List Call}
  {r : Except Error Unit}

/-- Steps none of whose statements changes a table leave the tables alone, wherever they stop. -/
theorem Trace.table?_eq (follows : Follows backend view) (h : Trace backend steps s calls r t)
    (keeps : ∀ statement, .ok statement ∈ steps → ∀ {p q : PlainStore} {n : Nat},
      p.perform statement = .ok (q, n) → q.table? = p.table?) : (view t).table? = (view s).table? := by
  induction h with
  | done => rfl
  | unwritten => rfl
  | refused answer => rw [follows.refused answer]
  | next answer rest ih =>
    rw [ih fun statement hs => keeps statement (List.mem_cons_of_mem _ hs)]
    exact keeps _ List.mem_cons_self (follows.executed answer)

theorem create_eq_ok {index : Index} {table : String} {statement : Statement}
    (h : index.create table = .ok statement) :
    ∃ terms, index.terms = .ok terms ∧ statement = .createIndex (Naming.index table index.name) table terms := by
  unfold Index.create at h
  cases hterms : index.terms with
  | error e => rw [hterms] at h; cases h
  | ok terms =>
    rw [hterms] at h
    cases h
    exact ⟨terms, rfl, rfl⟩

theorem mem_indexSteps {table : String} {indexes : List Index} {step : Except Error Statement} :
    step ∈ indexSteps table indexes ↔
      ∃ index ∈ indexes, step = .ok (index.drop table) ∨ step = index.create table := by
  simp [indexSteps]

theorem Trace.indexes_table?_eq (follows : Follows backend view) {table : String} {indexes : List Index}
    (h : Trace backend (indexSteps table indexes) s calls r t) : (view t).table? = (view s).table? := by
  refine h.table?_eq follows fun statement hs p q n performed => ?_
  obtain ⟨index, -, hdrop | hcreate⟩ := mem_indexSteps.mp hs
  · cases hdrop
    exact PlainStore.perform_dropIndex performed
  · obtain ⟨terms, -, rfl⟩ := create_eq_ok hcreate.symm
    exact PlainStore.perform_createIndex performed

end

/-! ### Stages -/

section
variable (schema : Schema κ ρ) (source destination active : String) (backup : Option String) (origin : PlainTable)
  (p q : PlainStore)

/-- The source is out of use, and its rows are in the destination, which is yet to be moved. -/
structure Retired : Prop where
  filled : q.table? destination = some (carried schema origin)
  kept : ∀ name, backup = some name → q.table? name = some origin
  apart : backup ≠ some destination
  gone : q.table? source = none
  others : ∀ name, name ≠ source → name ≠ destination → backup ≠ some name → q.table? name = p.table? name

/-- The rows are in the active table, and the source is out of use. -/
structure Settled : Prop where
  filled : q.table? active = some (carried schema origin)
  kept : ∀ name, backup = some name → q.table? name = some origin
  gone : source ≠ active → q.table? source = none
  others : ∀ name, name ≠ source → name ≠ active → backup ≠ some name → q.table? name = p.table? name

end

section
variable {schema : Schema κ ρ} {source destination active : String} {backup : Option String} {origin : PlainTable}
  {p p₁ p₂ p₃ q : PlainStore} {n : Nat}

/-- The destination, empty until then, is filled from the source. -/
theorem copied_of_perform (stored : p.table? source = some origin) (free : p.table? destination = none)
    (created : p₁.table? = Function.update p.table? destination (some (emptyTable schema)))
    (h : p₁.perform (.copy source destination (shared schema origin.labels)) = .ok (q, n)) :
    q.table? = Function.update p.table? destination (some (carried schema origin)) := by
  have hne := PlainStore.ne_of_free stored free
  obtain ⟨table, other, htable, hother, tables⟩ := PlainStore.perform_copy h
  rw [created, Function.update_self] at htable
  rw [created, Function.update_of_ne hne, stored] at hother
  cases htable
  cases hother
  rw [tables, created, Function.update_idem, carried_eq]

/-- The source is retired when its rows are in the destination. -/
theorem retired_of_perform (stored : p.table? source = some origin) (free : p.table? destination = none)
    (filled : p₂.table? = Function.update p.table? destination (some (carried schema origin)))
    (h : p₂.perform (retire source backup) = .ok (q, n)) : Retired schema source destination backup origin p q := by
  have hne := PlainStore.ne_of_free stored free
  have hsource := PlainStore.kept_of_update stored free filled
  have hdestination : p₂.table? destination = some (carried schema origin) := by rw [filled, Function.update_self]
  have hothers : ∀ name, name ≠ destination → p₂.table? name = p.table? name := fun name hn => by
    rw [filled, Function.update_of_ne hn]
  cases backup with
  | none =>
    have tables := PlainStore.perform_dropTable h
    exact {
      filled := by rw [tables, Function.update_of_ne hne.symm, hdestination]
      kept := fun _ hb => by cases hb
      apart := by simp
      gone := by rw [tables, Function.update_self]
      others := fun name h₁ h₂ _ => by rw [tables, Function.update_of_ne h₁, hothers name h₂] }
  | some backup =>
    obtain ⟨table, htable, hfree, tables⟩ := PlainStore.perform_rename h
    rw [hsource] at htable
    cases htable
    -- The name of the backup is free, so it is neither that of the source nor that of the destination.
    have hs : backup ≠ source := (PlainStore.ne_of_free hsource hfree).symm
    have hd : backup ≠ destination := (PlainStore.ne_of_free hdestination hfree).symm
    exact {
      filled := by rw [tables, Function.update_of_ne hd.symm, Function.update_of_ne hne.symm, hdestination]
      kept := fun name hb => by
        cases hb
        rw [tables, Function.update_self]
      apart := fun h => hd (Option.some.inj h)
      gone := by rw [tables, Function.update_of_ne hs.symm, Function.update_self]
      others := fun name h₁ h₂ h₃ => by
        have hn : name ≠ backup := fun h => h₃ (congrArg some h.symm)
        rw [tables, Function.update_of_ne hn, Function.update_of_ne h₁, hothers name h₂] }

theorem Retired.settled_of_eq (h : Retired schema source active backup origin p q) :
    Settled schema source active backup origin p q where
  filled := h.filled
  kept := h.kept
  gone _ := h.gone
  others := h.others

/-- The destination is moved to the active name. -/
theorem Retired.settled_of_perform (h : Retired schema source destination backup origin p p₃)
    (free : p.table? destination = none) (move : p₃.perform (.rename destination active) = .ok (q, n)) :
    Settled schema source active backup origin p q := by
  obtain ⟨table, htable, hfree, tables⟩ := PlainStore.perform_rename move
  rw [h.filled] at htable
  cases htable
  have same : ∀ name, name ≠ active → name ≠ destination → q.table? name = p₃.table? name := fun name h₁ h₂ => by
    rw [tables, Function.update_of_ne h₁, Function.update_of_ne h₂]
  have empty : destination ≠ active → q.table? destination = none := fun hd => by
    rw [tables, Function.update_of_ne hd, Function.update_self]
  exact {
    filled := by rw [tables, Function.update_self]
    kept := fun name hb => by
      -- A backup is in the store, and nothing has the active name before the move.
      have hn := PlainStore.ne_of_free (h.kept name hb) hfree
      rw [same name hn fun e => h.apart (e ▸ hb), h.kept name hb]
    gone := fun hs => by
      by_cases hd : source = destination
      · rw [hd, empty fun e => hs (hd.trans e)]
      · rw [same source hs hd, h.gone]
    others := fun name h₁ h₂ h₃ => by
      by_cases hd : name = destination
      · rw [hd, empty fun e => h₂ (hd.trans e), free]
      · rw [same name h₂ hd, h.others name h₁ hd h₃] }

theorem Settled.of_table?_eq (h : Settled schema source active backup origin p p₃) (same : q.table? = p₃.table?) :
    Settled schema source active backup origin p q where
  filled := by rw [same, h.filled]
  kept name hb := by rw [same, h.kept name hb]
  gone hs := by rw [same, h.gone hs]
  others name h₁ h₂ h₃ := by rw [same, h.others name h₁ h₂ h₃]

end

/-- What is left by the steps of a migration out of the table `origin`, by the number of statements that were issued
    and what came of them. -/
inductive Stage (schema : Schema κ ρ) (source destination active : String) (backup : Option String)
    (origin : PlainTable) (p : PlainStore) : Nat → Except Error Unit → PlainStore → Prop where
  | planned {e : Error} : Stage schema source destination active backup origin p 1 (.error e) p
  | created {e : Error} {q : PlainStore} (free : p.table? destination = none)
      (tables : q.table? = Function.update p.table? destination (some (emptyTable schema))) :
      Stage schema source destination active backup origin p 2 (.error e) q
  | copied {e : Error} {q : PlainStore} (free : p.table? destination = none)
      (tables : q.table? = Function.update p.table? destination (some (carried schema origin))) :
      Stage schema source destination active backup origin p 3 (.error e) q
  | retired {e : Error} {q : PlainStore} (differ : destination ≠ active)
      (tables : Retired schema source destination backup origin p q) :
      Stage schema source destination active backup origin p 4 (.error e) q
  | settled {n : Nat} {r : Except Error Unit} {q : PlainStore}
      (tables : Settled schema source active backup origin p q) :
      Stage schema source destination active backup origin p n r q

theorem Stage.settled_of_ok {schema : Schema κ ρ} {source destination active : String} {backup : Option String}
    {origin : PlainTable} {p q : PlainStore} {n : Nat}
    (h : Stage schema source destination active backup origin p n (.ok ()) q) :
    Settled schema source active backup origin p q := by
  cases h with
  | settled tables => exact tables

/-- The destination of a retired source is moved, or it stays because the move fails. -/
theorem Trace.moved {backend : Backend σ} {view : σ → PlainStore} (follows : Follows backend view)
    {schema : Schema κ ρ} {source destination active : String} {backup : Option String} {origin : PlainTable}
    {p : PlainStore} {s t : σ} {calls : List Call} {r : Except Error Unit}
    (retired : Retired schema source destination backup origin p (view s)) (free : p.table? destination = none)
    (h : Trace backend (moveSteps destination active) s calls r t) :
    r = .ok () ∧ Settled schema source active backup origin p (view t) ∨
      (∃ e, r = .error e) ∧ calls.length = 1 ∧ destination ≠ active ∧
        Retired schema source destination backup origin p (view t) := by
  by_cases hd : destination = active
  · subst hd
    simp only [moveSteps, ne_eq, not_true_eq_false, ite_false] at h
    cases h
    exact Or.inl ⟨rfl, retired.settled_of_eq⟩
  simp only [moveSteps, hd, ne_eq, not_false_eq_true, ite_true] at h
  cases h with
  | refused answer =>
    rw [← follows.refused answer] at retired
    exact Or.inr ⟨⟨_, rfl⟩, rfl, hd, retired⟩
  | next answer rest =>
    cases rest
    exact Or.inl ⟨rfl, retired.settled_of_perform free (follows.executed answer)⟩

/-- The steps of a migration end in one of the stages. -/
theorem Trace.stage {backend : Backend σ} {view : σ → PlainStore} (follows : Follows backend view)
    {schema : Schema κ ρ} {source destination active : String} {backup : Option String} {origin : PlainTable}
    {s t : σ} {calls : List Call} {r : Except Error Unit} (stored : (view s).table? source = some origin)
    (h : Trace backend (migrateSteps schema source destination active backup origin.labels) s calls r t) :
    Stage schema source destination active backup origin (view s) calls.length r (view t) := by
  -- One statement after the other: a refusal leaves what the statements before it have done.
  cases h with
  | refused answer =>
    rw [follows.refused answer]
    exact .planned
  | next answer h =>
  obtain ⟨free, created⟩ := PlainStore.perform_createTable (follows.executed answer)
  cases h with
  | refused answer =>
    rw [follows.refused answer]
    exact .created free created
  | next answer h =>
  have copied := copied_of_perform stored free created (follows.executed answer)
  cases h with
  | refused answer =>
    rw [follows.refused answer]
    exact .copied free copied
  | next answer h =>
  have retired := retired_of_perform stored free copied (follows.executed answer)
  rcases h.append with ⟨e, rfl, move⟩ | ⟨first, last, u, rfl, move, indexes⟩
  · obtain ⟨⟨⟩, -⟩ | ⟨-, one, differ, retired⟩ := move.moved follows retired free
    rw [List.length_cons, List.length_cons, List.length_cons, one]
    exact .retired differ retired
  · obtain ⟨-, settled⟩ | ⟨⟨_, ⟨⟩⟩, -⟩ := move.moved follows retired free
    exact .settled (settled.of_table?_eq (indexes.indexes_table?_eq follows))

/-- The destination of a migration that ends well was not there before. -/
theorem Trace.destination_free {backend : Backend σ} {view : σ → PlainStore} (follows : Follows backend view)
    {schema : Schema κ ρ} {source destination active : String} {backup : Option String} {columns : List String}
    {s t : σ} {calls : List Call}
    (h : Trace backend (migrateSteps schema source destination active backup columns) s calls (.ok ()) t) :
    (view s).table? destination = none := by
  cases h with
  | next answer => exact (PlainStore.perform_createTable (follows.executed answer)).1

theorem Trace.created {backend : Backend σ} {view : σ → PlainStore} (follows : Follows backend view)
    {schema : Schema κ ρ} {table : String} {s t : σ} {calls : List Call}
    (h : Trace backend (createSteps schema table) s calls (.ok ()) t) :
    (view t).table? = Function.update (view s).table? table (some (emptyTable schema)) := by
  cases h with
  | next answer indexes =>
    rw [indexes.indexes_table?_eq follows]
    exact (PlainStore.perform_createTable (follows.executed answer)).2

/-! ### Whole calls -/

section
variable {backend : Backend σ} {view : σ → PlainStore} {base : String} {schema : Schema κ ρ}
  {time : Option Timestamp} {s t u : σ} {calls : List Call} {catalog : List TableInfo} {plan : Plan}

theorem Planned.of_view (follows : Follows backend view) (h : Planned backend base schema s catalog plan t) :
    Plan.ofCatalog (view s).catalog base schema.version = .ok plan ∧ view t = view s := by
  obtain ⟨hc, same⟩ := follows.listTables h.listed
  cases hc
  exact ⟨h.plan, same⟩

/-- A source that is fit has been found. -/
theorem stored_of_fit (follows : Follows backend view) {source : String} {columns : List String}
    (read : (backend.listColumns source).runOn s = (.ok columns, t))
    (fit : checkSource schema source columns = .ok ()) :
    ∃ origin, (view s).table? source = some origin ∧ columns = origin.labels ∧ view t = view s := by
  obtain ⟨hc, same⟩ := follows.listColumns read
  cases hc
  cases stored : (view s).table? source with
  | none => simp [checkSource, PlainStore.columnNames, stored] at fit
  | some origin => exact ⟨origin, rfl, by simp [PlainStore.columnNames, stored], same⟩

theorem report_eq_ok {operation table : String} {r : Except Error Unit} {report : Report} {answer : Option Report}
    (h : .ok answer = (during operation table r).map fun _ => some report) : r = .ok () ∧ answer = some report := by
  cases r with
  | error e => cases h
  | ok => exact ⟨rfl, Except.ok.inj h⟩

/-- What a call has done that ends well. -/
inductive Done (base : String) (schema : Schema κ ρ) (time : Option Timestamp) (p : PlainStore) :
    Option Report → PlainStore → Prop where
  | skipped {table : String} (plan : Plan.ofCatalog p.catalog base schema.version = .ok (.skip table)) :
      Done base schema time p none p
  | created {table : String} {q : PlainStore}
      (plan : Plan.ofCatalog p.catalog base schema.version = .ok (.create table))
      (tables : q.table? = Function.update p.table? table (some (emptyTable schema))) :
      Done base schema time p (some ⟨none, unversioned, schema.version⟩) q
  | migrated {source destination active : String} {fromVersion : Int32} {origin : PlainTable} {q : PlainStore}
      (plan : Plan.ofCatalog p.catalog base schema.version = .ok (.migrate source destination active fromVersion))
      (stored : p.table? source = some origin) (free : p.table? destination = none)
      (tables : Settled schema source active (time.map (Naming.backup base)) origin p q) :
      Done base schema time p (some ⟨time.map (Naming.backup base), fromVersion, schema.version⟩) q

/-- A call that ends well has found the schema sound and has done what the plan says. -/
theorem Course.done (follows : Follows backend view) {answer : Option Report}
    (h : Course backend base schema time s calls (.ok answer) t) :
    schema.validate = .ok () ∧ Done base schema time (view s) answer (view t) := by
  generalize hr : (.ok answer : Except Error (Option Report)) = r at h
  cases h with
  | invalid => cases hr
  | unlisted => cases hr
  | unplanned => cases hr
  | skipped planned =>
    cases hr
    obtain ⟨plan, same⟩ := planned.of_view follows
    rw [same]
    exact ⟨planned.valid, .skipped plan⟩
  | created planned trace =>
    obtain ⟨rfl, rfl⟩ := report_eq_ok hr
    obtain ⟨plan, same⟩ := planned.of_view follows
    exact ⟨planned.valid, .created plan (same ▸ trace.created follows)⟩
  | unread => cases hr
  | unfit => cases hr
  | migrated planned read fit trace =>
    obtain ⟨rfl, rfl⟩ := report_eq_ok hr
    obtain ⟨plan, same⟩ := planned.of_view follows
    obtain ⟨origin, stored, rfl, same'⟩ := stored_of_fit follows read fit
    have stage := trace.stage follows (same'.symm ▸ stored)
    have free := trace.destination_free follows
    rw [same', same] at stage free
    exact ⟨planned.valid, .migrated plan (same ▸ stored) free stage.settled_of_ok⟩

/-- A call whose plan is to migrate and one of whose statements fails ends with that failure, in one of the stages. -/
theorem Course.failed (follows : Follows backend view) {source destination active : String} {fromVersion : Int32}
    {r : Except Error (Option Report)} {k : Nat} {statement : Statement} {e : Error}
    (h : Course backend base schema time s calls r t)
    (plan : Plan.ofCatalog (view s).catalog base schema.version = .ok (.migrate source destination active fromVersion))
    (hk : (calls.filterMap Call.executed?)[k]? = some (statement, .error e)) :
    schema.validate = .ok () ∧ r = .error (.failed "migrate" source e) ∧
      (calls.filterMap Call.executed?).length = k + 1 ∧
      ∃ origin, (view s).table? source = some origin ∧
        Stage schema source destination active (time.map (Naming.backup base)) origin (view s) (k + 1) (.error e)
          (view t) := by
  cases h with
  | invalid => cases hk
  | unlisted => cases hk
  | unplanned => cases hk
  | skipped => cases hk
  | created planned =>
    have other := (planned.of_view follows).1
    rw [plan] at other
    cases other
  | unread => cases hk
  | unfit => cases hk
  | migrated planned read fit trace =>
    obtain ⟨same_plan, same⟩ := planned.of_view follows
    rw [plan] at same_plan
    cases same_plan
    obtain ⟨origin, stored, rfl, same'⟩ := stored_of_fit follows read fit
    obtain ⟨length, rfl⟩ := trace.failure_last hk
    have stage := trace.stage follows (same'.symm ▸ stored)
    rw [same', same, ← length] at stage
    exact ⟨planned.valid, rfl, trace.length_executed.trans length.symm, origin, same ▸ stored, stage⟩

end

end TypedTables.Migration
