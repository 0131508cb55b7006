import TypedTables.Proofs.Migration.Forward
import TypedTables.Proofs.Sql.Compilation

/-!
# The script of a migration

A call asks first and executes afterwards. What it is told makes its script: the statements of its plan, with the
columns that the source shares with the schema. It goes along the script up to the first statement that fails
(`Performed`), and it has come to the end exactly if it ends well. A call that is stopped while it asks executes
nothing (`Halted`). The store behind it may answer whatever it likes, at any time. -/

namespace TypedTables.Migration

variable {κ ρ σ : Type} [Kinds κ]

/-- The steps of a plan, out of a source of the given columns. -/
def planSteps (schema : Schema κ ρ) (backup : Option String) (columns : List String) : Plan → Steps
  | .skip _ => []
  | .create table => createSteps schema table
  | .migrate source destination active _ => migrateSteps schema source destination active backup columns

/-! ### Steps that can be written -/

theorem exists_create {index : Index} (table : String) (supported : ∀ f ∈ index.filters, f.Supported) :
    ∃ statement, index.create table = .ok statement := by
  obtain ⟨terms, written⟩ := Compilation.exists_terms supported
  exact ⟨_, congrArg (Except.map _) written⟩

theorem exists_indexScript (table : String) {indexes : List Index}
    (supported : ∀ index ∈ indexes, ∀ f ∈ index.filters, f.Supported) :
    ∃ script : List Statement, indexSteps table indexes = script.map .ok := by
  induction indexes with
  | nil => exact ⟨[], rfl⟩
  | cons index indexes ih =>
    obtain ⟨script, rest⟩ := ih fun other ho => supported other (List.mem_cons_of_mem _ ho)
    obtain ⟨statement, written⟩ := exists_create table (supported index List.mem_cons_self)
    refine ⟨index.drop table :: statement :: script, ?_⟩
    show .ok (index.drop table) :: index.create table :: indexSteps table indexes = _
    rw [written, rest]
    rfl

theorem exists_moveScript (destination active : String) :
    ∃ script : List Statement, moveSteps destination active = script.map .ok := by
  unfold moveSteps
  split
  · exact ⟨[_], rfl⟩
  · exact ⟨[], rfl⟩

theorem exists_script {schema : Schema κ ρ} (supported : ∀ index ∈ schema.indexes, ∀ f ∈ index.filters, f.Supported)
    (backup : Option String) (columns : List String) (plan : Plan) :
    ∃ script : List Statement, planSteps schema backup columns plan = script.map .ok := by
  cases plan with
  | skip => exact ⟨[], rfl⟩
  | create table =>
    obtain ⟨script, indexes⟩ := exists_indexScript table supported
    refine ⟨schema.create table :: script, ?_⟩
    rw [planSteps, createSteps, indexes]
    rfl
  | migrate source destination active fromVersion =>
    obtain ⟨script, indexes⟩ := exists_indexScript active supported
    obtain ⟨move, moves⟩ := exists_moveScript destination active
    refine ⟨schema.create destination :: .copy source destination (shared schema columns) :: retire source backup ::
      (move ++ script), ?_⟩
    rw [planSteps, migrateSteps, indexes, moves, ← List.map_append]
    rfl

/-! ### Along a script -/

def issued (executed : Statement × Except Error Nat) : Call := .execute executed.1 executed.2

theorem filterMap_issued (executed : List (Statement × Except Error Nat)) :
    (executed.map issued).filterMap Call.executed? = executed := by
  rw [List.filterMap_map]
  exact List.filterMap_some

/-- The statements answered without failure. -/
def Answered (executed : List (Statement × Except Error Nat)) : Prop := ∀ call ∈ executed, ∃ n, call.2 = .ok n

/-- What was executed of a script, and what came of it. -/
structure Performed {α : Type} (script : List Statement) (executed : List (Statement × Except Error Nat))
    (r : Except Error α) : Prop where
  start : executed.map Prod.fst <+: script
  /-- All ended well exactly if the whole script was executed and no statement of it failed. -/
  whole : (∃ a, r = .ok a) ↔ executed.map Prod.fst = script ∧ Answered executed
  /-- Otherwise the last statement that was executed failed, the ones before it did not, and that is why. -/
  stopped : ∀ e, r = .error e → ∃ front statement cause, executed = front ++ [(statement, .error cause)] ∧
    Answered front ∧ e.rootCause = cause.rootCause

namespace Performed

variable {script : List Statement} {executed : List (Statement × Except Error Nat)} {statement : Statement}
  {r : Except Error Unit}

theorem skipped {α : Type} (a : α) : Performed [] [] (.ok a) where
  start := List.nil_prefix
  whole := ⟨fun _ => ⟨rfl, fun _ hc => absurd hc List.not_mem_nil⟩, fun _ => ⟨a, rfl⟩⟩
  stopped _ h := by cases h

theorem refused (script : List Statement) (statement : Statement) (e : Error) :
    Performed (statement :: script) [(statement, .error e)] (.error e : Except Error Unit) where
  start := ⟨script, rfl⟩
  whole := by
    constructor
    · rintro ⟨_, ⟨⟩⟩
    · rintro ⟨-, answered⟩
      obtain ⟨_, ⟨⟩⟩ := answered _ List.mem_cons_self
  stopped e' h := by
    cases h
    exact ⟨[], statement, e, rfl, fun _ hc => absurd hc List.not_mem_nil, rfl⟩

theorem answered_cons {n : Nat} : Answered ((statement, .ok n) :: executed) ↔ Answered executed := by
  simp [Answered]

theorem next (n : Nat) (h : Performed script executed r) :
    Performed (statement :: script) ((statement, .ok n) :: executed) r where
  start := by
    rw [List.map_cons, List.prefix_cons_inj]
    exact h.start
  whole := by
    rw [h.whole, List.map_cons, List.cons_inj_right, answered_cons]
  stopped e he := by
    obtain ⟨front, last, cause, rfl, answered, blame⟩ := h.stopped e he
    exact ⟨(statement, .ok n) :: front, last, cause, rfl, answered_cons.mpr answered, blame⟩

theorem reported {α : Type} (operation table : String) (a : α) (h : Performed script executed r) :
    Performed script executed ((during operation table r).map fun _ => a) where
  start := h.start
  whole := by
    rw [← h.whole]
    cases r with
    | error e => exact iff_of_false (fun ⟨_, ended⟩ => nomatch ended) fun ⟨_, ended⟩ => nomatch ended
    | ok => exact iff_of_true ⟨a, rfl⟩ ⟨(), rfl⟩
  stopped e he := by
    cases r with
    | error cause =>
      cases he
      exact h.stopped cause rfl
    | ok => cases he

end Performed

section
variable {backend : Backend σ} {base : String} {schema : Schema κ ρ} {time : Option Timestamp} {s t : σ}
  {calls : List Call}

/-- Steps that are a script are executed along it, whatever the backend answers. -/
theorem Trace.performed {script : List Statement} {r : Except Error Unit}
    (h : Trace backend (script.map .ok) s calls r t) :
    ∃ executed, calls = executed.map issued ∧ Performed script executed r := by
  -- On the script: every step is a statement, so what stops the trace is an answer and never the step itself.
  induction script generalizing s calls with
  | nil =>
    cases h
    exact ⟨[], rfl, .skipped ()⟩
  | cons statement script ih =>
    cases h with
    | @refused _ _ _ _ e answer => exact ⟨_, rfl, .refused script statement e⟩
    | @next _ _ _ _ _ n _ _ answer rest =>
      obtain ⟨executed, rfl, performed⟩ := ih rest
      exact ⟨(statement, .ok n) :: executed, rfl, performed.next n⟩

/-! ### Whole calls -/

/-- What stops a call while it asks: the schema itself, a catalog that cannot be read or makes no plan, a source that
    cannot be read or lacks a column. -/
inductive Halted (base : String) (schema : Schema κ ρ) : List Call → Error → Prop where
  | invalid {e : Error} (check : schema.validate = .error e) : Halted base schema [] e
  | unlisted (e : Error) : Halted base schema [.listTables (.error e)] (.failed "migrate" base e)
  | unplanned {catalog : List TableInfo} {e : Error}
      (conflict : Plan.ofCatalog catalog base schema.version = .error e) :
      Halted base schema [.listTables (.ok catalog)] e
  | unread {catalog : List TableInfo} {source destination active : String} {fromVersion : Int32} (e : Error)
      (plan : Plan.ofCatalog catalog base schema.version = .ok (.migrate source destination active fromVersion)) :
      Halted base schema [.listTables (.ok catalog), .listColumns source (.error e)] (.failed "migrate" source e)
  | unfit {catalog : List TableInfo} {source destination active : String} {fromVersion : Int32}
      {columns : List String} {e : Error}
      (plan : Plan.ofCatalog catalog base schema.version = .ok (.migrate source destination active fromVersion))
      (check : checkSource schema source columns = .error e) :
      Halted base schema [.listTables (.ok catalog), .listColumns source (.ok columns)] (.failed "migrate" source e)

theorem Halted.executed {e : Error} (h : Halted base schema calls e) : calls.filterMap Call.executed? = [] := by
  cases h <;> rfl

/-- What a plan asks before anything is executed, with the answers. -/
def inquiries (catalog : List TableInfo) (columns : List String) : Plan → List Call
  | .migrate source _ _ _ => [.listTables (.ok catalog), .listColumns source (.ok columns)]
  | _ => [.listTables (.ok catalog)]

theorem executed_journal (catalog : List TableInfo) (columns : List String) (plan : Plan)
    (executed : List (Statement × Except Error Nat)) :
    (inquiries catalog columns plan ++ executed.map issued).filterMap Call.executed? = executed := by
  rw [List.filterMap_append, filterMap_issued]
  cases plan <;> rfl

/-- A call that is not stopped while it asks: it has a sound schema, a plan for the catalog that it was told, and a
    source whose columns hold the primary key, and it goes along the script of these. -/
structure Scripted (base : String) (schema : Schema κ ρ) (time : Option Timestamp) (catalog : List TableInfo)
    (columns : List String) (plan : Plan) (script : List Statement) (executed : List (Statement × Except Error Nat))
    (calls : List Call) (r : Except Error (Option Report)) : Prop where
  valid : schema.validate = .ok ()
  planned : Plan.ofCatalog catalog base schema.version = .ok plan
  keyed : ∀ source destination active fromVersion, plan = .migrate source destination active fromVersion →
    schema.key.label ∈ columns
  /-- First everything is asked, then statements are executed. -/
  journal : calls = inquiries catalog columns plan ++ executed.map issued
  written : planSteps schema (time.map (Naming.backup base)) columns plan = script.map .ok
  performed : Performed script executed r

/-- A call is stopped while it asks, or it goes along its script. -/
theorem Course.scripted {r : Except Error (Option Report)} (h : Course backend base schema time s calls r t)
    (supported : ∀ index ∈ schema.indexes, ∀ f ∈ index.filters, f.Supported) :
    (∃ e, r = .error e ∧ Halted base schema calls e) ∨
      ∃ catalog columns plan script executed,
        Scripted base schema time catalog columns plan script executed calls r := by
  have script := exists_script supported (time.map (Naming.backup base))
  cases h with
  | invalid check => exact Or.inl ⟨_, rfl, .invalid check⟩
  | unlisted => exact Or.inl ⟨_, rfl, .unlisted _⟩
  | unplanned _ conflict => exact Or.inl ⟨_, rfl, .unplanned conflict⟩
  | unread planned => exact Or.inl ⟨_, rfl, .unread _ planned.plan⟩
  | unfit planned _ check => exact Or.inl ⟨_, rfl, .unfit planned.plan check⟩
  | @skipped catalog table _ planned =>
    refine Or.inr ⟨catalog, [], .skip table, [], [], ?_⟩
    exact {
      valid := planned.valid
      planned := planned.plan
      keyed := fun _ _ _ _ h => by cases h
      journal := rfl
      written := rfl
      performed := Performed.skipped none }
  | @created catalog table _ _ calls r planned trace =>
    obtain ⟨statements, written⟩ := script [] (.create table)
    rw [planSteps] at written
    rw [written] at trace
    obtain ⟨executed, rfl, performed⟩ := trace.performed
    refine Or.inr ⟨catalog, [], .create table, statements, executed, ?_⟩
    exact {
      valid := planned.valid
      planned := planned.plan
      keyed := fun _ _ _ _ h => by cases h
      journal := rfl
      written := written
      performed := performed.reported _ _ _ }
  | @migrated catalog source destination active fromVersion _ _ _ columns calls r planned read fit trace =>
    obtain ⟨statements, written⟩ := script columns (.migrate source destination active fromVersion)
    rw [planSteps] at written
    rw [written] at trace
    obtain ⟨executed, rfl, performed⟩ := trace.performed
    refine Or.inr ⟨catalog, columns, .migrate source destination active fromVersion, statements, executed, ?_⟩
    exact {
      valid := planned.valid
      planned := planned.plan
      keyed := fun _ _ _ _ _ => (checkSource_eq_ok.mp fit).1
      journal := rfl
      written := written
      performed := performed.reported _ _ _ }

/-- Whatever the backend answers: a call that is stopped while it asks executes nothing. Any other executes a start of
    its script, the whole of it without failure if it ends well, and up to the failed statement if it does not. -/
theorem bring_scripted {r : Except Error (Option Report)} {after : Journaled σ}
    (supported : ∀ index ∈ schema.indexes, ∀ f ∈ index.filters, f.Supported)
    (run : (bring backend.journaled base schema time).runOn ⟨s, []⟩ = (r, after)) :
    (∃ e, r = .error e ∧ Halted base schema after.calls e ∧ after.executed = []) ∨
      ∃ catalog columns plan script,
        Scripted base schema time catalog columns plan script after.executed after.calls r := by
  rcases (bring_journal run).scripted supported with ⟨e, rfl, halted⟩ | ⟨catalog, columns, plan, script, executed, h⟩
  · exact Or.inl ⟨e, rfl, halted, halted.executed⟩
  · -- The inquiries at the head of the journal execute nothing.
    have same : after.executed = executed := by rw [Journaled.executed, h.journal, executed_journal]
    exact Or.inr ⟨catalog, columns, plan, script, same ▸ h⟩

end

/-- The people without a version, with an index. -/
def looseIndexedPeople : Schema CellKind CellRow :=
  (people.withVersion unversioned).withIndexes [.onField "by" ⟨"name", .fixedString 20⟩]

/-- The people are migrated in place, and the fourth statement fails. -/
def stoppedInPlace : Except Error (Option Report) × Journaled (Faulty PlainStore) :=
  (bring PlainStore.backend.faulty.journaled "people" looseIndexedPeople (some noon)).runOn
    ⟨⟨PlainStore.put {} "people" firstPeople, [none, none, none, some diskFull]⟩, []⟩

theorem stoppedInPlace_scripted :
    (∃ catalog columns plan script, Scripted "people" looseIndexedPeople (some noon) catalog columns plan script
        stoppedInPlace.2.executed stoppedInPlace.2.calls stoppedInPlace.1) ∧
      stoppedInPlace.2.executed.map (fun call => (call.1.text, call.2)) =
        [("CREATE TABLE \"migrate:people\" (\"id\" INTEGER PRIMARY KEY, \"name\" NVARCHAR(20), " ++
            "\"age\" INTEGER DEFAULT 7)", .ok 0),
          ("INSERT INTO \"migrate:people\" (\"id\", \"name\") SELECT \"people\".\"id\", \"people\".\"name\" " ++
            "FROM \"people\"", .ok 2),
          ("ALTER TABLE \"people\" RENAME TO \"people:backup:2024-02-29T12:00:00.000042\"", .ok 0),
          ("ALTER TABLE \"migrate:people\" RENAME TO \"people\"", .error diskFull)] := by
  have supported : ∀ index ∈ looseIndexedPeople.indexes, ∀ f ∈ index.filters, f.Supported := by
    intro index hi f hf
    cases List.mem_singleton.mp hi
    cases hf
  have four : stoppedInPlace.2.executed.length = 4 := by decide +kernel
  have run : (bring PlainStore.backend.faulty.journaled "people" looseIndexedPeople (some noon)).runOn
      ⟨⟨PlainStore.put {} "people" firstPeople, [none, none, none, some diskFull]⟩, []⟩ =
      (stoppedInPlace.1, stoppedInPlace.2) := rfl
  refine ⟨?_, by decide +kernel⟩
  rcases bring_scripted supported run with ⟨-, -, -, nothing⟩ | scripted
  · rw [nothing] at four
    cases four
  · exact scripted

/-- The people are created where there are none, and that very statement fails. -/
def stoppedCreate : Except Error (Option Report) × Journaled (Faulty PlainStore) :=
  (bring PlainStore.backend.faulty.journaled "people" people none).runOn ⟨⟨{}, [some diskFull]⟩, []⟩

/-- To have executed the whole script is not enough: its last statement may be the one that fails. -/
theorem stoppedCreate_whole :
    stoppedCreate.2.calls.head? = some (.listTables (.ok [])) ∧
      Plan.ofCatalog [] "people" people.version = .ok (.create "people:v2") ∧
      planSteps people none [] (.create "people:v2") = (stoppedCreate.2.executed.map Prod.fst).map .ok ∧
      ¬ ∃ report, stoppedCreate.1 = .ok report := by
  refine ⟨rfl, by decide +kernel, rfl, ?_⟩
  rintro ⟨report, h⟩
  have failed : stoppedCreate.1.toOption = none := by decide +kernel
  rw [h] at failed
  cases failed

end TypedTables.Migration
