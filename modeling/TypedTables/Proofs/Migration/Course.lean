import TypedTables.Migration
import TypedTables.Proofs.Backend.Trial

/-!
# The course of a migration

Past its checks a migration is a fixed list of steps: statements, and in the place of one that cannot be written the
error that says so. The steps are taken in order up to the first that fails (`Trace`). `Course` says everything that
can happen in a whole call, from the schema's own check to the last index, with the calls that the backend receives
on the way. Nothing is assumed of the backend. -/

namespace TypedTables.Migration

variable {κ ρ σ : Type} [Kinds κ]

/-- What is sent to a backend in order. An error stands for a statement that cannot be written. -/
abbrev Steps := List (Except Error Statement)

/-- The steps that build indexes. -/
def indexSteps (table : String) (indexes : List Index) : Steps :=
  indexes.flatMap fun index => [.ok (index.drop table), index.create table]

/-- The steps that create a table with its indexes. -/
def createSteps (schema : Schema κ ρ) (table : String) : Steps :=
  .ok (schema.create table) :: indexSteps table schema.indexes

/-- The step that moves the destination to the active name, where they differ. -/
def moveSteps (destination active : String) : Steps :=
  if destination ≠ active then [.ok (.rename destination active)] else []

/-- The steps of a migration out of a source of the given columns. -/
def migrateSteps (schema : Schema κ ρ) (source destination active : String) (backup : Option String)
    (columns : List String) : Steps :=
  .ok (schema.create destination) :: .ok (.copy source destination (shared schema columns)) ::
    .ok (retire source backup) :: (moveSteps destination active ++ indexSteps active schema.indexes)

/-- Takes the steps one after the other. -/
def runSteps (backend : Backend σ) : Steps → Action σ Unit
  | [] => pure ()
  | step :: steps => do
    let statement ← Action.ofExcept step
    run backend statement
    runSteps backend steps

/-! ### Migrations as steps -/

theorem ofExcept_ok_bind {α β : Type} (a : α) (f : α → Action σ β) : (Action.ofExcept (.ok a) >>= f) = f a := rfl

theorem runSteps_append (backend : Backend σ) (first rest : Steps) :
    runSteps backend (first ++ rest) = (do runSteps backend first; runSteps backend rest) := by
  induction first with
  | nil => simp [runSteps]
  | cons step first ih => simp [runSteps, ih]

theorem buildIndexes_eq (backend : Backend σ) (table : String) (indexes : List Index) :
    buildIndexes backend table indexes = runSteps backend (indexSteps table indexes) := by
  induction indexes with
  | nil => rfl
  | cons index indexes ih =>
    rw [buildIndexes, ih]
    rfl

theorem create_eq (backend : Backend σ) (schema : Schema κ ρ) (table : String) :
    create backend schema table = runSteps backend (createSteps schema table) := by
  rw [create, buildIndexes_eq]
  rfl

theorem runSteps_moveSteps (backend : Backend σ) (destination active : String) :
    runSteps backend (moveSteps destination active) =
      (if destination ≠ active then run backend (.rename destination active) else pure ()) := by
  unfold moveSteps
  split
  · simp [runSteps, ofExcept_ok_bind]
  · rfl

theorem migrate_eq (backend : Backend σ) (schema : Schema κ ρ) (source destination active : String)
    (backup : Option String) :
    migrate backend schema source destination active backup = (do
      let columns ← backend.listColumns source
      Action.ofExcept (checkSource schema source columns)
      runSteps backend (migrateSteps schema source destination active backup columns)) := by
  simp only [migrate, migrateSteps, runSteps, runSteps_append, runSteps_moveSteps, ofExcept_ok_bind,
    buildIndexes_eq]
  by_cases h : destination = active <;> simp [h]

/-! ### Traces -/

/-- The steps are taken from the state `s` up to the first that fails: the calls that the backend receives, what
    comes of it all, and the state that is left. -/
inductive Trace (backend : Backend σ) : Steps → σ → List Call → Except Error Unit → σ → Prop where
  | done {s : σ} : Trace backend [] s [] (.ok ()) s
  | unwritten {steps : Steps} {s : σ} {e : Error} : Trace backend (.error e :: steps) s [] (.error e) s
  | refused {statement : Statement} {steps : Steps} {s t : σ} {e : Error}
      (answer : (backend.execute statement).runOn s = (.error e, t)) :
      Trace backend (.ok statement :: steps) s [.execute statement (.error e)] (.error e) t
  | next {statement : Statement} {steps : Steps} {s t u : σ} {n : Nat} {calls : List Call} {r : Except Error Unit}
      (answer : (backend.execute statement).runOn s = (.ok n, t)) (rest : Trace backend steps t calls r u) :
      Trace backend (.ok statement :: steps) s (.execute statement (.ok n) :: calls) r u

theorem run_eq_ok {backend : Backend σ} {statement : Statement} {s t : σ} {n : Nat}
    (h : (backend.execute statement).runOn s = (.ok n, t)) : (run backend statement).runOn s = (.ok (), t) :=
  Action.runOn_bind_ok h

theorem run_eq_error {backend : Backend σ} {statement : Statement} {s t : σ} {e : Error}
    (h : (backend.execute statement).runOn s = (.error e, t)) : (run backend statement).runOn s = (.error e, t) :=
  Action.runOn_bind_error h

theorem runSteps_trace (backend : Backend σ) (steps : Steps) {s t : σ} {r : Except Error Unit}
    (h : (runSteps backend steps).runOn s = (r, t)) : ∃ calls, Trace backend steps s calls r t := by
  induction steps generalizing s with
  | nil =>
    cases h
    exact ⟨[], .done⟩
  | cons step steps ih =>
    cases step with
    | error e =>
      cases h
      exact ⟨[], .unwritten⟩
    | ok statement =>
      rw [runSteps, ofExcept_ok_bind] at h
      rcases answer : (backend.execute statement).runOn s with ⟨e | n, u⟩
      · rw [Action.runOn_bind_error (run_eq_error answer)] at h
        cases h
        exact ⟨_, .refused answer⟩
      · rw [Action.runOn_bind_ok (run_eq_ok answer)] at h
        obtain ⟨calls, rest⟩ := ih h
        exact ⟨_, .next answer rest⟩

namespace Trace

variable {backend : Backend σ} {steps : Steps} {s t : σ} {calls : List Call} {r : Except Error Unit}

/-- A trace of steps with others behind them ends in the first or goes through all of them. -/
theorem append {rest : Steps} (h : Trace backend (steps ++ rest) s calls r t) :
    (∃ e, r = .error e ∧ Trace backend steps s calls (.error e) t) ∨
      ∃ first last u, calls = first ++ last ∧ Trace backend steps s first (.ok ()) u ∧
        Trace backend rest u last r t := by
  induction steps generalizing s calls with
  | nil => exact Or.inr ⟨[], calls, s, rfl, .done, h⟩
  | cons step steps ih =>
    cases h with
    | unwritten => exact Or.inl ⟨_, rfl, .unwritten⟩
    | refused answer => exact Or.inl ⟨_, rfl, .refused answer⟩
    | next answer tail =>
      rcases ih tail with ⟨e, rfl, h⟩ | ⟨first, last, u, rfl, h₁, h₂⟩
      · exact Or.inl ⟨e, rfl, .next answer h⟩
      · exact Or.inr ⟨_, last, u, rfl, .next answer h₁, h₂⟩

theorem length_executed (h : Trace backend steps s calls r t) :
    (calls.filterMap Call.executed?).length = calls.length := by
  induction h with
  | done => rfl
  | unwritten => rfl
  | refused => rfl
  | next _ _ ih => simp [Call.executed?, ih]

/-- A statement that fails is the last one, and its failure is what comes of the steps. -/
theorem failure_last (h : Trace backend steps s calls r t) {k : Nat} {statement : Statement} {e : Error}
    (hk : (calls.filterMap Call.executed?)[k]? = some (statement, .error e)) :
    k + 1 = calls.length ∧ r = .error e := by
  induction h generalizing k with
  | done => cases hk
  | unwritten => cases hk
  | refused answer =>
    cases k with
    | zero =>
      cases hk
      exact ⟨rfl, rfl⟩
    | succ k => cases hk
  | next answer rest ih =>
    cases k with
    | zero => cases hk
    | succ k =>
      obtain ⟨hk, hr⟩ := ih (k := k) (by simpa [Call.executed?] using hk)
      exact ⟨by simp [← hk], hr⟩

/-- Without a failed call the steps fail only where one of them cannot be written. -/
theorem unwritten_of_answered (h : Trace backend steps s calls (.error e) t)
    (answered : ∀ call ∈ calls, call.failure? = none) : .error e ∈ steps := by
  generalize hr : (.error e : Except Error Unit) = r at h
  induction h with
  | done => cases hr
  | unwritten =>
    cases hr
    exact List.mem_cons_self
  | refused answer => cases answered _ List.mem_cons_self
  | next answer rest ih =>
    exact List.mem_cons_of_mem _ (ih (fun call hc => answered call (List.mem_cons_of_mem _ hc)) hr)

/-- The calls of a trace are all that the backend receives. -/
theorem journal {s t : Journaled σ} (h : Trace backend.journaled steps s calls r t) : t.calls = s.calls ++ calls := by
  induction h with
  | done => simp
  | unwritten => simp
  | refused answer => exact (Journaled.runOn_note answer).2
  | next answer rest ih => rw [ih, (Journaled.runOn_note answer).2, List.append_assoc, List.singleton_append]

end Trace

/-! ### Whole calls -/

/-- The schema is sound, the backend lists its tables, and they make a plan. -/
structure Planned (backend : Backend σ) (base : String) (schema : Schema κ ρ) (s : σ) (catalog : List TableInfo)
    (plan : Plan) (t : σ) : Prop where
  valid : schema.validate = .ok ()
  listed : backend.listTables.runOn s = (.ok catalog, t)
  plan : Plan.ofCatalog catalog base schema.version = .ok plan

/-- What a call can come to: the calls that the backend receives, the answer, and the state that is left. -/
inductive Course (backend : Backend σ) (base : String) (schema : Schema κ ρ) (time : Option Timestamp) (s : σ) :
    List Call → Except Error (Option Report) → σ → Prop where
  | invalid {e : Error} (check : schema.validate = .error e) : Course backend base schema time s [] (.error e) s
  | unlisted {e : Error} {t : σ} (answer : backend.listTables.runOn s = (.error e, t)) :
      Course backend base schema time s [.listTables (.error e)] (.error (.failed "migrate" base e)) t
  | unplanned {catalog : List TableInfo} {e : Error} {t : σ} (listed : backend.listTables.runOn s = (.ok catalog, t))
      (conflict : Plan.ofCatalog catalog base schema.version = .error e) :
      Course backend base schema time s [.listTables (.ok catalog)] (.error e) t
  | skipped {catalog : List TableInfo} {table : String} {t : σ}
      (planned : Planned backend base schema s catalog (.skip table) t) :
      Course backend base schema time s [.listTables (.ok catalog)] (.ok none) t
  | created {catalog : List TableInfo} {table : String} {t u : σ} {calls : List Call} {r : Except Error Unit}
      (planned : Planned backend base schema s catalog (.create table) t)
      (trace : Trace backend (createSteps schema table) t calls r u) :
      Course backend base schema time s (.listTables (.ok catalog) :: calls)
        ((during "create table" table r).map fun _ => some ⟨none, unversioned, schema.version⟩) u
  | unread {catalog : List TableInfo} {source destination active : String} {fromVersion : Int32} {t u : σ} {e : Error}
      (planned : Planned backend base schema s catalog (.migrate source destination active fromVersion) t)
      (answer : (backend.listColumns source).runOn t = (.error e, u)) :
      Course backend base schema time s [.listTables (.ok catalog), .listColumns source (.error e)]
        (.error (.failed "migrate" source e)) u
  | unfit {catalog : List TableInfo} {source destination active : String} {fromVersion : Int32} {t u : σ}
      {columns : List String} {e : Error}
      (planned : Planned backend base schema s catalog (.migrate source destination active fromVersion) t)
      (read : (backend.listColumns source).runOn t = (.ok columns, u))
      (check : checkSource schema source columns = .error e) :
      Course backend base schema time s [.listTables (.ok catalog), .listColumns source (.ok columns)]
        (.error (.failed "migrate" source e)) u
  | migrated {catalog : List TableInfo} {source destination active : String} {fromVersion : Int32} {t u v : σ}
      {columns : List String} {calls : List Call} {r : Except Error Unit}
      (planned : Planned backend base schema s catalog (.migrate source destination active fromVersion) t)
      (read : (backend.listColumns source).runOn t = (.ok columns, u))
      (fit : checkSource schema source columns = .ok ())
      (trace : Trace backend
        (migrateSteps schema source destination active (time.map (Naming.backup base)) columns) u calls r v) :
      Course backend base schema time s (.listTables (.ok catalog) :: .listColumns source (.ok columns) :: calls)
        ((during "migrate" source r).map fun _ =>
          some ⟨time.map (Naming.backup base), fromVersion, schema.version⟩) v

section
variable {backend : Backend σ} {base : String} {schema : Schema κ ρ} {time : Option Timestamp} {s t u : σ}
  {r : Except Error (Option Report)}

theorem runOn_during_report {operation table : String} {x : Action σ Unit} {report : Report}
    {answer : Except Error Unit} (h : x.runOn t = (answer, u)) :
    (Action.during operation table x >>= fun _ => pure (some report)).runOn t =
      ((during operation table answer).map fun _ => some report, u) := by
  rw [Action.runOn_bind, Action.runOn_during, h]
  cases answer <;> rfl

theorem migrate_course {catalog : List TableInfo} {source destination active : String} {fromVersion : Int32}
    (planned : Planned backend base schema s catalog (.migrate source destination active fromVersion) t)
    (h : (carryOut backend base schema time (.migrate source destination active fromVersion)).runOn t = (r, u)) :
    ∃ calls, Course backend base schema time s calls r u := by
  rw [carryOut, migrate_eq] at h
  rcases answer : (backend.listColumns source).runOn t with ⟨e | columns, v⟩
  · rw [runOn_during_report (Action.runOn_bind_error answer)] at h
    cases h
    exact ⟨_, .unread planned answer⟩
  rcases check : checkSource schema source columns with e | ⟨⟩
  · have stop := Action.runOn_bind_error (x := Action.ofExcept (checkSource schema source columns)) (s := v)
      (f := fun _ => runSteps backend
        (migrateSteps schema source destination active (time.map (Naming.backup base)) columns))
      (congrArg (·, v) check)
    rw [runOn_during_report ((Action.runOn_bind_ok answer).trans stop)] at h
    cases h
    exact ⟨_, .unfit planned answer check⟩
  · rcases result : (runSteps backend (migrateSteps schema source destination active
      (time.map (Naming.backup base)) columns)).runOn v with ⟨outcome, w⟩
    obtain ⟨calls, trace⟩ := runSteps_trace backend _ result
    rw [← ofExcept_ok_bind () fun _ => runSteps backend (migrateSteps schema source destination active
      (time.map (Naming.backup base)) columns), ← check] at result
    rw [runOn_during_report ((Action.runOn_bind_ok answer).trans result)] at h
    cases h
    exact ⟨_, .migrated planned answer check trace⟩

theorem bring_course (h : (bring backend base schema time).runOn s = (r, t)) :
    ∃ calls, Course backend base schema time s calls r t := by
  unfold bring at h
  rcases valid : schema.validate with e | ⟨⟩
  · rw [valid] at h
    cases h
    exact ⟨_, .invalid valid⟩
  rw [valid, ofExcept_ok_bind] at h
  rcases listed : backend.listTables.runOn s with ⟨e | catalog, u⟩
  · rw [Action.runOn_bind_error (e := .failed "migrate" base e) (t := u)
      (by rw [Action.runOn_during, listed]; rfl)] at h
    cases h
    exact ⟨_, .unlisted listed⟩
  rw [Action.runOn_bind_ok (a := catalog) (t := u) (by rw [Action.runOn_during, listed]; rfl)] at h
  rcases plan : Plan.ofCatalog catalog base schema.version with e | p
  · rw [plan] at h
    cases h
    exact ⟨_, .unplanned listed plan⟩
  rw [plan, ofExcept_ok_bind] at h
  have planned : Planned backend base schema s catalog p u := ⟨valid, listed, plan⟩
  cases p with
  | skip table =>
    cases h
    exact ⟨_, .skipped planned⟩
  | create table =>
    rcases result : (runSteps backend (createSteps schema table)).runOn u with ⟨outcome, v⟩
    obtain ⟨calls, trace⟩ := runSteps_trace backend _ result
    rw [carryOut, create_eq, runOn_during_report result] at h
    cases h
    exact ⟨_, .created planned trace⟩
  | migrate source destination active fromVersion => exact migrate_course planned h

theorem Course.journal {backend : Backend σ} {s t : Journaled σ} {calls : List Call}
    (h : Course backend.journaled base schema time s calls r t) : t.calls = s.calls ++ calls := by
  cases h with
  | invalid => simp
  | unlisted answer => exact (Journaled.runOn_note answer).2
  | unplanned listed => exact (Journaled.runOn_note listed).2
  | skipped planned => exact (Journaled.runOn_note planned.listed).2
  | created planned trace => rw [trace.journal, (Journaled.runOn_note planned.listed).2]; simp
  | unread planned answer => rw [(Journaled.runOn_note answer).2, (Journaled.runOn_note planned.listed).2]; simp
  | unfit planned read => rw [(Journaled.runOn_note read).2, (Journaled.runOn_note planned.listed).2]; simp
  | migrated planned read _ trace =>
    rw [trace.journal, (Journaled.runOn_note read).2, (Journaled.runOn_note planned.listed).2]
    simp

/-- The journal of a call that starts without calls is its course. -/
theorem bring_journal {after : Journaled σ}
    (run : (bring backend.journaled base schema time).runOn ⟨s, []⟩ = (r, after)) :
    Course backend.journaled base schema time ⟨s, []⟩ after.calls r after := by
  obtain ⟨calls, course⟩ := bring_course run
  rwa [course.journal, List.nil_append]

end

end TypedTables.Migration
