import TypedTables.Proofs.Migration.Forward
import TypedTables.Proofs.Plan

/-!
# Stores that a refused migration leaves alone

A migration can fail though the backend answers every call. Most of what is refused so is refused before anything is
executed (`Foreseen`): the schema's own columns, the plan, the columns of the source. One thing is not. An index with
a comparison that cannot be written is met only when its turn comes, and by then the table has been created, and a
source has been copied and retired. `bring_refused_executed` says that this is the only such failure. -/

namespace TypedTables.Migration

variable {κ ρ σ : Type} [Kinds κ]

/-- What a migration refuses before it executes anything. -/
inductive Foreseen : Error → Prop where
  | duplicateColumn (label : String) : Foreseen (.duplicateColumn label)
  | invalidVersion (version : Int32) : Foreseen (.invalidVersion version)
  | versionConflict (table : String) (target found : Int32) : Foreseen (.versionConflict table target found)
  | missingPrimaryKey (table column : String) : Foreseen (.missingPrimaryKey table column)
  | unfillableColumn (table column : String) : Foreseen (.unfillableColumn table column)

/-! ### Where an error comes from -/

theorem Foreseen.of_validate {schema : Schema κ ρ} {e : Error} (h : schema.validate = .error e) :
    Foreseen e.rootCause := by
  obtain ⟨label, rfl⟩ := Schema.validate_eq_error h
  exact .duplicateColumn label

theorem Foreseen.of_plan {catalog : List TableInfo} {base : String} {version : Int32} {e : Error}
    (h : Plan.ofCatalog catalog base version = .error e) : Foreseen e.rootCause := by
  rcases Plan.ofCatalog_eq_error h with rfl | ⟨newer, rfl⟩
  · exact .invalidVersion version
  · exact .versionConflict base version newer

theorem Foreseen.of_checkSource {schema : Schema κ ρ} {source : String} {columns : List String} {e : Error}
    (h : checkSource schema source columns = .error e) : Foreseen e.rootCause := by
  rcases checkSource_eq_error h with rfl | ⟨label, rfl⟩
  · exact .missingPrimaryKey source schema.key.label
  · exact .unfillableColumn source label

/-- An index of the schema cannot be written, and this is the error that says so. -/
def Unwritable (schema : Schema κ ρ) (e : Error) : Prop :=
  ∃ index ∈ schema.indexes, index.terms = .error e ∧ ∃ flags, e = .unsupportedOperator flags

theorem Unwritable.not_foreseen {schema : Schema κ ρ} {e : Error} (h : Unwritable schema e) : ¬Foreseen e := by
  obtain ⟨-, -, -, flags, rfl⟩ := h
  rintro ⟨⟩

theorem Unwritable.rootCause {schema : Schema κ ρ} {e : Error} (h : Unwritable schema e) :
    Unwritable schema e.rootCause := by
  have plain := h
  obtain ⟨-, -, -, flags, rfl⟩ := h
  exact plain

theorem Unwritable.of_mem {schema : Schema κ ρ} {table : String} {e : Error}
    (h : .error e ∈ indexSteps table schema.indexes) : Unwritable schema e := by
  obtain ⟨index, hi, hdrop | hcreate⟩ := mem_indexSteps.mp h
  · cases hdrop
  · have failed := eq_error_of_map hcreate.symm
    obtain ⟨-, -, c, -, flags⟩ := Index.terms_eq_error failed
    exact ⟨index, hi, failed, c.operator.flags, flags⟩

/-! ### What has been executed by then -/

section
variable {backend : Backend σ} {base : String} {schema : Schema κ ρ} {time : Option Timestamp} {s t : σ}
  {calls : List Call}

theorem Trace.executed_ne_nil {statement : Statement} {steps : Steps} {r : Except Error Unit}
    (h : Trace backend (.ok statement :: steps) s calls r t) : calls.filterMap Call.executed? ≠ [] := by
  cases h with
  | refused => exact List.cons_ne_nil _ _
  | next => exact List.cons_ne_nil _ _

theorem Trace.created_unwritable {table : String} {e : Error}
    (h : Trace backend (createSteps schema table) s calls (.error e) t)
    (answered : ∀ call ∈ calls, call.failure? = none) : Unwritable schema e := by
  have unwritten := h.unwritten_of_answered answered
  rw [createSteps] at unwritten
  simp only [List.mem_cons, reduceCtorEq, false_or] at unwritten
  exact .of_mem unwritten

theorem Trace.migrated_unwritable {source destination active : String} {backup : Option String}
    {columns : List String} {e : Error}
    (h : Trace backend (migrateSteps schema source destination active backup columns) s calls (.error e) t)
    (answered : ∀ call ∈ calls, call.failure? = none) : Unwritable schema e := by
  have unwritten := h.unwritten_of_answered answered
  rw [migrateSteps] at unwritten
  simp only [List.mem_cons, List.mem_append, reduceCtorEq, false_or] at unwritten
  rcases unwritten with move | index
  · unfold moveSteps at move
    split at move <;> simp at move
  · exact .of_mem index

theorem report_eq_error {operation table : String} {r : Except Error Unit} {report : Report} {error : Error}
    (h : .error error = (during operation table r).map fun _ => some report) :
    ∃ e, r = .error e ∧ error = .failed operation table e := by
  cases r with
  | error e =>
    cases h
    exact ⟨e, rfl, rfl⟩
  | ok => cases h

/-- A call that fails without a failed call of the backend was refused before it executed anything, or it came upon an
    index that cannot be written after it had. -/
theorem Course.refused {error : Error} (h : Course backend base schema time s calls (.error error) t)
    (answered : ∀ call ∈ calls, call.failure? = none) :
    Foreseen error.rootCause ∧ calls.filterMap Call.executed? = [] ∨
      Unwritable schema error.rootCause ∧ calls.filterMap Call.executed? ≠ [] := by
  generalize hr : (.error error : Except Error (Option Report)) = r at h
  cases h with
  | invalid check =>
    cases hr
    exact Or.inl ⟨.of_validate check, rfl⟩
  | unlisted => cases answered _ List.mem_cons_self
  | unplanned _ conflict =>
    cases hr
    exact Or.inl ⟨.of_plan conflict, rfl⟩
  | skipped => cases hr
  | created _ trace =>
    obtain ⟨e, rfl, rfl⟩ := report_eq_error hr
    have unwritable := trace.created_unwritable fun call hc => answered call (List.mem_cons_of_mem _ hc)
    exact Or.inr ⟨unwritable.rootCause, trace.executed_ne_nil⟩
  | unread => cases answered _ (List.mem_cons_of_mem _ List.mem_cons_self)
  | unfit _ _ check =>
    cases hr
    have foreseen := Foreseen.of_checkSource check
    exact Or.inl ⟨foreseen, rfl⟩
  | migrated _ _ _ trace =>
    obtain ⟨e, rfl, rfl⟩ := report_eq_error hr
    have unwritable := trace.migrated_unwritable fun call hc =>
      answered call (List.mem_cons_of_mem _ (List.mem_cons_of_mem _ hc))
    exact Or.inr ⟨unwritable.rootCause, trace.executed_ne_nil⟩

/-- Whatever the backend answers: a call that fails without a failed call of the backend has executed nothing exactly
    where its failure is one of those that are foreseen. Otherwise an index of the schema cannot be written. -/
theorem bring_refused_executed {s : σ} {error : Error} {after : Journaled σ}
    (run : (bring backend.journaled base schema time).runOn ⟨s, []⟩ = (.error error, after))
    (answered : ∀ call ∈ after.calls, call.failure? = none) :
    (after.executed = [] ↔ Foreseen error.rootCause) ∧
      (after.executed ≠ [] → ∃ index ∈ schema.indexes, index.terms = .error error.rootCause ∧
        ∃ flags, error.rootCause = .unsupportedOperator flags) := by
  rcases (bring_journal run).refused answered with ⟨foreseen, nothing⟩ | ⟨unwritable, something⟩
  · exact ⟨⟨fun _ => foreseen, fun _ => nothing⟩, fun h => absurd nothing h⟩
  · exact ⟨⟨fun h => absurd h something, fun h => absurd h unwritable.not_foreseen⟩, fun _ => unwritable⟩

end

/-- A schema of the people that is older than the store. -/
theorem bring_older_people :
    ∃ after : Journaled PlainStore,
      (bring PlainStore.backend.journaled "people" (people.withVersion 0) none).runOn ⟨peopleStore, []⟩ =
          (.error (.versionConflict "people" 0 1), after) ∧
        (∀ call ∈ after.calls, call.failure? = none) ∧ after.executed = [] := by
  have answer : ((bring PlainStore.backend.journaled "people" (people.withVersion 0) none).runOn
      ⟨peopleStore, []⟩).1 = .error (.versionConflict "people" 0 1) := by decide +kernel
  have answered : ∀ call ∈ ((bring PlainStore.backend.journaled "people" (people.withVersion 0) none).runOn
      ⟨peopleStore, []⟩).2.calls, call.failure? = none := by decide +kernel
  rcases run : (bring PlainStore.backend.journaled "people" (people.withVersion 0) none).runOn
    ⟨peopleStore, []⟩ with ⟨r, after⟩
  rw [run] at answer answered
  cases answer
  exact ⟨after, rfl, answered, (bring_refused_executed run answered).1.mpr (.versionConflict "people" 0 1)⟩

/-- The people with an index on those of an age that is both less and greater. -/
def oddPeople : Schema CellKind CellRow :=
  people.withIndex (.onFilter "odd" (.atom ⟨⟨"age", .int⟩, Operator.less.union .greater, .integer 7⟩))

/-- No call fails and still four statements have been executed, one of which drops the source. -/
theorem bring_oddPeople_executed :
    ((bring PlainStore.backend.journaled "people" oddPeople none).runOn ⟨peopleStore, []⟩).1 =
        .error (.failed "migrate" "people:v1" (.unsupportedOperator 6)) ∧
      (∀ call ∈ ((bring PlainStore.backend.journaled "people" oddPeople none).runOn ⟨peopleStore, []⟩).2.calls,
        call.failure? = none) ∧
      ((bring PlainStore.backend.journaled "people" oddPeople none).runOn ⟨peopleStore, []⟩).2.executed.map
          Prod.snd = [.ok 0, .ok 2, .ok 0, .ok 0] := by
  decide +kernel

end TypedTables.Migration
