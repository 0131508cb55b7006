import TypedTables.Proofs.Migration.Forward
import TypedTables.Proofs.Migration.Progress

/-!
# Histories of migrations

One base is brought to version after version of its schemas, each call on the store that the last one left. The store
never holds more than one version of the base, and that version never goes down: a call for an older one is refused, a
call for the same one has nothing to do, and a call for a newer one takes the place of what was there or is refused for
what the source lacks (`history_monotone`). What carries this from call to call is `Current`: the one version has the
name that is written for it, so the plan's source is there, and a backup is no version. -/

namespace TypedTables.Migration

/-- A call of a migration: the schema that is wanted, and the time of the backup where one is asked for. -/
structure Upgrade (κ : Type) [Kinds κ] where
  row : Type
  schema : Schema κ row
  time : Option Timestamp

/-- The schema is one with a version, its columns have different names, and its indexes can be written. -/
structure Upgrade.Sound {κ : Type} [Kinds κ] (call : Upgrade κ) : Prop where
  numbered : unversioned < call.schema.version
  distinct : call.schema.labels.Nodup
  supported : ∀ index ∈ call.schema.indexes, ∀ f ∈ index.filters, f.Supported

/-- A call that was made: the store before it, its answer, the statements it executed, and the store after it. -/
structure Event (κ : Type) [Kinds κ] where
  call : Upgrade κ
  before : PlainStore
  answer : Except Error (Option Report)
  executed : List (Statement × Except Error Nat)
  after : PlainStore

section
variable {κ : Type} [Kinds κ]

/-- Makes a call for a base on a store that answers. -/
def Upgrade.event (base : String) (s : PlainStore) (call : Upgrade κ) : Event κ :=
  let (answer, after) := (bring PlainStore.backend.journaled base call.schema call.time).runOn ⟨s, []⟩
  ⟨call, s, answer, after.executed, after.inner⟩

/-- Calls for a base one after the other. -/
def history (base : String) : PlainStore → List (Upgrade κ) → List (Event κ)
  | _, [] => []
  | s, call :: calls =>
    let event := call.event base s
    event :: history base event.after calls

/-- The versions of a base that a store holds. -/
def held (base : String) (s : PlainStore) : List Int32 := Plan.versions (Plan.tableNames s.catalog) base

/-- Each backup is made at a time of its own, and the store has no backup of that time. -/
structure Fresh (base : String) (s : PlainStore) (calls : List (Upgrade κ)) : Prop where
  distinct : (calls.filterMap Upgrade.time).Nodup
  free : ∀ time ∈ calls.filterMap Upgrade.time, s.table? (Naming.backup base time) = none

def Event.Idle (event : Event κ) : Prop := event.executed = [] ∧ event.after = event.before

/-- A call makes its version the one that is held, unless there is nothing to do or the call is refused, and then it
    does nothing. It touches no table but versions of the base and the backup that it makes. -/
structure Monotone (base : String) (event : Event κ) : Prop where
  one : (held base event.after).length ≤ 1
  first : held base event.before = [] →
    event.answer = .ok (some ⟨none, unversioned, event.call.schema.version⟩) ∧
      held base event.after = [event.call.schema.version]
  older : ∀ current, held base event.before = [current] → event.call.schema.version < current →
    event.answer = .error (.versionConflict base event.call.schema.version current) ∧ event.Idle
  same : held base event.before = [event.call.schema.version] → event.answer = .ok none ∧ event.Idle
  newer : ∀ current, held base event.before = [current] → current < event.call.schema.version →
    (∃ e, event.answer = .error (.failed "migrate" (Naming.versioned base current) e) ∧
        (e = .missingPrimaryKey (Naming.versioned base current) event.call.schema.key.label ∨
          ∃ label, e = .unfillableColumn (Naming.versioned base current) label) ∧ event.Idle) ∨
      event.answer =
          .ok (some ⟨event.call.time.map (Naming.backup base), current, event.call.schema.version⟩) ∧
        held base event.after = [event.call.schema.version]
  spared : ∀ name, (∀ version, unversioned < version → name ≠ Naming.versioned base version) →
    event.call.time.map (Naming.backup base) ≠ some name → event.after.table? name = event.before.table? name

/-! ### The version of a store -/

/-- The store holds the version under the name that is written for it and no other, or no version at all. -/
def Current (base : String) (s : PlainStore) (current : Option Int32) : Prop :=
  ∀ name version, (∃ table, s.table? name = some table) ∧ Naming.version? base name = some version ↔
    current = some version ∧ name = Naming.versioned base version

variable {base : String} {s t : PlainStore} {version current : Int32}

theorem current_none (h : held base s = []) : Current base s none := by
  intro name version
  have unread : ∀ name ∈ Plan.tableNames s.catalog, Naming.version? base name = none := List.filterMap_eq_nil_iff.mp h
  constructor
  · rintro ⟨stored, read⟩
    rw [unread name (PlainStore.mem_tableNames.mpr stored)] at read
    cases read
  · rintro ⟨⟨⟩, -⟩

theorem Current.held_none (h : Current base s none) : held base s = [] := by
  refine List.filterMap_eq_nil_iff.mpr fun name present => ?_
  cases read : Naming.version? base name with
  | none => rfl
  | some version =>
    obtain ⟨⟨⟩, -⟩ := (h name version).mp ⟨PlainStore.mem_tableNames.mp present, read⟩

theorem Current.held_some (h : Current base s (some current)) : held base s = [current] := by
  have ⟨stored, read⟩ := (h (Naming.versioned base current) current).mpr ⟨rfl, rfl⟩
  have distinct : (Plan.tableNames s.catalog).Nodup := by
    rw [PlainStore.tableNames_catalog]
    exact s.tables.keys_nodup
  obtain ⟨front, rest, split⟩ := List.mem_iff_append.mp (PlainStore.mem_tableNames.mpr stored)
  rw [split, List.nodup_middle, List.nodup_cons] at distinct
  -- Every other name is no version, since it would be the current one and so this name.
  have others : ∀ name ∈ front ++ rest, Naming.version? base name = none := fun name hn => by
    cases other : Naming.version? base name with
    | none => rfl
    | some version =>
      have present : name ∈ Plan.tableNames s.catalog := by
        rw [split]
        exact List.perm_middle.mem_iff.mpr (List.mem_cons_of_mem _ hn)
      obtain ⟨same, rfl⟩ := (h name version).mp ⟨PlainStore.mem_tableNames.mp present, other⟩
      cases same
      exact absurd hn distinct.1
  have before := List.filterMap_eq_nil_iff.mpr fun name hn => others name (List.mem_append_left _ hn)
  have behind := List.filterMap_eq_nil_iff.mpr fun name hn => others name (List.mem_append_right _ hn)
  rw [held, Plan.versions, split, List.filterMap_append, List.filterMap_cons_some read, before, behind]
  rfl

theorem Current.created {table : PlainTable} (h : Current base s none) (numbered : unversioned < version)
    (tables : t.table? = Function.update s.table? (Naming.versioned base version) (some table)) :
    Current base t (some version) := by
  intro name other
  constructor
  · rintro ⟨stored, read⟩
    by_cases same : name = Naming.versioned base version
    · subst same
      cases (Naming.version?_versioned base numbered).symm.trans read
      exact ⟨rfl, rfl⟩
    · rw [tables, Function.update_of_ne same] at stored
      obtain ⟨⟨⟩, -⟩ := (h name other).mp ⟨stored, read⟩
  · rintro ⟨same, rfl⟩
    cases same
    exact ⟨⟨table, by rw [tables, Function.update_self]⟩, Naming.version?_versioned base numbered⟩

theorem Current.settled {row : Type} {schema : Schema κ row} {time : Option Timestamp} {origin : PlainTable}
    (h : Current base s (some current)) (numbered : unversioned < version)
    (tables : Settled schema (Naming.versioned base current) (Naming.versioned base version)
      (time.map (Naming.backup base)) origin s t) : Current base t (some version) := by
  intro name other
  constructor
  · rintro ⟨⟨table, stored⟩, read⟩
    by_cases same : name = Naming.versioned base version
    · subst same
      cases (Naming.version?_versioned base numbered).symm.trans read
      exact ⟨rfl, rfl⟩
    -- The source is out of use, and a backup is read as no version.
    by_cases source : name = Naming.versioned base current
    · rw [source, tables.gone (source ▸ same)] at stored
      cases stored
    by_cases backup : time.map (Naming.backup base) = some name
    · obtain ⟨u, -, rfl⟩ := Option.map_eq_some_iff.mp backup
      rw [Naming.backup, Naming.version?_retired] at read
      cases read
    · rw [tables.others name source same backup] at stored
      obtain ⟨was, rfl⟩ := (h name other).mp ⟨⟨table, stored⟩, read⟩
      cases was
      exact absurd rfl source
  · rintro ⟨same, rfl⟩
    cases same
    exact ⟨⟨_, tables.filled⟩, Naming.version?_versioned base numbered⟩

/-! ### One call -/

/-- A call is decided by the version that is held. -/
theorem Upgrade.outcome {call : Upgrade κ} (sound : call.Sound)
    (clear : ∀ name, call.time.map (Naming.backup base) = some name → s.table? name = none) :
    Outcome base call.schema call.time s (Plan.ofVersions base call.schema.version (held base s))
      (call.event base s).answer (call.event base s).executed (call.event base s).after := by
  rcases run : (bring PlainStore.backend.journaled base call.schema call.time).runOn ⟨s, []⟩ with ⟨answer, after⟩
  have made : call.event base s = ⟨call, s, answer, after.executed, after.inner⟩ := by rw [Upgrade.event, run]
  have outcome := (bring_journal run).outcome Obliges.plain.journaled sound.numbered sound.distinct sound.supported clear
  rw [made, held, ← Plan.ofCatalog_of_numbered sound.numbered]
  exact outcome

section
variable {call : Upgrade κ} {answer : Except Error (Option Report)}
  {executed : List (Statement × Except Error Nat)}

theorem Outcome.monotone_first (sound : call.Sound) (was : Current base s none)
    (h : Outcome base call.schema call.time s (Plan.ofVersions base call.schema.version []) answer executed t) :
    Monotone base ⟨call, s, answer, executed, t⟩ ∧ Current base t (some call.schema.version) := by
  rw [Plan.ofVersions_nil, Plan.active_of_numbered sound.numbered] at h
  have empty := was.held_none
  cases h with
  | created tables =>
    have now := was.created sound.numbered tables
    refine ⟨?_, now⟩
    exact {
      one := by rw [now.held_some]; exact Nat.le_refl 1
      first := fun _ => ⟨rfl, now.held_some⟩
      older := fun _ found => by cases empty.symm.trans found
      same := fun found => by cases empty.symm.trans found
      newer := fun _ found => by cases empty.symm.trans found
      spared := fun name other _ => by rw [tables, Function.update_of_ne (other _ sound.numbered)] }

theorem monotone_of_idle (was : Current base s (some current))
    (older : call.schema.version < current →
      answer = .error (.versionConflict base call.schema.version current))
    (same : current = call.schema.version → answer = .ok none)
    (newer : current < call.schema.version →
      ∃ e, answer = .error (.failed "migrate" (Naming.versioned base current) e) ∧
        (e = .missingPrimaryKey (Naming.versioned base current) call.schema.key.label ∨
          ∃ label, e = .unfillableColumn (Naming.versioned base current) label)) :
    Monotone base ⟨call, s, answer, [], s⟩ := by
  have found := was.held_some
  exact {
    one := by rw [found]; exact Nat.le_refl 1
    first := fun empty => by cases found.symm.trans empty
    older := fun other ho less => by
      cases found.symm.trans ho
      exact ⟨older less, rfl, rfl⟩
    same := fun ho => by
      cases found.symm.trans ho
      exact ⟨same rfl, rfl, rfl⟩
    newer := fun other ho less => by
      cases found.symm.trans ho
      obtain ⟨e, failed, cause⟩ := newer less
      exact Or.inl ⟨e, failed, cause, rfl, rfl⟩
    spared := fun _ _ _ => rfl }

theorem Outcome.monotone_next (sound : call.Sound) (was : Current base s (some current))
    (h : Outcome base call.schema call.time s (Plan.ofVersions base call.schema.version [current]) answer executed t) :
    Monotone base ⟨call, s, answer, executed, t⟩ ∧ ∃ now, Current base t (some now) := by
  have found := was.held_some
  rw [Plan.ofVersions_singleton, Plan.active_of_numbered sound.numbered] at h
  by_cases older : call.schema.version < current
  · rw [if_pos older] at h
    cases h
    refine ⟨monotone_of_idle was (fun _ => rfl) ?_ ?_, current, was⟩
    · exact fun same => absurd (same ▸ older) Int32.lt_irrefl
    · exact fun newer => absurd newer (Int32.lt_asymm older)
  rw [if_neg older] at h
  by_cases same : call.schema.version = current
  · rw [if_pos same] at h
    cases h
    refine ⟨monotone_of_idle was (fun less => absurd less older) (fun _ => rfl) ?_, current, was⟩
    exact fun newer => absurd (same ▸ newer) Int32.lt_irrefl
  rw [if_neg same] at h
  cases h with
  | unfit check =>
    refine ⟨monotone_of_idle was (fun less => absurd less older) (fun e => absurd e.symm same) ?_, current, was⟩
    exact fun _ => ⟨_, rfl, checkSource_eq_error check⟩
  | migrated tables =>
    have now := was.settled sound.numbered tables
    refine ⟨?_, _, now⟩
    exact {
      one := by rw [now.held_some]; exact Nat.le_refl 1
      first := fun empty => by cases found.symm.trans empty
      older := fun other ho less => by
        cases found.symm.trans ho
        exact absurd less older
      same := fun ho => absurd (List.cons.inj (found.symm.trans ho)).1.symm same
      newer := fun other ho _ => by
        cases found.symm.trans ho
        exact Or.inr ⟨rfl, now.held_some⟩
      spared := fun name other kept => by
        have numbered : unversioned < current := Naming.unversioned_lt_of_version?
          ((was (Naming.versioned base current) current).mpr ⟨rfl, rfl⟩).2
        exact tables.others name (other current numbered) (other _ sound.numbered) kept }

end

theorem Upgrade.monotone {call : Upgrade κ} {current : Option Int32} (sound : call.Sound)
    (clear : ∀ name, call.time.map (Naming.backup base) = some name → s.table? name = none)
    (was : Current base s current) :
    Monotone base (call.event base s) ∧ ∃ now, Current base (call.event base s).after now := by
  have outcome := Upgrade.outcome sound clear
  cases current with
  | none =>
    rw [was.held_none] at outcome
    obtain ⟨monotone, now⟩ := outcome.monotone_first sound was
    exact ⟨monotone, _, now⟩
  | some current =>
    rw [was.held_some] at outcome
    obtain ⟨monotone, now, holds⟩ := outcome.monotone_next sound was
    exact ⟨monotone, _, holds⟩

/-! ### Calls one after the other -/

theorem Fresh.clear {call : Upgrade κ} {calls : List (Upgrade κ)} (h : Fresh base s (call :: calls)) :
    ∀ name, call.time.map (Naming.backup base) = some name → s.table? name = none := by
  intro name hb
  obtain ⟨time, ht, rfl⟩ := Option.map_eq_some_iff.mp hb
  exact h.free time (List.mem_filterMap.mpr ⟨call, List.mem_cons_self, ht⟩)

theorem Fresh.rest {call : Upgrade κ} {calls : List (Upgrade κ)} (h : Fresh base s (call :: calls))
    (monotone : Monotone base (call.event base s)) : Fresh base (call.event base s).after calls := by
  have distinct := h.distinct
  rw [List.filterMap_cons] at distinct
  refine ⟨?_, fun time ht => ?_⟩
  · split at distinct
    · exact distinct
    · exact (List.nodup_cons.mp distinct).2
  have free : s.table? (Naming.backup base time) = none := by
    refine h.free time ?_
    obtain ⟨other, ho, same⟩ := List.mem_filterMap.mp ht
    exact List.mem_filterMap.mpr ⟨other, List.mem_cons_of_mem _ ho, same⟩
  -- This call made no backup of a time that a later one has, and a backup is no version.
  have apart : call.time.map (Naming.backup base) ≠ some (Naming.backup base time) := fun same => by
    obtain ⟨made, hm, eq⟩ := Option.map_eq_some_iff.mp same
    rw [hm, Naming.backup_inj eq] at distinct
    exact (List.nodup_cons.mp distinct).1 ht
  have spared := monotone.spared (Naming.backup base time) (fun _ => Naming.backup_ne_versioned base time) apart
  exact spared.trans free

/-- What every call of a history finds and leaves gives a fact about each of its events. -/
theorem forall_history {calls : List (Upgrade κ)} {P : PlainStore → List (Upgrade κ) → Prop} {Q : Event κ → Prop}
    (step : ∀ s call calls, P s (call :: calls) → Q (call.event base s) ∧ P (call.event base s).after calls)
    (start : P s calls) : ∀ event ∈ history base s calls, Q event := by
  induction calls generalizing s with
  | nil =>
    intro event he
    cases he
  | cons call calls ih =>
    obtain ⟨first, next⟩ := step s call calls start
    intro event he
    rcases List.mem_cons.mp he with rfl | he
    · exact first
    · exact ih next event he

/-- The calls that are still to come find a store that is fit for them. -/
structure Ready (base : String) (s : PlainStore) (calls : List (Upgrade κ)) : Prop where
  sound : ∀ call ∈ calls, call.Sound
  fresh : Fresh base s calls
  current : ∃ current, Current base s current

theorem Ready.next {call : Upgrade κ} {calls : List (Upgrade κ)} (h : Ready base s (call :: calls)) :
    Monotone base (call.event base s) ∧ Ready base (call.event base s).after calls := by
  obtain ⟨current, was⟩ := h.current
  obtain ⟨monotone, now⟩ := Upgrade.monotone (h.sound call List.mem_cons_self) h.fresh.clear was
  exact ⟨monotone, fun other ho => h.sound other (List.mem_cons_of_mem _ ho), h.fresh.rest monotone, now⟩

/-- The version that is held does not go down. -/
theorem Monotone.rises {event : Event κ} (h : Monotone base event) (found : held base event.before = [current]) :
    ∃ later, held base event.after = [later] ∧ current ≤ later := by
  have kept : event.Idle → ∃ later, held base event.after = [later] ∧ current ≤ later := fun idle =>
    ⟨current, by rw [idle.2, found], Int32.le_refl current⟩
  by_cases older : event.call.schema.version < current
  · exact kept (h.older current found older).2
  by_cases same : current = event.call.schema.version
  · exact kept (h.same (same ▸ found)).2
  have newer : current < event.call.schema.version := Int32.lt_of_le_of_ne (Int32.not_lt.mp older) same
  rcases h.newer current found newer with ⟨e, -, -, idle⟩ | ⟨-, now⟩
  · exact kept idle
  · exact ⟨_, now, Int32.le_of_lt newer⟩

section
variable {calls : List (Upgrade κ)}

theorem rises_of_monotone (monotone : ∀ event ∈ history base s calls, Monotone base event)
    (found : held base s = [current]) :
    ∀ event ∈ history base s calls, ∃ later, held base event.after = [later] ∧ current ≤ later := by
  refine forall_history (P := fun s calls => (∀ event ∈ history base s calls, Monotone base event) ∧
    ∃ now, held base s = [now] ∧ current ≤ now) ?_ ⟨monotone, current, found, Int32.le_refl current⟩
  rintro s call calls ⟨monotone, now, found, le⟩
  obtain ⟨first, rest⟩ := List.forall_mem_cons.mp monotone
  obtain ⟨later, after, le'⟩ := first.rises found
  have risen : ∃ later, held base (call.event base s).after = [later] ∧ current ≤ later :=
    ⟨later, after, Int32.le_trans le le'⟩
  exact ⟨risen, rest, risen⟩

theorem pairwise_of_monotone (monotone : ∀ event ∈ history base s calls, Monotone base event) :
    (history base s calls).Pairwise fun first second =>
      ∀ current, held base first.after = [current] → ∃ later, held base second.after = [later] ∧ current ≤ later := by
  induction calls generalizing s with
  | nil => exact .nil
  | cons call calls ih =>
    obtain ⟨-, rest⟩ := List.forall_mem_cons.mp monotone
    exact .cons (fun second hs current found => rises_of_monotone rest found second hs) (ih rest)

/-- Tables that are neither versions nor backups of the base are as they were at the start. -/
theorem spared_of_monotone (monotone : ∀ event ∈ history base s calls, Monotone base event) {name : String}
    (other : ∀ version, unversioned < version → name ≠ Naming.versioned base version)
    (kept : ∀ time, name ≠ Naming.backup base time) :
    ∀ event ∈ history base s calls, event.after.table? name = s.table? name := by
  have apart (time : Option Timestamp) : time.map (Naming.backup base) ≠ some name := fun made => by
    obtain ⟨time, -, same⟩ := Option.map_eq_some_iff.mp made
    exact kept time same.symm
  refine forall_history (P := fun t calls => (∀ event ∈ history base t calls, Monotone base event) ∧
    t.table? name = s.table? name) ?_ ⟨monotone, rfl⟩
  rintro t call calls ⟨monotone, same⟩
  obtain ⟨first, rest⟩ := List.forall_mem_cons.mp monotone
  have spared := (first.spared name other (apart _)).trans same
  exact ⟨spared, rest, spared⟩

end

/-- In a store that holds no version of the base at first, after any calls for sound schemas with versions: each call
    answers and does what the version that is held asks for, that version never goes down, and tables that are neither
    versions nor backups of the base are never changed. -/
theorem history_monotone (base : String) (s : PlainStore) (calls : List (Upgrade κ))
    (sound : ∀ call ∈ calls, call.Sound) (fresh : Fresh base s calls) (none_held : held base s = []) :
    (∀ event ∈ history base s calls, Monotone base event) ∧
      ((history base s calls).Pairwise fun first second =>
        ∀ current, held base first.after = [current] →
          ∃ later, held base second.after = [later] ∧ current ≤ later) ∧
      ∀ event ∈ history base s calls, ∀ name,
        (∀ version, unversioned < version → name ≠ Naming.versioned base version) →
          (∀ time, name ≠ Naming.backup base time) → event.after.table? name = s.table? name := by
  have monotone := forall_history (fun _ _ _ => Ready.next) ⟨sound, fresh, none, current_none none_held⟩
  exact ⟨monotone, pairwise_of_monotone monotone, fun event he name other kept =>
    spared_of_monotone monotone other kept event he⟩

end

/-- The people at their first version, at the second with a backup, and then at both again. -/
def peopleUpgrades : List (Upgrade CellKind) :=
  [⟨CellRow, people.withVersion 1, none⟩, ⟨CellRow, people, some noon⟩, ⟨CellRow, people.withVersion 1, none⟩,
    ⟨CellRow, people, none⟩]

/-- A store with a table that is no version of the people. -/
def notesStore : PlainStore := PlainStore.put {} "people:v" firstPeople

theorem peopleUpgrades_monotone :
    (history "people" notesStore peopleUpgrades).map Event.answer =
        [.ok (some ⟨none, unversioned, 1⟩), .ok (some ⟨some "people:backup:2024-02-29T12:00:00.000042", 1, 2⟩),
          .error (.versionConflict "people" 1 2), .ok none] ∧
      ∀ event ∈ history "people" notesStore peopleUpgrades, Monotone "people" event := by
  have sound : ∀ call ∈ peopleUpgrades, call.Sound := by
    have indexes (version : Int32) : ∀ index ∈ (people.withVersion version).indexes, ∀ f ∈ index.filters, f.Supported :=
      fun _ none => by cases none
    have labels : people.labels.Nodup := by decide
    simp only [peopleUpgrades, List.forall_mem_cons]
    exact ⟨⟨by decide, labels, indexes 1⟩, ⟨by decide, labels, indexes 2⟩, ⟨by decide, labels, indexes 1⟩,
      ⟨by decide, labels, indexes 2⟩, fun _ none => by cases none⟩
  have fresh : Fresh "people" notesStore peopleUpgrades := by
    refine ⟨List.nodup_singleton noon, fun time ht => ?_⟩
    cases List.mem_singleton.mp ht
    exact PlainStore.table?_eq_none (by decide +kernel)
  exact ⟨by decide +kernel, (history_monotone "people" notesStore peopleUpgrades sound fresh (by decide +kernel)).1⟩

end TypedTables.Migration
