import TypedTables.Proofs.Migration.Forward
import TypedTables.Proofs.Plan

/-!
# Indexes that a migration leaves

Every index is dropped by its name before it is created, so a retired table loses the index whose name it kept. The
index of the same name that was created a moment before is lost in the same way. Of several indexes with one name the
last is therefore the one that is left, and all are there exactly if those with one name are written alike
(`bring_builds_last`). -/

namespace TypedTables

namespace PlainIndex

/-- The text of the statement that makes the index as it stands. -/
def definition (index : PlainIndex) : String := (Statement.createIndex index.name index.table index.terms).text

end PlainIndex

namespace PlainStore

variable {s t : PlainStore} {n : Nat} {name table : String} {terms : IndexTerms}

/-- The indexes of a name. There is at most one after any of the name was created. -/
def named (s : PlainStore) (name : String) : List PlainIndex := s.indexes.filter (·.name = name)

theorem perform_dropIndex_named (h : s.perform (.dropIndex name) = .ok (t, n)) :
    t.named = Function.update s.named name [] := by
  cases h
  funext other
  by_cases same : other = name
  · subst same
    simp [named, dropIndex, List.filter_filter]
  · rw [Function.update_of_ne same, named, named, dropIndex, List.filter_filter]
    refine List.filter_congr fun index _ => ?_
    by_cases found : index.name = other <;> simp [found, same]

theorem perform_createIndex_named (h : s.perform (.createIndex name table terms) = .ok (t, n)) :
    t.named = Function.update s.named name [⟨name, table, terms⟩] := by
  simp only [perform, createIndex] at h
  split at h
  · cases h
  next free =>
  split at h
  · cases h
  cases h
  have none_named : s.named name = [] := by
    rw [named, List.filter_eq_nil_iff]
    intro index hi found
    exact free (List.any_eq_true.mpr ⟨index, hi, found⟩)
  funext other
  simp only [named, List.filter_append]
  by_cases same : other = name
  · subst same
    rw [Function.update_self]
    simpa [named] using none_named
  · rw [Function.update_of_ne same]
    simp [named, Ne.symm same]

end PlainStore

namespace Index

/-- The index that was declared last under a name. -/
def last? (indexes : List Index) (name : String) : Option Index := indexes.reverse.find? (·.name = name)

theorem last?_cons (index : Index) (indexes : List Index) (name : String) :
    last? (index :: indexes) name = (last? indexes name).or (if index.name = name then some index else none) := by
  rw [last?, List.reverse_cons, List.find?_append]
  by_cases same : index.name = name <;> simp [last?, same]

theorem exists_last? {indexes : List Index} {index : Index} (hi : index ∈ indexes) :
    ∃ last ∈ indexes, last? indexes index.name = some last ∧ last.name = index.name := by
  cases found : last? indexes index.name with
  | none => exact absurd (List.find?_eq_none.mp found index (List.mem_reverse.mpr hi)) (by simp)
  | some last =>
    exact ⟨last, List.mem_reverse.mp (List.mem_of_find?_eq_some found), rfl, by simpa using List.find?_some found⟩

end Index

namespace Migration

/-- The name of the index belongs to one index of the store, on the table and as the index is written. -/
def Built (p : PlainStore) (table : String) (index : Index) : Prop :=
  ∃ held, p.named (Naming.index table index.name) = [held] ∧ held.table = table ∧
    (index.create table).map Statement.text = .ok held.definition

variable {κ ρ σ : Type} [Kinds κ] {backend : Backend σ} {view : σ → PlainStore} {table : String} {index : Index}
  {indexes : List Index} {s t : σ} {calls : List Call}

theorem Built.of_named {p q : PlainStore} (h : Built p table index)
    (same : q.named (Naming.index table index.name) = p.named (Naming.index table index.name)) :
    Built q table index := by
  obtain ⟨held, found, rest⟩ := h
  exact ⟨held, same.trans found, rest⟩

/-- One index is built, and the names of the others hold what they held. -/
theorem Trace.index_built (follows : Follows backend view)
    (h : Trace backend (indexSteps table (index :: indexes)) s calls (.ok ()) t) :
    ∃ u rest, Trace backend (indexSteps table indexes) u rest (.ok ()) t ∧ Built (view u) table index ∧
      ∀ name, name ≠ index.name →
        (view u).named (Naming.index table name) = (view s).named (Naming.index table name) := by
  rw [indexSteps, List.flatMap_cons] at h
  cases h with
  | next dropped h =>
  generalize written : index.create table = step at h
  cases h with
  | next created rest =>
  obtain ⟨terms, -, rfl⟩ := create_eq_ok written
  have drop := PlainStore.perform_dropIndex_named (follows.executed dropped)
  have create := PlainStore.perform_createIndex_named (follows.executed created)
  refine ⟨_, _, rest, ⟨_, by rw [create, Function.update_self], rfl, by rw [written]; rfl⟩, fun name hn => ?_⟩
  have apart : Naming.index table name ≠ Naming.index table index.name := fun h =>
    hn ((String.append_right_inj _).mp h)
  rw [create, Function.update_of_ne apart, drop, Function.update_of_ne apart]

/-- The last index of every name is left, and a name without one holds what it held. -/
theorem Trace.indexes_built (follows : Follows backend view)
    (h : Trace backend (indexSteps table indexes) s calls (.ok ()) t) (name : String) :
    match Index.last? indexes name with
    | some last => Built (view t) table last
    | none => (view t).named (Naming.index table name) = (view s).named (Naming.index table name) := by
  induction indexes generalizing s calls with
  | nil =>
    cases h
    rfl
  | cons index indexes ih =>
    obtain ⟨u, rest, h, built, others⟩ := h.index_built follows
    have after := ih h
    rw [Index.last?_cons]
    cases found : Index.last? indexes name with
    | some last =>
      rw [found] at after
      exact after
    | none =>
      rw [found] at after
      by_cases same : index.name = name
      · subst same
        simpa using built.of_named after
      · simpa [same] using after.trans (others name (Ne.symm same))

/-! ### Whole calls -/

variable {base : String} {schema : Schema κ ρ} {time : Option Timestamp} {report : Report}

/-- A call that reports what it did has ended with the indexes of the active table. -/
theorem Course.indexed (h : Course backend base schema time s calls (.ok (some report)) t) :
    ∃ u rest, Trace backend (indexSteps (Naming.active base schema.version) schema.indexes) u rest (.ok ()) t := by
  generalize hr : (.ok (some report) : Except Error (Option Report)) = r at h
  cases h with
  | created planned trace =>
    obtain ⟨rfl, -⟩ := report_eq_ok hr
    cases Plan.decision_of_eq planned.plan with
    | created =>
      cases trace with
      | next _ indexes => exact ⟨_, _, indexes⟩
  | migrated planned _ _ trace =>
    obtain ⟨rfl, -⟩ := report_eq_ok hr
    obtain ⟨rfl, -⟩ := Plan.ofCatalog_eq_migrate planned.plan
    cases trace with
    | next _ trace =>
    cases trace with
    | next _ trace =>
    cases trace with
    | next _ trace =>
    obtain ⟨_, ⟨⟩, -⟩ | ⟨_, _, _, -, -, indexes⟩ := trace.append
    exact ⟨_, _, indexes⟩
  | _ => cases hr

/-- A call that reports what it did has built, for every name, the index that was declared last under it. So every
    index is there, as it is written, exactly if those of one name are written alike. -/
theorem bring_builds_last (follows : Follows backend view)
    (run : (bring backend base schema time).runOn s = (.ok (some report), t)) :
    (∀ index ∈ schema.indexes, ∃ last, Index.last? schema.indexes index.name = some last ∧
        Built (view t) (Naming.active base schema.version) last) ∧
      ((∀ index ∈ schema.indexes, Built (view t) (Naming.active base schema.version) index) ↔
        ∀ first ∈ schema.indexes, ∀ second ∈ schema.indexes, first.name = second.name →
          (first.create (Naming.active base schema.version)).map Statement.text =
            (second.create (Naming.active base schema.version)).map Statement.text) := by
  obtain ⟨calls, course⟩ := bring_course run
  obtain ⟨u, rest, trace⟩ := course.indexed
  have built : ∀ index ∈ schema.indexes, ∃ last ∈ schema.indexes, Index.last? schema.indexes index.name = some last ∧
      last.name = index.name ∧ Built (view t) (Naming.active base schema.version) last := fun index hi => by
    obtain ⟨last, hl, found, same⟩ := Index.exists_last? hi
    have left := trace.indexes_built follows index.name
    rw [found] at left
    exact ⟨last, hl, found, same, left⟩
  refine ⟨fun index hi => ?_, fun all first hf second hs same => ?_, fun alike index hi => ?_⟩
  · obtain ⟨last, -, found, -, left⟩ := built index hi
    exact ⟨last, found, left⟩
  · obtain ⟨held, found, -, written⟩ := all first hf
    obtain ⟨other, found', -, written'⟩ := all second hs
    rw [same, found'] at found
    cases found
    rw [written, written']
  · obtain ⟨last, hl, -, same, held, found, table, written⟩ := built index hi
    exact ⟨held, same ▸ found, table, alike index hi last hl same.symm ▸ written⟩

def byName : Index := .onField "by" ⟨"name", .fixedString 20⟩

def byAge : Index := .onField "by" ⟨"age", .int⟩

def oldestFirst : Index := .onOrdering "oldest" ⟨⟨"age", .int⟩, .descending⟩

/-- A table that is about to be retired has an index of the name that the new one is to have. -/
def indexedStore : PlainStore :=
  { peopleStore with indexes := [⟨"people:v2:indexes:by", "people:v1", ⟨[], [], ["id"]⟩⟩] }

def indexedPeople : Schema CellKind CellRow := people.withIndexes [byName, oldestFirst, byName]

theorem indexedPeople_built :
    ∃ report t, (bring PlainStore.backend "people" indexedPeople (some noon)).runOn indexedStore =
        (.ok (some report), t) ∧
      Built t "people:v2" byName ∧ Built t "people:v2" oldestFirst := by
  have answer : ((bring PlainStore.backend "people" indexedPeople (some noon)).runOn indexedStore).1 =
      .ok (some ⟨some "people:backup:2024-02-29T12:00:00.000042", 1, 2⟩) := by decide +kernel
  rcases run : (bring PlainStore.backend "people" indexedPeople (some noon)).runOn indexedStore with ⟨r, t⟩
  rw [run] at answer
  cases answer
  have own : ∀ index ∈ indexedPeople.indexes, index = byName ∨ index = oldestFirst := by
    simp [indexedPeople, Schema.withIndexes]
  have apart : byName.name ≠ oldestFirst.name := by decide
  have all := (bring_builds_last Follows.plain run).2.mpr fun first hf second hs same => by
    rcases own first hf with rfl | rfl <;> rcases own second hs with rfl | rfl
    · rfl
    · exact absurd same apart
    · exact absurd same.symm apart
    · rfl
  exact ⟨_, t, rfl, all byName List.mem_cons_self, all oldestFirst (List.mem_cons_of_mem _ List.mem_cons_self)⟩

def doubledPeople : Schema CellKind CellRow := people.withIndexes [byName, byAge]

/-- Of two indexes with one name the first is lost, and the call reports that all went well. -/
theorem doubledPeople_lose_index :
    ∃ report t, (bring PlainStore.backend "people" doubledPeople none).runOn peopleStore = (.ok (some report), t) ∧
      byName ∈ doubledPeople.indexes ∧ ¬Built t "people:v2" byName := by
  have answer : ((bring PlainStore.backend "people" doubledPeople none).runOn peopleStore).1 =
      .ok (some ⟨none, 1, 2⟩) := by decide +kernel
  have left : (((bring PlainStore.backend "people" doubledPeople none).runOn peopleStore).2.named
      "people:v2:indexes:by").map PlainIndex.definition =
        ["CREATE INDEX \"people:v2:indexes:by\" ON \"people:v2\" (\"age\")"] := by decide +kernel
  rcases run : (bring PlainStore.backend "people" doubledPeople none).runOn peopleStore with ⟨r, t⟩
  rw [run] at answer left
  cases answer
  refine ⟨_, t, rfl, List.mem_cons_self, ?_⟩
  rintro ⟨held, found, -, written⟩
  have named : t.named "people:v2:indexes:by" = [held] := found
  rw [named, List.map_singleton, List.singleton_inj] at left
  rw [left] at written
  exact absurd written (by decide +kernel)

end Migration

end TypedTables
