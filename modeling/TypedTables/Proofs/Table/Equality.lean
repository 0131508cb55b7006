import TypedTables.Proofs.Table.KeyValue
import TypedTables.Store.Affinity

/-!
# Rows found by their own values

A filter that compares a field with the field's value of a row is true of the stored row, unless this value is stored as
NULL: a comparison with NULL is not known to be true, whatever it is compared with. So an optional field without a value
is not equal to itself, and a row whose key is stored as NULL is neither found nor removed by its key
(`Table.found_by_value`). -/

namespace TypedTables

variable {κ ρ σ : Type} [Kinds κ]

/-- The value is bound as NULL. A real number that is none is bound so too. -/
def Value.IsAbsent (v : Value) : Prop := Affinity.bound v = .null

instance (v : Value) : Decidable v.IsAbsent := inferInstanceAs (Decidable (_ = _))

/-- A comparison with an absent value is unknown, and every other value is equal to itself. -/
structure Comparing.IsSql (compares : Comparing) : Prop where
  equal : ∀ v : Value, ¬v.IsAbsent → compares .equal v v = .yes
  unknown : ∀ c (v w : Value), v.IsAbsent ∨ w.IsAbsent → compares c v w = .unknown

theorem perm_filter_cons {α : Type} {p : α → Bool} {a : α} {members rest : List α} (perm : members.Perm (a :: rest))
    (own : p a = true) (other : ∀ b ∈ rest, p b = false) :
    (members.filter p).Perm [a] ∧ (members.filter fun b => !p b).Perm rest := by
  have none_left : rest.filter p = [] := List.filter_eq_nil_iff.mpr fun b hb => by simp [other b hb]
  have all_left : (rest.filter fun b => !p b) = rest := List.filter_eq_self.mpr fun b hb => by simp [other b hb]
  have selected := perm.filter p
  have left := perm.filter fun b => !p b
  rw [List.filter_cons_of_pos own, none_left] at selected
  rw [List.filter_cons_of_neg (by simp [own]), all_left] at left
  exact ⟨selected, left⟩

namespace Schema

variable {schema : Schema κ ρ} {compares : Comparing} {t : PlainTable} {rows others : List ρ} {row : ρ} {name : String}

theorem Stores.eval_eq (h : schema.Stores t rows) (distinct : schema.labels.Nodup) {column : Column κ ρ}
    (hc : column ∈ schema.columns) (row : ρ) (a : Kinds.carrier column.kind) :
    ((Filter.eq column.field a).condition (some name)).eval
        (Sql.Clause.truth (t.truth compares (schema.encodeRow row))) =
      compares .equal (column.encodeRow row) (column.field.type.encode a) := by
  rw [Filter.eval_condition]
  show compares .equal (t.cell (schema.encodeRow row) column.label) (column.field.type.encode a) = _
  rw [h.cell_encodeRow distinct hc]

theorem Stores.eval_own (sql : Comparing.IsSql compares) (h : schema.Stores t rows) (distinct : schema.labels.Nodup)
    {column : Column κ ρ} (hc : column ∈ schema.columns) (row : ρ) :
    ((Filter.eq column.field (column.field.get row)).condition (some name)).eval
        (Sql.Clause.truth (t.truth compares (schema.encodeRow row))) =
      if (column.encodeRow row).IsAbsent then .unknown else .yes := by
  rw [h.eval_eq distinct hc]
  show compares .equal (column.encodeRow row) (column.encodeRow row) = _
  split
  · next absent => exact sql.unknown _ _ _ (Or.inl absent)
  · next present => exact sql.equal _ present

/-- The rows that a key selects. -/
def picks (schema : Schema κ ρ) (compares : Comparing) (t : PlainTable) (name : String) (key : schema.Key) :
    List Value → Bool := t.selects compares (some ((schema.keyFilter key).condition (some name)))

theorem Stores.picks_encodeRow (h : schema.Stores t rows) (distinct : schema.labels.Nodup) (key : schema.Key)
    (other : ρ) :
    schema.picks compares t name key (schema.encodeRow other) =
      (compares .equal (schema.key.encodeRow other) (schema.key.field.type.encode key)).holds :=
  congrArg Truth.holds (h.eval_eq distinct List.mem_cons_self other key)

/-- The row is one of the rows, and all others have other keys. -/
structure IsAlone (schema : Schema κ ρ) (compares : Comparing) (rows : List ρ) (row : ρ) (others : List ρ) : Prop where
  perm : rows.Perm (row :: others)
  apart : ∀ other ∈ others, compares .equal (schema.key.encodeRow other) (schema.key.encodeRow row) ≠ .yes

theorem Stores.picks_absent (sql : Comparing.IsSql compares) (h : schema.Stores t rows)
    (distinct : schema.labels.Nodup) (absent : (schema.key.encodeRow row).IsAbsent) :
    ∀ stored ∈ t.rows, schema.picks compares t name (schema.keyOf row) stored = false := by
  intro stored hs
  rw [h.rows] at hs
  obtain ⟨other, -, rfl⟩ := List.mem_map.mp hs
  rw [h.picks_encodeRow distinct]
  exact congrArg Truth.holds (sql.unknown .equal (schema.key.encodeRow other) _ (Or.inr absent))

theorem Stores.filter_picks (sql : Comparing.IsSql compares) (h : schema.Stores t rows)
    (distinct : schema.labels.Nodup) (present : ¬(schema.key.encodeRow row).IsAbsent)
    (alone : schema.IsAlone compares rows row others) :
    (t.rows.filter (schema.picks compares t name (schema.keyOf row))).Perm [schema.encodeRow row] ∧
      (t.rows.filter fun stored => !schema.picks compares t name (schema.keyOf row) stored).Perm
        (others.map schema.encodeRow) := by
  have own : schema.picks compares t name (schema.keyOf row) (schema.encodeRow row) = true := by
    rw [h.picks_encodeRow distinct]
    exact congrArg Truth.holds (sql.equal (schema.key.encodeRow row) present)
  have other : ∀ stored ∈ others.map schema.encodeRow,
      schema.picks compares t name (schema.keyOf row) stored = false := by
    intro stored hs
    obtain ⟨o, ho, rfl⟩ := List.mem_map.mp hs
    rw [h.picks_encodeRow distinct]
    have apart : compares .equal (schema.key.encodeRow o) (schema.key.field.type.encode (schema.keyOf row)) ≠ .yes :=
      alone.apart o ho
    cases equal : compares .equal (schema.key.encodeRow o) (schema.key.field.type.encode (schema.keyOf row)) with
    | yes => exact absurd equal apart
    | no => rfl
    | unknown => rfl
  refine perm_filter_cons ?_ own other
  rw [h.rows]
  exact alone.perm.map schema.encodeRow

end Schema

namespace Table

open Schema

variable {backend : Backend σ} {compares : Comparing} {view : σ → PlainTable} {table : Table κ ρ} {s : σ}
  {rows others : List ρ} {row : ρ}

/-- A deletion by a key takes away the rows that the key selects, and tells whether that was one. -/
theorem deleteKey_run (serves : Serves backend compares table.active view) (h : table.schema.Stores (view s) rows)
    (key : table.schema.Key) :
    ∃ t, (table.deleteKey backend key).runOn s =
        (.ok (decide ((view s).rows.countP (table.schema.picks compares (view s) table.active key) = 1)), t) ∧
      (view t).rows.Perm ((view s).rows.filter fun stored =>
        !table.schema.picks compares (view s) table.active key stored) := by
  obtain ⟨statement, made, read⟩ := Statement.read?_delete table.active (keyFilter_supported key)
  have resolved : (view s).resolves table.active (some ((table.schema.keyFilter key).condition (some table.active))) :=
    h.resolves_filter (keyFilter_label key)
  obtain ⟨t, run, -, left⟩ := serves.executed read rfl (if_pos resolved)
  have deleted : (table.delete backend (some (table.schema.keyFilter key))).runOn s =
      (.ok ((view s).rows.countP (table.schema.picks compares (view s) table.active key)), t) := by
    rw [delete, made]
    show ((backend.execute statement).during "delete from" table.active).runOn s = _
    rw [Action.runOn_during, run]
    rfl
  refine ⟨t, ?_, left⟩
  rw [deleteKey, Action.runOn_bind_ok deleted]
  rfl

/-- For a stored row and a field of its schema: the filter that compares the field with the field's value of the row is
    true of the row exactly if this value is not absent, and unknown otherwise. So the row is found and removed by its
    key if the key is not absent, and otherwise it is not found and stays. -/
theorem found_by_value (sql : Comparing.IsSql compares) (serves : Serves backend compares table.active view)
    (distinct : table.schema.labels.Nodup) (h : table.schema.Stores (view s) rows)
    (alone : table.schema.IsAlone compares rows row others) :
    (∀ column ∈ table.schema.columns, ∃ statement condition,
        Filter.delete table.active (some (.eq column.field (column.field.get row))) = .ok statement ∧
          Change.read? statement.compiled = some (.delete table.active (some condition)) ∧
          condition.eval (Sql.Clause.truth ((view s).truth compares (table.schema.encodeRow row))) =
            if (column.encodeRow row).IsAbsent then .unknown else .yes) ∧
      ((table.schema.key.encodeRow row).IsAbsent →
        ((table.queryKey backend (table.schema.keyOf row)).runOn s).1 = .ok none ∧
          ((table.deleteRow backend row).runOn s).1 = .ok false ∧
          (view ((table.deleteRow backend row).runOn s).2).rows.Perm (view s).rows) ∧
      (¬(table.schema.key.encodeRow row).IsAbsent →
        (table.schema.Recovers row →
            ((table.queryKey backend (table.schema.keyOf row)).runOn s).1 = .ok (some row)) ∧
          ((table.deleteRow backend row).runOn s).1 = .ok true ∧
          (view ((table.deleteRow backend row).runOn s).2).rows.Perm (others.map table.schema.encodeRow)) := by
  obtain ⟨t, removed, left⟩ := deleteKey_run serves h (table.schema.keyOf row)
  have deleted : (table.deleteRow backend row).runOn s = _ := removed
  rw [deleted]
  refine ⟨fun column hc => ?_, fun absent => ?_, fun present => ?_⟩
  · obtain ⟨statement, made, read⟩ :=
      Statement.read?_delete table.active (eq_supported column.field (column.field.get row))
    exact ⟨statement, _, made, read, h.eval_own sql distinct hc row⟩
  · have unpicked : ∀ stored ∈ (view s).rows,
        table.schema.picks compares (view s) table.active (table.schema.keyOf row) stored = false :=
      h.picks_absent sql distinct absent
    have selected := List.filter_eq_nil_iff.mpr fun stored hs => ne_true_of_eq_false (unpicked stored hs)
    have kept := List.filter_eq_self.mpr fun stored hs => congrArg Bool.not (unpicked stored hs)
    obtain ⟨u, queried, -⟩ := queryKey_of_selected serves h distinct none (.of_eq selected) nofun
    rw [List.countP_eq_length_filter, selected, queried]
    rw [kept] at left
    exact ⟨rfl, rfl, left⟩
  · obtain ⟨selected, rest⟩ := h.filter_picks sql distinct present alone
    rw [List.countP_eq_length_filter, selected.length_eq]
    refine ⟨fun recovers => ?_, rfl, left.trans rest⟩
    obtain ⟨u, queried, -⟩ := queryKey_of_selected serves h distinct (some row) selected fun found hf => by
      cases hf
      exact recovers
    rw [queried]

end Table

/-! ### Books -/

/-- The comparison of stored values with values that are bound. -/
def asBound : Comparing := fun c v w => strictly c (Affinity.bound v) (Affinity.bound w)

theorem strictly_self {v : Value} (present : v ≠ .null) : strictly .equal v v = .yes := by
  cases v with
  | null => exact absurd rfl present
  | integer i => simp [strictly, Comparator.truth, Value.isNull, Value.order, Comparator.accepts, Truth.ofBool]
  | real x => simp [strictly, Comparator.truth, Value.isNull, Value.order, Comparator.accepts, Truth.ofBool]
  | text t => simp [strictly, Comparator.truth, Value.isNull, Value.order, Comparator.accepts, Truth.ofBool]

theorem asBound_isSql : Comparing.IsSql asBound where
  equal v present := strictly_self present
  unknown c v w absent := by
    rcases absent with absent | absent
    · rw [asBound, absent]
      rfl
    · rw [asBound, absent]
      cases Affinity.bound v <;> rfl

/-- The library with the books of the shelf. -/
def shelved : PlainTable := ⟨books.definitions, shelf.map books.encodeRow⟩

/-- The first book of the shelf, which has no remark. -/
def unremarked : Book := ⟨"978-0", "It's \"here\"", -3, none⟩

theorem Table.unremarked_found :
    Comparing.IsSql asBound ∧
      Serves (PlainTable.backend asBound library.active) asBound library.active (fun t => t) ∧
      library.schema.labels.Nodup ∧ library.schema.Stores shelved shelf ∧
      library.schema.IsAlone asBound shelf unremarked shelf.tail ∧
      ¬(library.schema.key.encodeRow unremarked).IsAbsent ∧ library.schema.Recovers unremarked ∧
      ((library.queryKey (PlainTable.backend asBound library.active) "978-0").runOn shelved).1 = .ok (some unremarked) ∧
      ((library.deleteRow (PlainTable.backend asBound library.active) unremarked).runOn shelved).1 = .ok true := by
  have serves := PlainTable.serves asBound library.active
  have distinct : library.schema.labels.Nodup := by decide
  have stores : library.schema.Stores shelved shelf := ⟨rfl, rfl⟩
  have alone : library.schema.IsAlone asBound shelf unremarked shelf.tail := ⟨.rfl, by decide⟩
  have present : ¬(library.schema.key.encodeRow unremarked).IsAbsent := by decide
  obtain ⟨-, -, found⟩ := Table.found_by_value asBound_isSql serves distinct stores alone
  obtain ⟨queried, removed, -⟩ := found present
  exact ⟨asBound_isSql, serves, distinct, stores, alone, present, books_recovers unremarked,
    queried (books_recovers unremarked), removed⟩

/-- The remark on a book, which it may lack. -/
def remark : Field Book (Option String) := { label := "remark", type := .optional .text, get := Book.remark }

/-- A book without a remark is not found by its remark. -/
theorem Table.unremarked_missed :
    (⟨.remark, remark⟩ : Column BookKind Book) ∈ books.columns ∧ books.labels.Nodup ∧ unremarked ∈ shelf ∧
      ((Filter.eq remark (remark.get unremarked)).condition (some library.active)).eval
        (Sql.Clause.truth (shelved.truth asBound (books.encodeRow unremarked))) = .unknown ∧
      shelved.rows.filter (shelved.selects asBound
        (some ((Filter.eq remark (remark.get unremarked)).condition (some library.active)))) = [] :=
  ⟨List.mem_of_getElem? (i := 3) rfl, by decide, List.mem_cons_self, rfl, by decide⟩

end TypedTables
