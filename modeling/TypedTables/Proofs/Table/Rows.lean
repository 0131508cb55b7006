import TypedTables.Proofs.RoundTrip
import TypedTables.Proofs.Table.KeyMap
import TypedTables.Proofs.Table.Meaning

/-!
# Stored rows and the map of them

How the rows of a table whose only constraint is its primary key are stored (`Stores`), and what the statements of the
schema do to them: what a step on the map of the rows does (`Models`). An insertion adds a row or is refused for its
key, an update replaces the row of a key, a deletion takes keys away, and a query by a key finds the row of the key. -/

namespace TypedTables

variable {κ ρ σ : Type} [Kinds κ]

namespace Schema

/-- The schema has no constraint but the primary key, its rows can be read again, and its keys are told apart by how
    they are stored. -/
structure IsKeyed (schema : Schema κ ρ) (compares : Comparing) : Prop where
  distinct : schema.labels.Nodup
  unconstrained : ∀ column ∈ schema.columns, column.rules = []
  recovers : ∀ row, schema.Recovers row
  injective : Function.Injective schema.key.field.type.encode
  filled : ∀ key, schema.key.field.type.encode key ≠ .null
  compares : ∀ a b, compares .equal (schema.key.field.type.encode a) (schema.key.field.type.encode b) = .yes ↔
    schema.key.field.type.encode a = schema.key.field.type.encode b

/-- The values of a row beside the labels of their columns. -/
def cells (schema : Schema κ ρ) (row : ρ) : List (String × Binding) :=
  schema.columns.map fun column => (column.label, (column.assignment row).operand)

/-- The table holds the stored forms of the rows. -/
structure Stores (schema : Schema κ ρ) (t : PlainTable) (rows : List ρ) : Prop where
  columns : t.columns = schema.definitions
  rows : t.rows = rows.map schema.encodeRow

/-- The table holds the rows of a map. -/
def Represents (schema : Schema κ ρ) [DecidableEq schema.Key] (t : PlainTable) (m : KeyMap schema) : Prop :=
  ∃ rows, schema.Stores t rows ∧ m.Lists rows

variable {schema : Schema κ ρ} {compares : Comparing} {t : PlainTable} {rows : List ρ} {name : String}

theorem map_fst_cells (row : ρ) : (schema.cells row).map Prod.fst = schema.labels := by
  rw [cells, List.map_map]
  rfl

theorem labels_zip_cells (row : ρ) : schema.labels.zip ((schema.cells row).map Prod.snd) = schema.cells row := by
  rw [← map_fst_cells row, List.zip_map']
  exact List.map_id _

/-- The insertion of a row is read with the values of the row beside their labels. -/
theorem read?_insert (schema : Schema κ ρ) (table : String) (row : ρ) :
    Change.read? (schema.insert table row).compiled =
      some (.insert table schema.labels ((schema.cells row).map Prod.snd)) := by
  rw [Schema.insert, Statement.read?_insert, ← map_fst_cells row, cells, List.map_map, List.map_map, List.map_map,
    List.map_map]
  rfl

/-- The update of a row is read with the values of the row beside their labels, for the rows that the filter of its key
    selects. -/
theorem read?_update (schema : Schema κ ρ) (table : String) (row : ρ) :
    Change.read? (schema.update table row).compiled = some (.update table (schema.cells row)
      (some ((schema.keyFilter (schema.keyOf row)).condition (some table)))) := by
  rw [Schema.update, Statement.read?_update, cells, List.map_map]
  rfl

theorem eq_supported {α : Type} (field : Field ρ α) (a : α) : ∀ f ∈ some (Filter.eq field a), f.Supported := by
  rintro f ⟨⟩ c hc
  obtain rfl := List.mem_singleton.mp hc
  rfl

theorem keyFilter_supported (key : schema.Key) : ∀ f ∈ some (schema.keyFilter key), f.Supported :=
  eq_supported schema.key.field key

theorem keyFilter_label (key : schema.Key) : ∀ c ∈ (schema.keyFilter key).atoms, c.column.label ∈ schema.labels := by
  intro c hc
  obtain rfl := List.mem_singleton.mp hc
  exact List.mem_cons_self

theorem IsKeyed.encode_eq (keyed : schema.IsKeyed compares) {a b : schema.Key} :
    compares .equal (schema.key.field.type.encode a) (schema.key.field.type.encode b) = .yes ↔ a = b :=
  (keyed.compares a b).trans keyed.injective.eq_iff

/-- The only column with a constraint is the key. -/
theorem IsKeyed.eq_key (keyed : schema.IsKeyed compares) {column : ColumnDef} {rule : ColumnRule}
    (hc : column ∈ schema.definitions) (constrained : column.primaryKey ∨ rule ∈ column.rules) :
    column = schema.key.definition true := by
  rcases List.mem_cons.mp hc with same | hc
  · exact same
  · obtain ⟨field, hf, rfl⟩ := List.mem_map.mp hc
    rcases constrained with primary | required
    · cases primary
    · have none : (field.definition false).rules = [] := keyed.unconstrained field (List.mem_cons_of_mem _ hf)
      rw [none] at required
      cases required

namespace Stores

variable (h : schema.Stores t rows)
include h

theorem labels : t.labels = schema.labels := by
  rw [PlainTable.labels, h.columns, definitions_labels]

/-- The table with other rows. -/
theorem withRows (others : List ρ) : schema.Stores { t with rows := others.map schema.encodeRow } others :=
  ⟨h.columns, rfl⟩

theorem cell_encodeRow (distinct : schema.labels.Nodup) {column : Column κ ρ} (hc : column ∈ schema.columns)
    (row : ρ) : t.cell (schema.encodeRow row) column.label = column.encodeRow row := by
  rw [PlainTable.cell, h.labels, Schema.labels, encodeRow, List.zip_map', PlainTable.lookup_map distinct hc,
    Option.getD_some]

/-- All columns of a stored row. -/
theorem project_encodeRow (distinct : schema.labels.Nodup) (name : String) (row : ρ) :
    t.project (schema.labels.map (some name, ·)) (schema.encodeRow row) = schema.encodeRow row := by
  rw [PlainTable.project, List.map_map, Schema.labels, List.map_map]
  exact List.map_congr_left fun column hc => h.cell_encodeRow distinct hc row

/-- The value of a row in the column of the key. -/
theorem cell_key (distinct : schema.labels.Nodup) (row : ρ) :
    t.cell (schema.encodeRow row) schema.key.label = schema.key.field.type.encode (schema.keyOf row) :=
  h.cell_encodeRow distinct List.mem_cons_self row

theorem cell_equal_iff (keyed : schema.IsKeyed compares) (row other : ρ) :
    compares .equal (t.cell (schema.encodeRow row) schema.key.label)
      (t.cell (schema.encodeRow other) schema.key.label) = .yes ↔ schema.keyOf row = schema.keyOf other := by
  rw [h.cell_key keyed.distinct, h.cell_key keyed.distinct, keyed.encode_eq]

theorem isSound_iff (keyed : schema.IsKeyed compares) : t.IsSound compares ↔ (rows.map schema.keyOf).Nodup := by
  rw [List.Nodup, List.pairwise_map]
  constructor
  · intro sound
    have apart := sound.unique (schema.key.definition true) (h.columns ▸ List.mem_cons_self) (Or.inl rfl)
    rw [h.rows, List.pairwise_map] at apart
    exact apart.imp fun {row other} ne same => ne ((h.cell_equal_iff keyed row other).mpr same)
  · intro distinct
    refine ⟨fun column hc constrained => ?_, fun column hc constrained row hr => ?_⟩
    · rw [h.columns] at hc
      obtain rfl := keyed.eq_key hc constrained
      rw [h.rows, List.pairwise_map]
      exact distinct.imp fun {row other} ne equal => ne ((h.cell_equal_iff keyed row other).mp equal)
    · rw [h.columns] at hc
      obtain rfl := keyed.eq_key hc constrained
      rw [h.rows] at hr
      obtain ⟨row, -, rfl⟩ := List.mem_map.mp hr
      exact ne_of_eq_of_ne (h.cell_key keyed.distinct row) (keyed.filled _)

/-- A row to which all values of `row` are given is the stored form of `row`. -/
theorem rowOf_cells (distinct : schema.labels.Nodup) (row : ρ) (otherwise : ColumnDef → Value) :
    t.rowOf (schema.cells row) otherwise = schema.encodeRow row := by
  rw [PlainTable.rowOf, h.columns, encodeRow]
  refine definitions_map fun column hc primaryKey => ?_
  have given : (schema.cells row).lookup column.label = some (column.assignment row).operand :=
    PlainTable.lookup_map distinct hc
  show ((schema.cells row).lookup column.label).elim _ _ = _
  rw [given]
  rfl

theorem accepts (distinct : schema.labels.Nodup) : t.Accepts schema.labels := by
  refine ⟨distinct, fun label hl => ?_⟩
  rw [h.labels]
  exact hl

/-- The filter of a key is true of the rows with the key. -/
theorem eval_keyFilter [DecidableEq schema.Key] (keyed : schema.IsKeyed compares) (key : schema.Key) (row : ρ) :
    ((schema.keyFilter key).eval fun c =>
      t.truth compares (schema.encodeRow row) (c.clause (some name))).holds = decide (schema.keyOf row = key) := by
  have truth : ((schema.keyFilter key).eval fun c => t.truth compares (schema.encodeRow row) (c.clause (some name))) =
      compares .equal (t.cell (schema.encodeRow row) schema.key.label) (schema.key.field.type.encode key) := rfl
  rw [truth, h.cell_key keyed.distinct]
  by_cases same : schema.keyOf row = key
  · rw [keyed.encode_eq.mpr same, decide_eq_true same]
    rfl
  · rw [decide_eq_false same]
    rcases equal : compares .equal (schema.key.field.type.encode (schema.keyOf row))
      (schema.key.field.type.encode key) with _ | _ | _
    · exact absurd (keyed.encode_eq.mp equal) same
    · rfl
    · rfl

theorem resolves_filter {f : Filter} (there : ∀ c ∈ f.atoms, c.column.label ∈ schema.labels) :
    t.resolves name (some (f.condition (some name))) :=
  PlainTable.resolves_filter (fun c hc => h.labels ▸ there c hc) name

end Stores

/-- A table holds the rows of one map only. -/
theorem IsKeyed.represents_unique [DecidableEq schema.Key] (keyed : schema.IsKeyed compares) {m m' : KeyMap schema}
    (h : schema.Represents t m) (h' : schema.Represents t m') : m = m' := by
  obtain ⟨rows, stored, listed⟩ := h
  obtain ⟨rows', stored', listed'⟩ := h'
  have same : rows.map schema.encodeRow = rows'.map schema.encodeRow := stored.rows.symm.trans stored'.rows
  obtain rfl := (encodeRow_injective keyed.recovers).list_map same
  exact listed.unique listed'

/-- Everything that a query by a key names is known. -/
theorem Stores.understands (h : schema.Stores t rows) (name : String) (key : schema.Key) :
    t.understands ⟨schema.labels.map (some name, ·), name,
      (some (schema.keyFilter key)).map (Filter.condition (some name)), some (limitBinding 1)⟩ := by
  have known : ((schema.labels.map (some name, ·)).all fun column => t.knows name (.column column.1 column.2)) := by
    simp [PlainTable.knows, h.labels]
  have resolved : t.resolves name (some ((schema.keyFilter key).condition (some name))) :=
    h.resolves_filter (keyFilter_label key)
  rw [PlainTable.understands, known, Option.map_some, resolved]
  rfl

/-- The answer to a query by a key is the row that is selected, or nothing where none is. -/
theorem Stores.eq_of_selected (h : schema.Stores t rows) (distinct : schema.labels.Nodup) {key : schema.Key}
    {found : Option ρ}
    (selected : (t.rows.filter (t.selects compares (some ((schema.keyFilter key).condition (some name))))).Perm
      (found.toList.map schema.encodeRow)) {given : List (List Value)}
    (answer : t.IsAnswer compares ⟨schema.labels.map (some name, ·), name,
      (some (schema.keyFilter key)).map (Filter.condition (some name)), some (limitBinding 1)⟩ given) :
    given = found.toList.map schema.encodeRow := by
  obtain ⟨listed, perm, rfl⟩ := answer
  have perm := perm.trans selected
  cases found with
  | none =>
    obtain rfl := List.perm_nil.mp perm
    rfl
  | some row =>
    obtain rfl := List.perm_singleton.mp perm
    exact congrArg ([·]) (h.project_encodeRow distinct name row)

/-! ### Statements -/

variable [DecidableEq schema.Key]

/-- On a table that holds the rows of a map, a change does what a step does to the map: it is refused with it, or the
    rows after it are those of the map after the step. -/
def Models (schema : Schema κ ρ) [DecidableEq schema.Key] (compares : Comparing) (change : Change)
    (step : KeyMap schema → Option Nat × KeyMap schema) : Prop :=
  ∀ t rows m, schema.Stores t rows → m.Lists rows →
    (step m = (none, m) ∧ t.carryOut compares change = none) ∨
      ∃ n m' rows', step m = (some n, m') ∧ m'.Lists rows' ∧
        t.carryOut compares change = some (n, { t with rows := rows'.map schema.encodeRow })

theorem Stores.keep_of_lists (h : schema.Stores t rows) (keyed : schema.IsKeyed compares) {m : KeyMap schema}
    {others : List ρ} (listed : m.Lists others) (n : Nat) :
    t.keep compares n (others.map schema.encodeRow) = some (n, { t with rows := others.map schema.encodeRow }) :=
  if_pos (((h.withRows others).isSound_iff keyed).mpr listed.distinct)

theorem Stores.selects_key (h : schema.Stores t rows) (keyed : schema.IsKeyed compares) (key : schema.Key) (row : ρ) :
    t.selects compares (some ((schema.keyFilter key).condition (some name))) (schema.encodeRow row) =
      decide (schema.keyOf row = key) := by
  rw [PlainTable.selects_filter]
  exact h.eval_keyFilter keyed key row

theorem Stores.selects_keys (h : schema.Stores t rows) (keyed : schema.IsKeyed compares) (keys : List schema.Key)
    (row : ρ) :
    t.selects compares (some (Filter.condition (some name) (.any (keys.map schema.keyFilter)))) (schema.encodeRow row) =
      decide (schema.keyOf row ∈ keys) := by
  rw [PlainTable.selects_filter, Formula.eval, Formula.holds_evalAny, List.any_map]
  have each : ∀ key, (((schema.keyFilter key).eval fun c =>
      t.truth compares (schema.encodeRow row) (c.clause (some name))).holds) = decide (schema.keyOf row = key) :=
    fun key => h.eval_keyFilter keyed key row
  simp only [Function.comp_def, each]
  rw [Bool.eq_iff_iff, List.any_eq_true, decide_eq_true_eq]
  simp only [decide_eq_true_eq, exists_eq_right']

/-- An insertion adds a row, unless its key is there. -/
theorem models_insert (keyed : schema.IsKeyed compares) (name : String) (row : ρ) :
    schema.Models compares (.insert name schema.labels ((schema.cells row).map Prod.snd)) (KeyMap.add row) := by
  intro t rows m h listed
  have rows' : t.rows ++ [t.rowOf (schema.labels.zip ((schema.cells row).map Prod.snd)) ColumnDef.initial] =
      (rows ++ [row]).map schema.encodeRow := by
    rw [labels_zip_cells, h.rowOf_cells keyed.distinct, h.rows, List.map_append, List.map_singleton]
  have accepted : t.Accepts schema.labels ∧ schema.labels.length = ((schema.cells row).map Prod.snd).length :=
    ⟨h.accepts keyed.distinct, by rw [← map_fst_cells row, List.length_map, List.length_map]⟩
  rw [PlainTable.carryOut, if_pos accepted, rows']
  by_cases stored : schema.keyOf row ∈ m
  · refine Or.inl ⟨if_pos stored, if_neg fun sound => ?_⟩
    have distinct := ((h.withRows (rows ++ [row])).isSound_iff keyed).mp sound
    rw [List.map_append, List.map_singleton] at distinct
    exact List.disjoint_of_nodup_append distinct (listed.mem_iff.mp stored) (List.mem_singleton_self _)
  · have added := listed.put stored
    exact Or.inr ⟨1, _, _, if_neg stored, added, h.keep_of_lists keyed added 1⟩

/-- Giving the rows of a key the values of another row puts that row in their place. -/
theorem Stores.map_changed (h : schema.Stores t rows) (keyed : schema.IsKeyed compares) (row : ρ) :
    (t.rows.map fun old =>
      if t.selects compares (some ((schema.keyFilter (schema.keyOf row)).condition (some name))) old then
        t.changed (schema.cells row) old
      else old) =
        (rows.map fun other => if schema.keyOf other = schema.keyOf row then row else other).map schema.encodeRow := by
  rw [h.rows, List.map_map, List.map_map]
  refine List.map_congr_left fun other _ => ?_
  rw [Function.comp_apply, Function.comp_apply, h.selects_key keyed, PlainTable.changed, h.rowOf_cells keyed.distinct]
  by_cases same : schema.keyOf other = schema.keyOf row
  · rw [if_pos (decide_eq_true same), if_pos same]
  · rw [if_neg (fun selected => same (of_decide_eq_true selected)), if_neg same]

theorem Stores.countP_key (h : schema.Stores t rows) (keyed : schema.IsKeyed compares) {m : KeyMap schema}
    (listed : m.Lists rows) (key : schema.Key) :
    t.rows.countP (t.selects compares (some ((schema.keyFilter key).condition (some name)))) =
      if key ∈ m then 1 else 0 := by
  rw [h.rows, List.countP_map, Function.comp_def]
  simp only [h.selects_key keyed]
  rw [List.countP_eq_length_filter, listed.filter_eq]
  rcases stored : m.lookup key with _ | old
  · rw [if_neg (Finmap.lookup_eq_none.mp stored)]
    rfl
  · rw [if_pos (Finmap.mem_of_lookup_eq_some stored)]
    rfl

/-- An update replaces the row of a key, if the key is there. -/
theorem models_update (keyed : schema.IsKeyed compares) (name : String) (row : ρ) :
    schema.Models compares (.update name (schema.cells row)
      (some ((schema.keyFilter (schema.keyOf row)).condition (some name)))) (KeyMap.renew row) := by
  intro t rows m h listed
  have replaced : (m.replace row).Lists _ := listed.replace
  have accepted : t.Accepts ((schema.cells row).map Prod.fst) := by
    rw [map_fst_cells]
    exact h.accepts keyed.distinct
  have resolved : t.resolves name (some ((schema.keyFilter (schema.keyOf row)).condition (some name))) :=
    h.resolves_filter (keyFilter_label _)
  refine Or.inr ⟨_, _, _, rfl, replaced, ?_⟩
  rw [PlainTable.carryOut, if_pos ⟨accepted, resolved⟩, h.countP_key keyed listed, h.map_changed keyed]
  exact h.keep_of_lists keyed replaced _

/-- A deletion takes away the keys of which its filter is true. -/
theorem models_delete {filter : Option Filter} {p : schema.Key → Bool} {without : KeyMap schema → KeyMap schema}
    (there : ∀ f ∈ filter, ∀ c ∈ f.atoms, c.column.label ∈ schema.labels)
    (selected : ∀ {t rows}, schema.Stores t rows → ∀ row,
      t.selects compares (filter.map (Filter.condition (some name))) (schema.encodeRow row) = p (schema.keyOf row))
    (removed : ∀ m key, (without m).lookup key = if p key then none else m.lookup key) :
    schema.Models compares (.delete name (filter.map (Filter.condition (some name))))
      fun m => (some (m.keys.filter fun key => p key).card, without m) := by
  intro t rows m h listed
  have resolved : t.resolves name (filter.map (Filter.condition (some name))) := by
    cases filter with
    | none => rfl
    | some f => exact h.resolves_filter (there f rfl)
  have affected : t.rows.countP (t.selects compares (filter.map (Filter.condition (some name)))) =
      (m.keys.filter fun key => p key).card := by
    rw [h.rows, List.countP_map, Function.comp_def]
    simp only [selected h]
    exact listed.countP_eq p
  have left : (t.rows.filter fun row => !t.selects compares (filter.map (Filter.condition (some name))) row) =
      (rows.filter fun row => !p (schema.keyOf row)).map schema.encodeRow := by
    rw [h.rows, List.filter_map, Function.comp_def]
    simp only [selected h]
  refine Or.inr ⟨_, _, _, rfl, listed.remove (removed m), ?_⟩
  rw [PlainTable.carryOut, if_pos resolved, affected, left]

/-- A key selects its row, or nothing without one. -/
theorem Stores.filter_key (h : schema.Stores t rows) (keyed : schema.IsKeyed compares) {m : KeyMap schema}
    (listed : m.Lists rows) (key : schema.Key) :
    t.rows.filter (t.selects compares (some ((schema.keyFilter key).condition (some name)))) =
      (m.lookup key).toList.map schema.encodeRow := by
  rw [h.rows, List.filter_map, ← listed.filter_eq]
  refine congrArg (List.map _) (congrArg (List.filter · rows) (funext fun row => ?_))
  exact h.selects_key keyed key row

end Schema

end TypedTables
