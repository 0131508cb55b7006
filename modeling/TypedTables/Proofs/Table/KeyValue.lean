import TypedTables.Proofs.Table.Rows
import TypedTables.Table

/-!
# A table is a map from keys to rows

A table whose only constraint is its primary key behaves as a finite map from keys to rows, in every backend that does
what statements mean. An action does to the stored rows what a step does to the map (`Simulates`) if the statements that
it executes do, so every operation does, and so does every sequence of operations (`performAll_eq_applyAll`). -/

namespace TypedTables

variable {κ ρ σ : Type} [Kinds κ]

namespace Schema

variable {schema : Schema κ ρ} {compares : Comparing} {t : PlainTable} {rows : List ρ} {name : String}
  [DecidableEq schema.Key]

theorem Stores.represents_of_perm (h : schema.Stores t rows) {m : KeyMap schema} (listed : m.Lists rows)
    {other : PlainTable} (columns : other.columns = t.columns) (rows' : other.rows.Perm t.rows) :
    schema.Represents other m := by
  have encoded : List.Forall₂ (fun v row => v = schema.encodeRow row) t.rows rows := by
    rw [h.rows, List.forall₂_map_left_iff, List.forall₂_same]
    exact fun _ _ => rfl
  obtain ⟨rows'', encoded, perm⟩ := List.perm_comp_forall₂ rows' encoded
  refine ⟨rows'', ⟨columns.trans h.columns, ?_⟩, listed.perm perm⟩
  rw [← List.forall₂_eq_eq_eq, List.forall₂_map_right_iff]
  exact encoded

/-- On a state whose table holds the rows of a map, an action answers what a step on maps answers, and leaves the rows
    of the map after the step. The one fails where the other does. -/
def Simulates (schema : Schema κ ρ) [DecidableEq schema.Key] (view : σ → PlainTable) {α : Type} (x : Action σ α)
    (step : KeyMap schema → Option α × KeyMap schema) : Prop :=
  ∀ s m, schema.Represents (view s) m →
    (x.runOn s).1.toOption = (step m).1 ∧ schema.Represents (view (x.runOn s).2) (step m).2

namespace Simulates

variable {α β : Type} {view : σ → PlainTable} {x : Action σ α} {step : KeyMap schema → Option α × KeyMap schema}

theorem map (h : schema.Simulates view x step) (f : α → β) :
    schema.Simulates view (f <$> x) fun m => ((step m).1.map f, (step m).2) := by
  intro s m represents
  obtain ⟨answer, after⟩ := h s m represents
  rw [Action.runOn_map]
  refine ⟨?_, after⟩
  show ((x.runOn s).1.map f).toOption = (step m).1.map f
  rw [← answer]
  rcases (x.runOn s).1 with _ | _ <;> rfl

theorem during (h : schema.Simulates view x step) (operation table : String) :
    schema.Simulates view (x.during operation table) step := by
  intro s m represents
  obtain ⟨answer, after⟩ := h s m represents
  rw [Action.runOn_during]
  refine ⟨?_, after⟩
  rw [← answer]
  rcases (x.runOn s).1 with _ | _ <;> rfl

theorem congr {step' : KeyMap schema → Option α × KeyMap schema} (h : schema.Simulates view x step)
    (same : ∀ m, step m = step' m) : schema.Simulates view x step' :=
  (funext same : step = step') ▸ h

/-- An action that tells whether it has affected one row. -/
theorem flag {x : Action σ Nat} {step : KeyMap schema → Option Nat × KeyMap schema}
    (h : schema.Simulates view x step) :
    schema.Simulates view (do let count ← x; pure (decide (count = 1)))
      fun m => ((step m).1.map fun count => decide (count = 1), (step m).2) := by
  have mapped := h.map fun count => decide (count = 1)
  rw [map_eq_pure_bind] at mapped
  exact mapped

/-- A statement does to the table what its change does to the map. -/
theorem execute {backend : Backend σ} {statement : Statement} {change : Change}
    {step : KeyMap schema → Option Nat × KeyMap schema} (serves : Serves backend compares name view)
    (read : Change.read? statement.compiled = some change) (concerns : change.table = name)
    (models : schema.Models compares change step) : schema.Simulates view (backend.execute statement) step := by
  rintro s m ⟨rows, h, listed⟩
  rcases models (view s) rows m h listed with ⟨refused, carried⟩ | ⟨n, m', rows', done, listed', carried⟩
  · obtain ⟨e, t, run, same⟩ := serves.refused read concerns carried
    rw [run, refused]
    refine ⟨rfl, ?_⟩
    rw [same]
    exact ⟨rows, h, listed⟩
  · obtain ⟨t, run, columns, perm⟩ := serves.executed read concerns carried
    rw [run, done]
    exact ⟨rfl, (h.withRows rows').represents_of_perm listed' columns perm⟩

/-- Rows are taken one by one, up to the first that fails. -/
theorem eachRow {backend : Backend σ} {statement : ρ → Statement}
    {step : ρ → KeyMap schema → Option Nat × KeyMap schema}
    (each : ∀ row, schema.Simulates view (backend.execute (statement row)) (step row)) (operation target : String)
    (rows : List ρ) :
    schema.Simulates view (Table.eachRow backend operation target statement rows) (KeyMap.each step rows) := by
  induction rows with
  | nil => exact fun _ _ represents => ⟨rfl, represents⟩
  | cons row rows ih =>
    intro s m represents
    obtain ⟨answer, after⟩ := (each row).during operation target s m represents
    rw [Table.eachRow, KeyMap.each]
    rcases run : ((backend.execute (statement row)).during operation target).runOn s with ⟨e | n, t⟩
    · rw [run] at answer after
      rcases stepped : step row m with ⟨_ | k, m'⟩
      · rw [stepped] at after
        rw [Action.runOn_bind_error run]
        exact ⟨rfl, after⟩
      · rw [stepped] at answer
        cases answer
    · rw [run] at answer after
      rcases stepped : step row m with ⟨_ | k, m'⟩
      · rw [stepped] at answer
        cases answer
      · rw [stepped] at answer after
        cases answer
        rw [Action.runOn_bind_ok run]
        have others := ih.map (n + ·) t m' after
        rw [map_eq_pure_bind] at others
        exact others

end Simulates

end Schema

/-! ### Operations -/

open Schema

theorem QueryResult.first_ofRows {schema : Schema κ ρ} {row? : Option ρ} (recovers : ∀ row ∈ row?, schema.Recovers row) :
    (ofRows schema (row?.toList.map schema.encodeRow)).first.1 = .ok row? := by
  cases row? with
  | none => rfl
  | some row => exact congrArg Prod.fst (next_encodeRow (recovers row rfl) [] none)

namespace Table

/-- Carries out an operation. -/
def perform (backend : Backend σ) (table : Table κ ρ) : KeyMap.Operation table.schema → Action σ (KeyMap.Answer ρ)
  | .insertOne row => .flag <$> table.insertOne backend row
  | .insert rows => .count <$> table.insert backend rows
  | .updateOne row => .flag <$> table.updateOne backend row
  | .update rows => .count <$> table.update backend rows
  | .queryKey key => .row <$> table.queryKey backend key
  | .deleteKey key => .flag <$> table.deleteKey backend key
  | .deleteRow row => .flag <$> table.deleteRow backend row
  | .deleteKeys keys => .count <$> table.deleteKeys backend keys
  | .deleteRows rows => .count <$> table.deleteRows backend rows
  | .clear => .count <$> table.delete backend none

/-- Carries out operations one after the other, whether they fail or not: what they answer, and the state after them. -/
def performAll (backend : Backend σ) (table : Table κ ρ) :
    List (KeyMap.Operation table.schema) → σ → List (Except Error (KeyMap.Answer ρ)) × σ
  | [], s => ([], s)
  | o :: operations, s =>
    let (answer, t) := (table.perform backend o).runOn s
    let (answers, u) := performAll backend table operations t
    (answer :: answers, u)

variable {backend : Backend σ} {compares : Comparing} {view : σ → PlainTable} {table : Table κ ρ}

/-- A query by a key answers the row that the key selects and changes nothing. -/
theorem queryKey_of_selected (serves : Serves backend compares table.active view) {s : σ} {rows : List ρ}
    (h : table.schema.Stores (view s) rows) (distinct : table.schema.labels.Nodup) {key : table.schema.Key}
    (found : Option ρ)
    (selected : ((view s).rows.filter ((view s).selects compares
      (some ((table.schema.keyFilter key).condition (some table.active))))).Perm
        (found.toList.map table.schema.encodeRow))
    (recovers : ∀ row ∈ found, table.schema.Recovers row) :
    ∃ t, (table.queryKey backend key).runOn s = (.ok found, t) ∧ view t = view s := by
  obtain ⟨statement, made, read⟩ := Statement.read?_select table.schema table.active 1 (keyFilter_supported key)
  obtain ⟨given, t, run, answer, same⟩ := serves.queried read rfl (h.understands table.active key)
  rw [h.eq_of_selected distinct selected answer] at run
  have wrapped : ((backend.query statement).during "query" table.active).runOn s =
      (.ok (.ofRows (found.toList.map table.schema.encodeRow)), t) := by
    rw [Action.runOn_during, run]
    rfl
  have queried : (table.query backend (some (table.schema.keyFilter key)) none (some 1)).runOn s =
      (.ok (.ofRows table.schema (found.toList.map table.schema.encodeRow)), t) := by
    rw [query, made]
    exact Action.runOn_bind_ok wrapped
  refine ⟨t, ?_, same⟩
  rw [queryKey, Action.runOn_bind_ok queried, Action.runOn_ofExcept, QueryResult.first_ofRows recovers]

variable [DecidableEq table.schema.Key]

section
variable (keyed : table.schema.IsKeyed compares) (serves : Serves backend compares table.active view)
include keyed serves

theorem simulates_insert (rows : List ρ) :
    table.schema.Simulates view (table.insert backend rows) (KeyMap.each KeyMap.add rows) :=
  .eachRow (fun row => .execute serves (table.schema.read?_insert table.active row) rfl
    (models_insert keyed table.active row)) _ _ rows

theorem simulates_update (rows : List ρ) :
    table.schema.Simulates view (table.update backend rows) (KeyMap.each KeyMap.renew rows) :=
  .eachRow (fun row => .execute serves (table.schema.read?_update table.active row) rfl
    (models_update keyed table.active row)) _ _ rows

end

/-- A deletion takes away the keys of which its filter is true. -/
theorem simulates_delete (serves : Serves backend compares table.active view) {filter : Option Filter}
    {step : KeyMap table.schema → Option Nat × KeyMap table.schema} (supported : ∀ f ∈ filter, f.Supported)
    (models : table.schema.Models compares
      (.delete table.active (filter.map (Filter.condition (some table.active)))) step) :
    table.schema.Simulates view (table.delete backend filter) step := by
  obtain ⟨statement, made, read⟩ := Statement.read?_delete table.active supported
  have action : table.delete backend filter = (backend.execute statement).during "delete from" table.active := by
    rw [delete, made]
    rfl
  rw [action]
  exact (Simulates.execute serves read rfl models).during _ _

theorem simulates_clear (serves : Serves backend compares table.active view) :
    table.schema.Simulates view (table.delete backend none) fun m => (some m.keys.card, ∅) := by
  have models : table.schema.Models compares
      (.delete table.active ((none : Option Filter).map (Filter.condition (some table.active)))) fun m =>
        (some (m.keys.filter fun _ => true).card, ∅) := by
    refine models_delete (fun f hf => ?_) (fun _ _ => rfl) fun m key => ?_
    · cases hf
    · rw [if_pos rfl, Finmap.lookup_empty]
  have supported : ∀ f ∈ (none : Option Filter), f.Supported := by
    intro f hf
    cases hf
  refine (simulates_delete serves supported models).congr fun m => ?_
  rw [Finset.filter_true_of_mem fun _ _ => rfl]

section
variable (keyed : table.schema.IsKeyed compares) (serves : Serves backend compares table.active view)
include keyed serves

/-- A deletion by a key takes away the key. -/
theorem simulates_deleteKey (key : table.schema.Key) :
    table.schema.Simulates view (table.deleteKey backend key) fun m => (some (decide (key ∈ m)), m.erase key) := by
  have models : table.schema.Models compares (.delete table.active
      ((some (table.schema.keyFilter key)).map (Filter.condition (some table.active)))) fun m =>
        (some (m.keys.filter fun other => decide (other = key)).card, m.erase key) := by
    refine models_delete (fun f hf => ?_) (fun h row => h.selects_key keyed key row) fun m other => ?_
    · cases hf
      exact keyFilter_label key
    · by_cases same : other = key
      · subst same
        simp [Finmap.lookup_erase]
      · simp [Finmap.lookup_erase_ne same, same]
  refine (simulates_delete serves (keyFilter_supported key) models).flag.congr fun m => ?_
  by_cases stored : key ∈ m
  · simp [Finset.filter_eq', Finmap.mem_keys, stored]
  · simp [Finset.filter_eq', Finmap.mem_keys, stored]

/-- A deletion by several keys takes away those that are there, whether listed once or more often. -/
theorem simulates_deleteKeys (keys : List table.schema.Key) :
    table.schema.Simulates view (table.deleteKeys backend keys) fun m =>
      (some (m.keys.filter (· ∈ keys)).card, m.removeAll keys) := by
  have models : table.schema.Models compares (.delete table.active
      ((some (.any (keys.map table.schema.keyFilter))).map (Filter.condition (some table.active)))) fun m =>
        (some (m.keys.filter fun key => decide (key ∈ keys)).card, m.removeAll keys) := by
    refine models_delete (fun f hf c hc => ?_) (fun h row => h.selects_keys keyed keys row) fun m key => ?_
    · cases hf
      obtain ⟨f, hf, hc⟩ := Formula.mem_atomsOf.mp hc
      obtain ⟨key, -, rfl⟩ := List.mem_map.mp hf
      exact keyFilter_label key c hc
    · simp [KeyMap.lookup_removeAll]
  have supported : ∀ f ∈ some (Formula.any (keys.map table.schema.keyFilter)), Filter.Supported f := by
    rintro f ⟨⟩ c hc
    obtain ⟨f, hf, hc⟩ := Formula.mem_atomsOf.mp hc
    obtain ⟨key, -, rfl⟩ := List.mem_map.mp hf
    exact keyFilter_supported key _ rfl c hc
  rw [deleteKeys]
  split
  · next empty =>
    obtain rfl := List.isEmpty_iff.mp empty
    intro s m represents
    refine ⟨?_, represents⟩
    simp [Except.toOption]
  · refine (simulates_delete serves supported models).congr fun m => ?_
    simp only [decide_eq_true_eq]

/-- A query by a key finds the row of the key and changes nothing. -/
theorem simulates_queryKey (key : table.schema.Key) :
    table.schema.Simulates view (table.queryKey backend key) fun m => (some (m.lookup key), m) := by
  rintro s m ⟨rows, h, listed⟩
  obtain ⟨t, run, same⟩ := queryKey_of_selected serves h keyed.distinct _
    (.of_eq (h.filter_key keyed listed key)) fun row _ => keyed.recovers row
  rw [run]
  refine ⟨rfl, ?_⟩
  rw [same]
  exact ⟨rows, h, listed⟩

/-- An operation does to a table what it does to a map. -/
theorem simulates_perform (o : KeyMap.Operation table.schema) :
    table.schema.Simulates view (table.perform backend o) fun m => m.apply o := by
  cases o with
  | insertOne row =>
    refine ((simulates_insert keyed serves [row]).flag.map KeyMap.Answer.flag).congr fun m => ?_
    by_cases stored : table.schema.keyOf row ∈ m
    · simp [KeyMap.each, KeyMap.add, KeyMap.apply, stored]
    · simp [KeyMap.each, KeyMap.add, KeyMap.apply, stored]
  | insert rows => exact (simulates_insert keyed serves rows).map KeyMap.Answer.count
  | updateOne row =>
    refine ((simulates_update keyed serves [row]).flag.map KeyMap.Answer.flag).congr fun m => ?_
    rw [KeyMap.each_renew]
    by_cases stored : table.schema.keyOf row ∈ m
    · simp [KeyMap.apply, stored]
    · simp [KeyMap.apply, stored]
  | update rows =>
    refine ((simulates_update keyed serves rows).map KeyMap.Answer.count).congr fun m => ?_
    rw [KeyMap.each_renew]
    rfl
  | queryKey key => exact (simulates_queryKey keyed serves key).map KeyMap.Answer.row
  | deleteKey key => exact (simulates_deleteKey keyed serves key).map KeyMap.Answer.flag
  | deleteRow row => exact (simulates_deleteKey keyed serves (table.schema.keyOf row)).map KeyMap.Answer.flag
  | deleteKeys keys => exact (simulates_deleteKeys keyed serves keys).map KeyMap.Answer.count
  | deleteRows rows => exact (simulates_deleteKeys keyed serves (rows.map table.schema.keyOf)).map KeyMap.Answer.count
  | clear => exact (simulates_clear serves).map KeyMap.Answer.count

/-- Every sequence of operations answers what it answers on the map whose rows the table holds, failing where it fails
    there, and leaves the rows of the map after it. -/
theorem performAll_eq_applyAll (operations : List (KeyMap.Operation table.schema)) {s : σ} {m : KeyMap table.schema}
    (represents : table.schema.Represents (view s) m) :
    (table.performAll backend operations s).1.map Except.toOption = (m.applyAll operations).1 ∧
      table.schema.Represents (view (table.performAll backend operations s).2) (m.applyAll operations).2 := by
  induction operations generalizing s m with
  | nil => exact ⟨rfl, represents⟩
  | cons o operations ih =>
    obtain ⟨answer, after⟩ := simulates_perform keyed serves o s m represents
    obtain ⟨answers, last⟩ := ih after
    refine ⟨?_, last⟩
    rw [performAll, KeyMap.applyAll, List.map_cons, answer, answers]

end

end Table

/-! ### Books -/

instance : DecidableEq books.Key := inferInstanceAs (DecidableEq String)

/-- The comparison of stored values, texts by their characters. -/
def strictly : Comparing := fun c v w => c.truth .strict v w

theorem strictly_text (s t : String) : strictly .equal (.text s) (.text t) = .yes ↔ s = t := by
  have texts : strictly .equal (.text s) (.text t) = .ofBool (decide (compare s t = .eq)) := rfl
  rw [texts, ← Std.LawfulEqOrd.compare_eq_iff_eq (a := s)]
  by_cases same : compare s t = .eq
  · simp [same, Truth.ofBool]
  · simp [same, Truth.ofBool]

theorem books_isKeyed : books.IsKeyed strictly where
  distinct := by decide
  unconstrained := by decide
  recovers := books_recovers
  injective a b same := by
    cases same
    rfl
  filled key := nofun
  compares a b := (strictly_text a b).trans (Value.text.injEq a b ▸ Iff.rfl)

/-- The books of a library. -/
def library : Table BookKind Book := ⟨"library", books⟩

instance : DecidableEq library.schema.Key := inferInstanceAs (DecidableEq books.Key)

/-- Two books come, one of them again, which stops the second delivery; one is changed twice, and all but one go. -/
def inventory : List (KeyMap.Operation library.schema) :=
  let first : Book := ⟨"978-0", "It's \"here\"", -3, none⟩
  let second : Book := ⟨"978-1", "", 2, some "NULL"⟩
  let third : Book := ⟨"978-2", "?", 0, some ""⟩
  [.insert [first, second], .insert [third, first, second], .insertOne third,
    .update [{ second with copies := 1 }, ⟨"979", "", 0, none⟩, { second with copies := 0 }],
    .queryKey "978-1", .deleteKeys ["978-0", "979", "978-0"], .deleteRow third, .deleteKey "978-2", .clear]

theorem Table.performAll_inventory :
    library.schema.IsKeyed strictly ∧
      Serves (PlainTable.backend strictly library.active) strictly library.active (fun t => t) ∧
      library.schema.Represents ⟨books.definitions, []⟩ ∅ ∧
      (library.performAll (PlainTable.backend strictly library.active) inventory ⟨books.definitions, []⟩).1.map
        Except.toOption =
        [some (.count 2), none, none, some (.count 2), some (.row (some ⟨"978-1", "", 0, some "NULL"⟩)),
          some (.count 1), some (.flag true), some (.flag false), some (.count 1)] ∧
      library.schema.Represents
        (library.performAll (PlainTable.backend strictly library.active) inventory ⟨books.definitions, []⟩).2 ∅ := by
  have serves := PlainTable.serves strictly library.active
  have empty : library.schema.Represents ⟨books.definitions, []⟩ ∅ := ⟨[], ⟨rfl, rfl⟩, KeyMap.lists_empty⟩
  obtain ⟨answers, last⟩ := performAll_eq_applyAll books_isKeyed serves inventory empty
  refine ⟨books_isKeyed, serves, empty, answers.trans ?_, last⟩
  decide

end TypedTables
