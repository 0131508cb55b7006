import TypedTables.Proofs.PlainStore
import TypedTables.Proofs.Sql.Request

/-!
# What statements mean for a table

The meaning of the statements that change a table or ask for its rows, said of what is read of their texts. How values
compare is left open, and values are kept as they are given. A change that names a column the table lacks, or leaves
rows that break a constraint, is refused and changes nothing. The rows of a table have no order. `Serves` says that a
backend does to one of its tables what statements mean. -/

namespace TypedTables

open Sql (Condition Clause Operand)

/-- How values compare. -/
abbrev Comparing := Comparator → Value → Value → Truth

/-- The table that is changed. -/
def Change.table : Change → String
  | insert table .. => table
  | update table .. => table
  | delete table _ => table

namespace PlainTable

variable (compares : Comparing) (t : PlainTable)

/-! ### Conditions -/

/-- The value of an operand for a row. -/
def operand (row : List Value) : Operand → Value
  | .column _ label => t.cell row label
  | .number n => .integer (Int64.ofNat n)
  | .value b => b.value

/-- The truth of a comparison for a row. -/
def truth (row : List Value) (c : Clause) : Truth :=
  compares c.comparator (t.operand row c.left) (t.operand row c.right)

/-- A row is selected by a condition, and by none. -/
def selects (condition : Option Condition) (row : List Value) : Bool :=
  condition.all fun c => (c.eval (Clause.truth (t.truth compares row))).holds

/-- The operand is no column, or it is one of the table's, called with the table's name in front or without it. -/
def knows (name : String) : Operand → Bool
  | .column table label => table.all (· = name) && decide (label ∈ t.labels)
  | _ => true

/-- All columns of a condition are known. -/
def resolves (name : String) (condition : Option Condition) : Bool :=
  condition.all fun c => c.atoms.all fun clause => t.knows name clause.left && t.knows name clause.right

/-- The condition of a filter selects the rows of which the filter is true. -/
theorem selects_filter (name : String) (f : Filter) (row : List Value) :
    t.selects compares (some (f.condition (some name))) row =
      (f.eval fun c => t.truth compares row (c.clause (some name))).holds :=
  congrArg Truth.holds (f.eval_condition (t.truth compares row) (some name))

/-- The condition of a filter resolves where the columns of the filter are there. -/
theorem resolves_filter {t : PlainTable} {f : Filter} (there : ∀ c ∈ f.atoms, c.column.label ∈ t.labels)
    (name : String) : t.resolves name (some (f.condition (some name))) := by
  rw [resolves, Option.all_some, List.all_eq_true]
  intro clause stated
  rcases Filter.mem_atoms_condition stated with ⟨c, hc, rfl⟩ | ⟨m, n, rfl⟩
  · simp [Comparison.clause, knows, there c hc]
  · rfl

/-! ### Changes -/

/-- The rows keep to the constraints of the columns: those of a primary key differ and none is NULL. -/
structure IsSound : Prop where
  unique : ∀ column ∈ t.columns, column.primaryKey ∨ .unique ∈ column.rules →
    t.rows.Pairwise fun row other => compares .equal (t.cell row column.label) (t.cell other column.label) ≠ .yes
  filled : ∀ column ∈ t.columns, column.primaryKey ∨ .notNull ∈ column.rules →
    ∀ row ∈ t.rows, t.cell row column.label ≠ .null

instance : Decidable (t.IsSound compares) :=
  decidable_of_iff (_ ∧ _) ⟨fun h => ⟨h.1, h.2⟩, fun h => And.intro h.unique h.filled⟩

/-- Other rows with the number of rows affected, if they keep to the constraints. -/
def keep (affected : Nat) (rows : List (List Value)) : Option (Nat × PlainTable) :=
  if IsSound compares { t with rows := rows } then some (affected, { t with rows := rows }) else none

/-- The columns can be given values: they are there, and none is listed twice. -/
def Accepts (labels : List String) : Prop := labels.Nodup ∧ ∀ label ∈ labels, label ∈ t.labels

instance (labels : List String) : Decidable (t.Accepts labels) := inferInstanceAs (Decidable (_ ∧ _))

/-- A row with the values that are given, and with something else in the other columns. -/
def rowOf (cells : List (String × Binding)) (otherwise : ColumnDef → Value) : List Value :=
  t.columns.map fun column => (cells.lookup column.label).elim (otherwise column) Binding.value

/-- A row with the values that are given in the place of those it has. -/
def changed (cells : List (String × Binding)) (row : List Value) : List Value :=
  t.rowOf cells fun column => t.cell row column.label

/-- The number of rows that a change affects and the table after it, or nothing where it is refused. -/
def carryOut : Change → Option (Nat × PlainTable)
  | .insert _ labels values =>
    if t.Accepts labels ∧ labels.length = values.length then
      t.keep compares 1 (t.rows ++ [t.rowOf (labels.zip values) ColumnDef.initial])
    else none
  | .update name cells condition =>
    if t.Accepts (cells.map Prod.fst) ∧ t.resolves name condition then
      t.keep compares (t.rows.countP (t.selects compares condition))
        (t.rows.map fun row => if t.selects compares condition row then t.changed cells row else row)
    else none
  | .delete name condition =>
    if t.resolves name condition then
      some (t.rows.countP (t.selects compares condition),
        { t with rows := t.rows.filter fun row => !t.selects compares condition row })
    else none

/-! ### Inquiries -/

/-- All that an inquiry names is known, and its limit is an integer. -/
def understands (i : Inquiry) : Bool :=
  i.columns.all (fun column => t.knows i.source (.column column.1 column.2)) && t.resolves i.source i.condition &&
    i.limit.all (·.value.integer?.isSome)

/-- Some columns of a row. -/
def project (columns : List (Option String × String)) (row : List Value) : List Value :=
  columns.map fun column => t.cell row column.2

/-- The first rows, as many as a limit allows. One below zero allows them all. -/
def capped (limit : Option Binding) (rows : List (List Value)) : List (List Value) :=
  match limit.bind (·.value.integer?) with
  | some n => if n < 0 then rows else rows.take n.toInt.toNat
  | none => rows

/-- The rows are what an inquiry asks for. It does not ask for an order. -/
def IsAnswer (i : Inquiry) (rows : List (List Value)) : Prop :=
  ∃ selected : List (List Value), selected.Perm (t.rows.filter (t.selects compares i.condition)) ∧
    rows = capped i.limit (selected.map (t.project i.columns))

end PlainTable

/-! ### Backends that do what statements mean -/

/-- A backend does what the statements on one of its tables mean, the table being seen through a view of the backend's
    state. What it does with other statements is left open. -/
structure Serves {σ : Type} (backend : Backend σ) (compares : Comparing) (name : String) (view : σ → PlainTable) :
    Prop where
  executed : ∀ {statement : Statement} {change : Change} {s : σ} {n : Nat} {after : PlainTable},
    Change.read? statement.compiled = some change → change.table = name →
    (view s).carryOut compares change = some (n, after) →
    ∃ t, (backend.execute statement).runOn s = (.ok n, t) ∧ (view t).columns = after.columns ∧
      (view t).rows.Perm after.rows
  refused : ∀ {statement : Statement} {change : Change} {s : σ},
    Change.read? statement.compiled = some change → change.table = name →
    (view s).carryOut compares change = none →
    ∃ e t, (backend.execute statement).runOn s = (.error e, t) ∧ view t = view s
  queried : ∀ {statement : Statement} {i : Inquiry} {s : σ},
    Inquiry.read? statement.compiled = some i → i.source = name → (view s).understands i →
    ∃ rows t, (backend.query statement).runOn s = (.ok (.ofRows rows), t) ∧ (view s).IsAnswer compares i rows ∧
      view t = view s

namespace PlainTable

/-- A plain table under a name as a backend. It reads the texts of statements and does what they mean. -/
def backend (compares : Comparing) (name : String) : Backend PlainTable where
  name := "Plain table"
  listTables := .ofFn fun t => (.ok [⟨name, .table⟩], t)
  listColumns other := .ofFn fun t => (.ok (if other = name then t.labels else []), t)
  execute statement := .ofFn fun t =>
    match (Change.read? statement.compiled).filter (·.table = name) with
    | none => (.error (.statement statement.text (Refusal.fault (.unexpected statement.text)).message), t)
    | some change =>
      match t.carryOut compares change with
      | none => (.error (.statement statement.text "constraint failed"), t)
      | some (n, after) => (.ok n, after)
  query statement := .ofFn fun t =>
    match (Inquiry.read? statement.compiled).filter (·.source = name) with
    | none => (.error (.statement statement.text Refusal.givesRows.message), t)
    | some i =>
      (.ok (.ofRows (capped i.limit ((t.rows.filter (t.selects compares i.condition)).map (t.project i.columns)))), t)

theorem serves (compares : Comparing) (name : String) :
    Serves (PlainTable.backend compares name) compares name fun t => t where
  executed {statement change s n after} read same carried := by
    refine ⟨after, ?_, rfl, .rfl⟩
    simp [PlainTable.backend, read, Option.filter, same, carried]
  refused {statement change s} read same carried := by
    refine ⟨.statement statement.text "constraint failed", s, ?_, rfl⟩
    simp [PlainTable.backend, read, Option.filter, same, carried]
  queried {statement i s} read same _ := by
    refine ⟨_, s, ?_, ⟨_, .rfl, rfl⟩, rfl⟩
    simp [PlainTable.backend, read, Option.filter, same]

end PlainTable

end TypedTables
