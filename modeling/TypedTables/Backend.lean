import TypedTables.Cursor
import TypedTables.Plan
import TypedTables.Sql.Statement

/-!
# Backends

A backend is a store behind a fixed interface: it lists its tables and their columns, executes statements and
answers queries. Its state is of any type and changes with every call, and what it answers is not constrained, so
whatever holds for every backend holds however a store behaves. -/

namespace TypedTables

/-- A computation on the state of a store that may fail. The state stays what it has become also on failure. -/
abbrev Action (σ α : Type) := ExceptT Error (StateM σ) α

namespace Action

variable {σ α : Type}

/-- Runs an action on a state. -/
def runOn (x : Action σ α) (s : σ) : Except Error α × σ := x.run.run s

/-- An action given by its effect on the state. -/
def ofFn (f : σ → Except Error α × σ) : Action σ α := ExceptT.mk f

/-- An action that leaves the state alone. -/
def ofExcept (x : Except Error α) : Action σ α := ExceptT.mk (pure x)

/-- An action with its failure placed in an operation on a table. -/
def during (operation table : String) (x : Action σ α) : Action σ α :=
  ExceptT.mk do
    let result ← x.run
    pure (TypedTables.during operation table result)

/-! ### Running -/

variable {β : Type}

@[simp]
theorem runOn_pure (a : α) (s : σ) : (pure a : Action σ α).runOn s = (.ok a, s) := rfl

@[simp]
theorem runOn_ofFn (f : σ → Except Error α × σ) (s : σ) : (ofFn f).runOn s = f s := rfl

@[simp]
theorem runOn_ofExcept (x : Except Error α) (s : σ) : (ofExcept x).runOn s = (x, s) := rfl

@[simp]
theorem runOn_during (operation table : String) (x : Action σ α) (s : σ) :
    (x.during operation table).runOn s = (TypedTables.during operation table (x.runOn s).1, (x.runOn s).2) := rfl

/-- What follows an action runs on the state that the action left, and only if it did not fail. -/
theorem runOn_bind (x : Action σ α) (f : α → Action σ β) (s : σ) :
    (x >>= f).runOn s =
      match x.runOn s with
      | (.ok a, t) => (f a).runOn t
      | (.error e, t) => (.error e, t) := by
  show (ExceptT.bindCont f (x.runOn s).1).run (x.runOn s).2 = _
  rcases x.runOn s with ⟨_ | a, t⟩ <;> rfl

theorem runOn_bind_ok {x : Action σ α} {f : α → Action σ β} {s t : σ} {a : α} (h : x.runOn s = (.ok a, t)) :
    (x >>= f).runOn s = (f a).runOn t := by
  rw [runOn_bind, h]

theorem runOn_bind_error {x : Action σ α} {f : α → Action σ β} {s t : σ} {e : Error}
    (h : x.runOn s = (.error e, t)) : (x >>= f).runOn s = (.error e, t) := by
  rw [runOn_bind, h]

/-- What is made of an action's result is made where it did not fail. -/
theorem runOn_map (f : α → β) (x : Action σ α) (s : σ) :
    (f <$> x).runOn s = ((x.runOn s).1.map f, (x.runOn s).2) := by
  rw [map_eq_pure_bind, runOn_bind]
  rcases x.runOn s with ⟨_ | a, t⟩ <;> rfl

end Action

/-- A store with a state of type `σ`. -/
structure Backend (σ : Type) where
  /-- The backend's name in messages. -/
  name : String
  listTables : Action σ (List TableInfo)
  /-- The names of a table's columns in the order of declaration. -/
  listColumns : String → Action σ (List String)
  /-- Executes a statement and gives the number of rows it affected. -/
  execute : Statement → Action σ Nat
  /-- Answers a query. -/
  query : Statement → Action σ BufferedCursor

/-- A table of the name exists; a view does not count. -/
def Backend.tableExists {σ : Type} (backend : Backend σ) (name : String) : Action σ Bool := do
  let catalog ← backend.listTables
  pure (name ∈ Plan.tableNames catalog)

end TypedTables
