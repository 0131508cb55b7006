import TypedTables.Backend

/-!
# Recorded backends

A backend that answers as another one does and keeps the statements it was given, the failed ones included, in the
order in which they came. -/

namespace TypedTables

/-- The state of a store with the statements it was given. -/
structure Recorded (σ : Type) where
  inner : σ
  statements : List Statement := []

namespace Recorded

variable {σ α : Type}

/-- An action on the store itself. -/
def lift (x : Action σ α) : Action (Recorded σ) α :=
  .ofFn fun s =>
    let (result, inner) := x.runOn s.inner
    (result, { s with inner := inner })

/-- Notes a statement. -/
def note (statement : Statement) : Action (Recorded σ) Unit :=
  modify fun s => { s with statements := s.statements ++ [statement] }

end Recorded

/-- The backend with a record of its statements. -/
def Backend.recorded {σ : Type} (backend : Backend σ) : Backend (Recorded σ) where
  name := backend.name
  listTables := Recorded.lift backend.listTables
  listColumns table := Recorded.lift (backend.listColumns table)
  execute statement := do
    Recorded.note statement
    Recorded.lift (backend.execute statement)
  query statement := do
    Recorded.note statement
    Recorded.lift (backend.query statement)

end TypedTables
