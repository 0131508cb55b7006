import TypedTables.Error
import TypedTables.RootType

/-!
# Cursors

A cursor walks once over the rows of a query. `RowCursor` is what every cursor offers, whatever stands behind it;
`BufferedCursor` is a cursor over rows that are already there. -/

namespace TypedTables

/-- A forward-only walk over the rows of a query. -/
class RowCursor (γ : Type) where
  /-- Moves to the next row; false when there is none. -/
  advance : γ → Except Error Bool × γ
  /-- The column at a place of the row, in the form of a root type. -/
  read : γ → Nat → RootType → Except Error Value
  /-- The column at a place of the row is NULL. -/
  isNull : γ → Nat → Bool
  /-- Gives the cursor's resources back. Closing again does nothing more. -/
  close : γ → γ

/-- A cursor that comes to an end. -/
class FiniteCursor (γ : Type) extends RowCursor γ where
  /-- A bound on the rows to come. -/
  rowsLeft : γ → Nat
  rowsLeft_advance : ∀ c : γ, (advance c).1 = .ok true → rowsLeft (advance c).2 < rowsLeft c

/-- A cursor over rows that are there. -/
structure BufferedCursor where
  pending : List (List Value)
  /-- The row that is exposed. -/
  current : Option (List Value) := none
  closed : Bool := false
  deriving DecidableEq

namespace BufferedCursor

def ofRows (rows : List (List Value)) : BufferedCursor := { pending := rows }

/-- The cell at a place of the exposed row. -/
def cell? (c : BufferedCursor) (index : Nat) : Option Value := c.current.bind (·[index]?)

/-- Exposes the next row. -/
def advance (c : BufferedCursor) : Bool × BufferedCursor :=
  if c.closed then (false, c)
  else
    match c.pending with
    | [] => (false, { c with current := none })
    | row :: rows => (true, { c with pending := rows, current := some row })

/-- The cell at a place of the exposed row, in the form of a root type. -/
def read (c : BufferedCursor) (index : Nat) (root : RootType) : Except Error Value :=
  match c.cell? index with
  | some v => .ok (root.coerce v)
  | none => .error (.missingColumn index)

/-- The cell is NULL, or there is none. -/
def isNull (c : BufferedCursor) (index : Nat) : Bool := (c.cell? index).all Value.isNull

/-- Drops every row. -/
def close (_ : BufferedCursor) : BufferedCursor := { pending := [], current := none, closed := true }

instance : FiniteCursor BufferedCursor where
  advance c := (.ok c.advance.1, c.advance.2)
  read := read
  isNull := isNull
  close := close
  rowsLeft c := c.pending.length
  rowsLeft_advance c h := by
    unfold BufferedCursor.advance at h ⊢
    split at h
    · simp at h
    · split at h <;> simp_all

end BufferedCursor

end TypedTables
