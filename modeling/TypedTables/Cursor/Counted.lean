import TypedTables.Cursor

/-!
# Counted cursors

A cursor that walks as another one does and counts how often it has been closed. -/

namespace TypedTables

/-- A cursor with the number of times it has been closed. -/
structure Counted (γ : Type) where
  inner : γ
  closes : Nat := 0

instance {γ : Type} [FiniteCursor γ] : FiniteCursor (Counted γ) where
  advance c := ((RowCursor.advance c.inner).1, { c with inner := (RowCursor.advance c.inner).2 })
  read c := RowCursor.read c.inner
  isNull c := RowCursor.isNull c.inner
  close c := ⟨RowCursor.close c.inner, c.closes + 1⟩
  rowsLeft c := FiniteCursor.rowsLeft c.inner
  rowsLeft_advance c h := FiniteCursor.rowsLeft_advance c.inner h

end TypedTables
