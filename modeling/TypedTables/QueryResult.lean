import TypedTables.Cursor
import TypedTables.Schema

/-!
# Results of queries

A result hands out the rows of a cursor one by one, each made by the schema. It releases the cursor once: when the
rows run out, when it is closed, or when it is dropped. A row that cannot be made is an error of its own and ends
nothing. -/

namespace TypedTables

/-- The rows of a query, to be made by a schema. -/
structure QueryResult {κ ρ : Type} [Kinds κ] (schema : Schema κ ρ) (γ : Type) where
  cursor : γ
  /-- The cursor has been released. -/
  isClosed : Bool := false

namespace QueryResult

variable {κ ρ γ : Type} [Kinds κ] {schema : Schema κ ρ} [RowCursor γ]

/-- Releases the cursor, unless it is released already. -/
def close (r : QueryResult schema γ) : QueryResult schema γ :=
  if r.isClosed then r else { r with cursor := RowCursor.close r.cursor, isClosed := true }

/-- The next row, or nothing when the rows have run out. -/
def next (r : QueryResult schema γ) : Except Error (Option ρ) × QueryResult schema γ :=
  if r.isClosed then (.ok none, r)
  else
    match RowCursor.advance r.cursor with
    | (.error e, c) => (.error e, { r with cursor := c })
    | (.ok false, c) => (.ok none, close { r with cursor := c })
    | (.ok true, c) => ((schema.materialise (RowCursor.read c)).map some, { r with cursor := c })

/-- The next row, if any; the result is closed with it. -/
def first (r : QueryResult schema γ) : Except Error (Option ρ) × QueryResult schema γ := (r.next.1, r.next.2.close)

/-- A row handed out is one that the cursor came to. -/
theorem next_some {r : QueryResult schema γ} {row : ρ} (h : r.next.1 = .ok (some row)) :
    (RowCursor.advance r.cursor).1 = .ok true ∧ r.next.2.cursor = (RowCursor.advance r.cursor).2 := by
  unfold next at h ⊢
  split at h
  · simp at h
  · split at h <;> simp_all

/-- The next row, or the failure to make it, as a step of an iteration; nothing at the end. -/
def step (r : QueryResult schema γ) : Option (Except Error ρ) × QueryResult schema γ :=
  match r.next with
  | (.ok none, s) => (none, s)
  | (.ok (some row), s) => (some (.ok row), s)
  | (.error e, s) => (some (.error e), s)

end QueryResult

namespace QueryResult

variable {κ ρ γ : Type} [Kinds κ] {schema : Schema κ ρ} [FiniteCursor γ]

/-- The rows to come, up to the first failure, and the result after the last step. -/
def drain (r : QueryResult schema γ) : Except Error (List ρ) × QueryResult schema γ :=
  match _h : r.next with
  | (.error e, s) => (.error e, s)
  | (.ok none, s) => (.ok [], s)
  | (.ok (some row), s) =>
    let (rest, t) := drain s
    (rest.map (row :: ·), t)
termination_by FiniteCursor.rowsLeft r.cursor
decreasing_by
  obtain ⟨hadvance, hcursor⟩ := @next_some κ ρ γ _ schema _ r row (by rw [_h])
  rw [_h] at hcursor
  rw [hcursor]
  exact FiniteCursor.rowsLeft_advance _ hadvance

/-- Every row to come; the result is closed. -/
def collect (r : QueryResult schema γ) : Except Error (List ρ) × QueryResult schema γ := (r.drain.1, r.drain.2.close)

end QueryResult

end TypedTables
