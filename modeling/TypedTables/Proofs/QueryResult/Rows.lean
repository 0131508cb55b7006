import TypedTables.Proofs.RoundTrip

/-!
# Rows one by one

A result makes each row from the cells of that row alone (`Schema.ofStored`). A call answers about the row that is next,
whatever has become of the rows before it: a row that cannot be made is neither skipped nor handed out again, and only
the end of the rows closes the result. The calls, those of an iteration, collecting and taking the first row all go
through one step, and so agree on every row (`pulled_ofRows`). -/

namespace TypedTables

variable {κ ρ : Type} [Kinds κ]

/-- The component of a field that a stored row has at a place. -/
def Field.ofStored {α : Type} (field : Field ρ α) (place : Nat) (stored : List Value) : Except Error α :=
  match stored[place]? with
  | none => .error (.missingColumn place)
  | some raw => (field.type.decode (field.type.root.coerce raw)).mapError fun e => .decode field.label e.message

def Column.ofStored (column : Column κ ρ) (place : Nat) (stored : List Value) : Except Error (Item κ) :=
  (column.field.ofStored place stored).map (Item.mk column.kind)

/-- The row that stored cells make. The key is in the first cell and the other components follow in the order of their
    columns; the leftmost cell that is lacking or is not of its column's type is the failure, and then the factory's. -/
def Schema.ofStored (schema : Schema κ ρ) (stored : List Value) : Except Error ρ := do
  let key ← schema.key.field.ofStored 0 stored
  let items ← (schema.fields.zipIdx 1).mapM fun (column, place) => column.ofStored place stored
  schema.build key items

/-! ### Cells of the exposed row -/

section
variable {cursor : BufferedCursor} {stored : List Value}

theorem Field.read_eq {α : Type} (current : cursor.current = some stored) (field : Field ρ α) (place : Nat) :
    (cursor.read place field.type.root >>= fun raw =>
      (field.type.decode raw).mapError (Schema.decodeFailure field.label)) = field.ofStored place stored := by
  have cell : cursor.cell? place = stored[place]? := by rw [BufferedCursor.cell?, current, Option.bind_some]
  rw [BufferedCursor.read, cell, ofStored]
  cases stored[place]? <;> rfl

theorem Column.read_eq (current : cursor.current = some stored) (column : Column κ ρ) (place : Nat) :
    (cursor.read place column.root >>= fun raw =>
      (column.decode raw).mapError (Schema.decodeFailure column.label)) = column.ofStored place stored := by
  rw [ofStored, ← column.field.read_eq current, root]
  cases cursor.read place column.field.type.root with
  | error e => rfl
  | ok raw =>
    show ((column.field.type.decode raw).map _).mapError _ = ((column.field.type.decode raw).mapError _).map _
    cases column.field.type.decode raw <;> rfl

theorem Schema.readItems_eq (current : cursor.current = some stored) (place : Nat) (columns : List (Column κ ρ)) :
    readItems cursor.read place columns =
      (columns.zipIdx place).mapM fun (column, place) => column.ofStored place stored := by
  induction columns generalizing place with
  | nil => rfl
  | cons column columns ih =>
    rw [List.zipIdx_cons, List.mapM_cons, ← ih]
    show _ = (column.ofStored place stored >>= _)
    rw [← column.read_eq current, bind_assoc]
    rfl

/-- A cursor that exposes a row has the row made of its cells. -/
theorem Schema.materialise_eq (schema : Schema κ ρ) (current : cursor.current = some stored) :
    schema.materialise cursor.read = schema.ofStored stored := by
  rw [materialise, ofStored, readItems_eq current, ← schema.key.field.read_eq current, bind_assoc]
  rfl

end

namespace QueryResult

/-! ### Calls -/

/-- A step towards the next row, by itself or in an iteration. -/
inductive Pull where
  | next
  | step

/-- What a result answers. -/
inductive Answer (ρ : Type) where
  | row (row : Except Error (Option ρ))
  | item (item : Option (Except Error ρ))
  | rows (rows : Except Error (List ρ))
  | nothing

/-- What a pull answers about a row that was made or could not be made, or about the end of the rows. -/
def Pull.answer : Pull → Option (Except Error ρ) → Answer ρ
  | next, made => .row (made.elim (.ok none) (Except.map some))
  | step, made => .item made

section
variable {γ : Type} {schema : Schema κ ρ} [RowCursor γ]

def Pull.run (pull : Pull) (r : QueryResult schema γ) : Answer ρ × QueryResult schema γ :=
  match pull with
  | next => (.row r.next.1, r.next.2)
  | step => (.item r.step.1, r.step.2)

/-- Pulls one after the other: every answer, with whether the result is closed then, and the result behind the last. -/
def pulled (r : QueryResult schema γ) : List Pull → List (Answer ρ × Bool) × QueryResult schema γ
  | [] => ([], r)
  | pull :: pulls =>
    let (answer, s) := pull.run r
    let (answers, t) := pulled s pulls
    ((answer, s.isClosed) :: answers, t)

theorem Pull.run_of_next {r s : QueryResult schema γ} {made : Option (Except Error ρ)}
    (h : r.next = (made.elim (.ok none) (Except.map some), s)) (pull : Pull) : pull.run r = (pull.answer made, s) := by
  cases pull with
  | next => rw [run, h]; rfl
  | step =>
    rw [run, QueryResult.step, h]
    rcases made with _ | _ | _ <;> rfl

end

/-! ### Rows behind a cursor -/

variable {schema : Schema κ ρ} {r : QueryResult schema BufferedCursor} {rows : List (List Value)}

/-- The result has yet to come to these rows. -/
inductive Awaits : QueryResult schema BufferedCursor → List (List Value) → Prop where
  | opened (current : Option (List Value)) (rows : List (List Value)) : Awaits { cursor := ⟨rows, current, false⟩ } rows
  | closed {r : QueryResult schema BufferedCursor} (h : r.isClosed = true) : Awaits r []

/-- A step takes one row off those to come, whether it can be made or not. -/
theorem Awaits.next (h : Awaits r rows) : ∃ s, Awaits s rows.tail ∧ s.isClosed = rows.isEmpty ∧
    r.next = ((rows.head?.map schema.ofStored).elim (.ok none) (Except.map some), s) := by
  cases h with
  | closed h =>
    refine ⟨r, .closed h, h, ?_⟩
    rw [QueryResult.next, if_pos h]
    rfl
  | opened current =>
    cases rows with
    | nil => exact ⟨_, .closed rfl, rfl, rfl⟩
    | cons stored rows =>
      refine ⟨_, .opened (some stored) rows, rfl, ?_⟩
      have made : schema.materialise (BufferedCursor.read ⟨rows, some stored, false⟩) = schema.ofStored stored :=
        schema.materialise_eq rfl
      exact Prod.ext (congrArg (Except.map some) made) rfl

theorem Awaits.pulled (h : Awaits r rows) (pulls : List Pull) :
    Awaits (r.pulled pulls).2 (rows.drop pulls.length) ∧
      (r.pulled pulls).1 = pulls.mapIdx fun k pull =>
        (pull.answer (rows[k]?.map schema.ofStored), decide (rows.length ≤ k)) := by
  induction pulls generalizing r rows with
  | nil => exact ⟨h, rfl⟩
  | cons pull pulls ih =>
    obtain ⟨s, behind, ended, step⟩ := h.next
    obtain ⟨last, answers⟩ := ih behind
    have run := Pull.run_of_next step pull
    refine ⟨?_, ?_⟩
    · rw [QueryResult.pulled, run, List.length_cons, ← List.drop_tail]
      exact last
    · rw [QueryResult.pulled, run, List.mapIdx_cons]
      have closed : s.isClosed = decide (rows.length ≤ 0) := by
        rw [ended]
        cases rows <;> rfl
      -- The other pulls are numbered from one and the rows behind them from zero.
      have others : (s.pulled pulls).1 = pulls.mapIdx fun k pull =>
          (pull.answer (rows[k + 1]?.map schema.ofStored), decide (rows.length ≤ k + 1)) := by
        refine answers.trans (congrArg (List.mapIdx · pulls) (funext fun k => funext fun pull => ?_))
        rw [List.getElem?_tail, List.length_tail]
        exact Prod.ext rfl (decide_eq_decide.mpr (by omega))
      rw [← List.head?_eq_getElem?, ← closed, ← others]

theorem Awaits.drain (h : Awaits r rows) : r.drain.1 = rows.mapM schema.ofStored := by
  induction rows generalizing r with
  | nil =>
    obtain ⟨s, -, -, step⟩ := h.next
    rw [drain_of_none step]
    rfl
  | cons stored rows ih =>
    obtain ⟨s, behind, -, step⟩ := h.next
    rw [List.mapM_cons]
    have step : r.next = ((schema.ofStored stored).map some, s) := step
    cases made : schema.ofStored stored with
    | error e =>
      rw [made] at step
      rw [drain_of_error step]
      rfl
    | ok row =>
      rw [made] at step
      rw [drain_of_some step, ih behind]
      cases rows.mapM schema.ofStored <;> rfl

/-- The `k`-th pull answers about the `k`-th row, and closes the result if there is none. Then all rows that are left
    are collected, up to the first that cannot be made, or the next one is taken. -/
theorem pulled_ofRows (schema : Schema κ ρ) (rows : List (List Value)) (pulls : List Pull) :
    ((ofRows schema rows).pulled pulls).1 = (pulls.mapIdx fun k pull =>
        (pull.answer (rows[k]?.map schema.ofStored), decide (rows.length ≤ k))) ∧
      ((ofRows schema rows).pulled pulls).2.collect.1 = (rows.drop pulls.length).mapM schema.ofStored ∧
      ((ofRows schema rows).pulled pulls).2.first.1 =
        rows[pulls.length]?.elim (.ok none) fun stored => (schema.ofStored stored).map some := by
  have opened : (ofRows schema rows).Awaits rows := .opened none rows
  obtain ⟨last, answers⟩ := opened.pulled pulls
  refine ⟨answers, last.drain, ?_⟩
  obtain ⟨s, -, -, step⟩ := last.next
  rw [first, step, List.head?_drop]
  cases rows[pulls.length]? <;> rfl

end QueryResult

end TypedTables
