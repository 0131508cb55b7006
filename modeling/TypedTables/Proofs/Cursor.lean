import Mathlib.Data.List.Induction
import TypedTables.Proofs.FieldType.Coercion

/-!
# One pass over rows

What a cursor over rows answers is told by its history: whether it has been closed, and how often it has been advanced.
Until it is closed the k-th advance comes to the k-th row, and to nothing when the rows have run out; a close ends the
walk for good, and reading changes nothing (`BufferedCursor.walk_ofRows`). A cell is NULL where it is read as NULL,
whatever root type it is read for, since no column makes NULL of anything else. -/

namespace TypedTables

namespace RowCursor

variable {γ : Type} [RowCursor γ]

inductive Call where
  | advance
  | read (place : Nat) (root : RootType)
  | isNull (place : Nat)
  | close
  deriving DecidableEq

/-- The cursor behind a call. -/
def Call.next (c : γ) : Call → γ
  | advance => (RowCursor.advance c).2
  | read _ _ => c
  | isNull _ => c
  | close => RowCursor.close c

def after (c : γ) (calls : List Call) : γ := calls.foldl Call.next c

theorem after_concat (c : γ) (calls : List Call) (call : Call) : after c (calls ++ [call]) = call.next (after c calls) :=
  List.foldl_concat ..

/-- The cursor reads the cells of the row, each in the form of the root type that it is read for. What is no cell of the
    row counts as NULL. -/
structure Exposes (c : γ) (row : Option (List Value)) : Prop where
  read : ∀ place root, RowCursor.read c place root =
    match row.bind (·[place]?) with
    | some v => .ok (root.coerce v)
    | none => .error (.missingColumn place)
  isNull : ∀ place root, RowCursor.isNull c place = true ↔
    (∃ e, RowCursor.read c place root = .error e) ∨ RowCursor.read c place root = .ok .null

end RowCursor

namespace BufferedCursor

open RowCursor (Call after Exposes)

theorem exposes (c : BufferedCursor) : Exposes c c.current where
  read _ _ := rfl
  isNull place root := by
    show (c.cell? place).all Value.isNull = true ↔ (∃ e, c.read place root = .error e) ∨ c.read place root = .ok .null
    rw [read]
    cases c.cell? place with
    | none => simp
    | some v => simp [Value.isNull_iff, RootType.coerce_eq_null_iff]

theorem advance_eq (c : BufferedCursor) : RowCursor.advance c = (.ok c.advance.1, c.advance.2) := rfl

theorem advance_of_open (pending : List (List Value)) (current : Option (List Value)) :
    advance ⟨pending, current, false⟩ = (pending.head?.isSome, ⟨pending.tail, pending.head?, false⟩) := by
  cases pending <;> rfl

variable {rows : List (List Value)} {calls : List Call}

/-- The row that is exposed behind the calls: that of the last advance, until a close. -/
def exposed? (rows : List (List Value)) (calls : List Call) : Option (List Value) :=
  if .close ∈ calls then none
  else
    match calls.count .advance with
    | 0 => none
    | k + 1 => rows[k]?

/-- The cursor that has come to where the calls have led. -/
def behind (rows : List (List Value)) (calls : List Call) : BufferedCursor :=
  ⟨if .close ∈ calls then [] else rows.drop (calls.count .advance), exposed? rows calls, decide (.close ∈ calls)⟩

theorem behind_of_closed (closed : .close ∈ calls) : behind rows calls = ⟨[], none, true⟩ := by
  simp [behind, exposed?, closed]

theorem behind_of_open (opened : .close ∉ calls) :
    behind rows calls = ⟨rows.drop (calls.count .advance), exposed? rows calls, false⟩ := by
  simp [behind, opened]

theorem advance_behind (opened : .close ∉ calls) : advance (behind rows calls) =
    (rows[calls.count .advance]?.isSome,
      ⟨rows.drop (calls.count .advance + 1), rows[calls.count .advance]?, false⟩) := by
  rw [behind_of_open opened, advance_of_open, List.head?_drop, List.tail_drop]

theorem next_behind (rows : List (List Value)) (calls : List Call) (call : Call) :
    call.next (behind rows calls) = behind rows (calls ++ [call]) := by
  cases call with
  | advance =>
    rw [Call.next, advance_eq]
    by_cases opened : .close ∉ calls
    · have still : .close ∉ calls ++ [.advance] := by simpa using opened
      rw [advance_behind opened, behind_of_open still, exposed?, if_neg still]
      simp
    · have closed := Decidable.not_not.mp opened
      rw [behind_of_closed closed, behind_of_closed (List.mem_append_left _ closed)]
      rfl
  | read | isNull => simp [Call.next, behind, exposed?]
  | close =>
    rw [behind_of_closed (List.mem_append_right _ List.mem_cons_self)]
    rfl

theorem after_ofRows (rows : List (List Value)) (calls : List Call) : after (ofRows rows) calls = behind rows calls := by
  induction calls using List.reverseRecOn with
  | nil => rfl
  | append_singleton calls call ih => rw [RowCursor.after_concat, ih, next_behind]

/-- Until the cursor is closed an advance comes to the row whose number is that of the advances before, if there is such
    a row, and exposes it; from the first close on there is none. What is read is of the row of the last advance. -/
theorem walk_ofRows (rows : List (List Value)) (calls : List Call) :
    (.close ∉ calls →
        (RowCursor.advance (after (ofRows rows) calls)).1 = .ok rows[calls.count .advance]?.isSome ∧
          Exposes (RowCursor.advance (after (ofRows rows) calls)).2 rows[calls.count .advance]?) ∧
      (.close ∈ calls →
        (RowCursor.advance (after (ofRows rows) calls)).1 = .ok false ∧
          Exposes (RowCursor.advance (after (ofRows rows) calls)).2 none) ∧
      Exposes (after (ofRows rows) calls) (exposed? rows calls) ∧
      ∀ place root, after (ofRows rows) (calls ++ [.read place root]) = after (ofRows rows) calls ∧
        after (ofRows rows) (calls ++ [.isNull place]) = after (ofRows rows) calls := by
  rw [after_ofRows]
  refine ⟨fun opened => ?_, fun closed => ?_, exposes _, fun place root => ?_⟩
  · rw [advance_eq, advance_behind opened]
    exact ⟨rfl, exposes _⟩
  · rw [behind_of_closed closed]
    exact ⟨rfl, exposes _⟩
  · rw [RowCursor.after_concat, RowCursor.after_concat, after_ofRows]
    exact ⟨rfl, rfl⟩

end BufferedCursor

end TypedTables
