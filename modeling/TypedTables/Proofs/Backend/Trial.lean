import TypedTables.Backend

/-!
# Backends on trial

Two ways to watch how a caller gets on with a backend. `journaled` keeps every call with its answer, in the order of
the calls. `faulty` lays down beforehand which statements fail, whatever the store would do with them; a statement
that fails so does not reach the store. -/

namespace TypedTables

/-- A call of a backend with its answer. -/
inductive Call where
  | listTables (answer : Except Error (List TableInfo))
  | listColumns (table : String) (answer : Except Error (List String))
  | execute (statement : Statement) (answer : Except Error Nat)
  | query (statement : Statement) (answer : Except Error BufferedCursor)

namespace Call

/-- The error of an answer. -/
def errorOf? {α : Type} : Except Error α → Option Error
  | .ok _ => none
  | .error e => some e

/-- Why the call failed, if it did. -/
def failure? : Call → Option Error
  | listTables answer => errorOf? answer
  | listColumns _ answer => errorOf? answer
  | execute _ answer => errorOf? answer
  | query _ answer => errorOf? answer

/-- The statement that the call executed, with its answer. -/
def executed? : Call → Option (Statement × Except Error Nat)
  | execute statement answer => some (statement, answer)
  | _ => none

/-- The table whose columns the call asked for, with the answer. -/
def read? : Call → Option (String × Except Error (List String))
  | listColumns table answer => some (table, answer)
  | _ => none

end Call

/-- The state of a store with the calls that were made of it. -/
structure Journaled (σ : Type) where
  inner : σ
  calls : List Call := []

namespace Journaled

variable {σ α : Type}

/-- A call of the store, noted with its answer. -/
def note (call : Except Error α → Call) (x : Action σ α) : Action (Journaled σ) α :=
  .ofFn fun s =>
    let (answer, inner) := x.runOn s.inner
    (answer, ⟨inner, s.calls ++ [call answer]⟩)

/-- The statements that were executed, with their answers. -/
def executed (s : Journaled σ) : List (Statement × Except Error Nat) := s.calls.filterMap Call.executed?

/-- The tables whose columns were asked for, with the answers. -/
def read (s : Journaled σ) : List (String × Except Error (List String)) := s.calls.filterMap Call.read?

theorem exists_statement {s : Journaled σ} {k : Nat} {answer : Except Error Nat}
    (h : (s.executed.map Prod.snd)[k]? = some answer) : ∃ statement, s.executed[k]? = some (statement, answer) := by
  rw [List.getElem?_map] at h
  obtain ⟨⟨statement, _⟩, executed, rfl⟩ := Option.map_eq_some_iff.mp h
  exact ⟨statement, executed⟩

theorem runOn_note {call : Except Error α → Call} {x : Action σ α} {s t : Journaled σ} {r : Except Error α}
    (h : (note call x).runOn s = (r, t)) :
    x.runOn s.inner = (r, t.inner) ∧ t.calls = s.calls ++ [call r] := by
  cases h
  exact ⟨rfl, rfl⟩

end Journaled

/-- The backend with a journal of its calls. -/
def Backend.journaled {σ : Type} (backend : Backend σ) : Backend (Journaled σ) where
  name := backend.name
  listTables := Journaled.note .listTables backend.listTables
  listColumns table := Journaled.note (.listColumns table) (backend.listColumns table)
  execute statement := Journaled.note (.execute statement) (backend.execute statement)
  query statement := Journaled.note (.query statement) (backend.query statement)

/-- The state of a store with the fate of the statements to come: the failure that one meets, or none. What comes
    after them is left to the store. -/
structure Faulty (σ : Type) where
  inner : σ
  faults : List (Option Error) := []

namespace Faulty

variable {σ α : Type}

/-- An action on the store itself. -/
def lift (x : Action σ α) : Action (Faulty σ) α :=
  .ofFn fun s =>
    let (answer, inner) := x.runOn s.inner
    (answer, { s with inner := inner })

/-- The next statement meets its fate: the failure that is laid down, or the store. -/
def meet (x : Action σ α) : Action (Faulty σ) α :=
  .ofFn fun s =>
    match s.faults with
    | some e :: rest => (.error e, ⟨s.inner, rest⟩)
    | faults =>
      let (answer, inner) := x.runOn s.inner
      (answer, ⟨inner, faults.tail⟩)

/-- A statement fails by what is laid down and leaves the store alone, or it is the store that answers. -/
theorem runOn_meet {x : Action σ α} {s t : Faulty σ} {r : Except Error α} (h : (meet x).runOn s = (r, t)) :
    (∃ e, r = .error e ∧ t.inner = s.inner) ∨ x.runOn s.inner = (r, t.inner) := by
  simp only [meet, Action.runOn_ofFn] at h
  split at h
  · cases h
    exact Or.inl ⟨_, rfl, rfl⟩
  · cases h
    exact Or.inr rfl

end Faulty

/-- The backend with failures that are laid down for its statements. -/
def Backend.faulty {σ : Type} (backend : Backend σ) : Backend (Faulty σ) where
  name := backend.name
  listTables := Faulty.lift backend.listTables
  listColumns table := Faulty.lift (backend.listColumns table)
  execute statement := Faulty.meet (backend.execute statement)
  query statement := Faulty.meet (backend.query statement)

end TypedTables
