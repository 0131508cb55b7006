/-!
# Splitting a text at a marker

Where a marker first and last occurs in a text, and the two texts on its sides. -/

namespace TypedTables.Text

/-- What follows the given start of a text, if the text starts so. -/
def stripStart? (start s : List Char) : Option (List Char) :=
  match start, s with
  | [], s => some s
  | _ :: _, [] => none
  | a :: start, c :: s => if a = c then stripStart? start s else none

/-- The texts before and after the first occurrence of the marker. -/
def splitFirst (marker : List Char) : List Char → Option (List Char × List Char)
  | [] => (stripStart? marker []).map fun rest => ([], rest)
  | c :: s =>
    match stripStart? marker (c :: s) with
    | some rest => some ([], rest)
    | none => (splitFirst marker s).map fun r => (c :: r.1, r.2)

/-- The texts before and after the last occurrence of the marker. -/
def splitLast (marker : List Char) : List Char → Option (List Char × List Char)
  | [] => (stripStart? marker []).map fun rest => ([], rest)
  | c :: s =>
    match splitLast marker s with
    | some r => some (c :: r.1, r.2)
    | none => (stripStart? marker (c :: s)).map fun rest => ([], rest)

theorem stripStart?_eq_some {start s rest : List Char} : stripStart? start s = some rest ↔ s = start ++ rest := by
  induction start generalizing s with
  | nil => simp [stripStart?, eq_comm]
  | cons a start ih =>
    cases s with
    | nil => simp [stripStart?]
    | cons c s =>
      by_cases h : a = c
      · simp [stripStart?, h, ih]
      · simp [stripStart?, h, Ne.symm h]

@[simp]
theorem stripStart?_append (start rest : List Char) : stripStart? start (start ++ rest) = some rest :=
  stripStart?_eq_some.mpr rfl

theorem splitFirst_eq {marker s before after : List Char} (h : splitFirst marker s = some (before, after)) :
    s = before ++ marker ++ after := by
  induction s generalizing before with
  | nil =>
    obtain ⟨rest, hrest, he⟩ := Option.map_eq_some_iff.mp h
    obtain ⟨rfl, rfl⟩ := Prod.mk.inj he
    simpa using stripStart?_eq_some.mp hrest
  | cons c s ih =>
    rw [splitFirst] at h
    split at h
    · next rest hrest =>
      obtain ⟨rfl, rfl⟩ := Prod.mk.inj (Option.some.inj h)
      simpa using stripStart?_eq_some.mp hrest
    · obtain ⟨r, hr, he⟩ := Option.map_eq_some_iff.mp h
      obtain ⟨rfl, rfl⟩ := Prod.mk.inj he
      simp [ih hr]

theorem splitLast_eq {marker s before after : List Char} (h : splitLast marker s = some (before, after)) :
    s = before ++ marker ++ after := by
  induction s generalizing before with
  | nil =>
    obtain ⟨rest, hrest, he⟩ := Option.map_eq_some_iff.mp h
    obtain ⟨rfl, rfl⟩ := Prod.mk.inj he
    simpa using stripStart?_eq_some.mp hrest
  | cons c s ih =>
    rw [splitLast] at h
    split at h
    · next r hr =>
      obtain ⟨rfl, rfl⟩ := Prod.mk.inj (Option.some.inj h)
      simp [ih hr]
    · obtain ⟨rest, hrest, he⟩ := Option.map_eq_some_iff.mp h
      obtain ⟨rfl, rfl⟩ := Prod.mk.inj he
      simpa using stripStart?_eq_some.mp hrest

/-! ### The same on strings -/

/-- `stripStart?` on strings. -/
def dropStart? (start s : String) : Option String := (stripStart? start.toList s.toList).map String.ofList

/-- `splitFirst` on strings. -/
def cutFirst (marker s : String) : Option (String × String) :=
  (splitFirst marker.toList s.toList).map fun r => (String.ofList r.1, String.ofList r.2)

/-- The text occurs somewhere in `s`. -/
def occursIn (part s : String) : Bool := (splitFirst part.toList s.toList).isSome

end TypedTables.Text
