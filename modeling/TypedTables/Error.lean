/-!
# Errors

Everything that can go wrong between a typed table and its store. An error says its cause; the wording is in one
place, `Error.message`. A failure inside an operation on a table is wrapped once per operation, and the innermost
error stays reachable as the root cause. -/

namespace TypedTables

inductive Error where
  /-- The store cannot be opened. -/
  | openFailed (path reason : String)
  /-- The store rejects a statement. -/
  | statement (statement reason : String)
  /-- An operation on a table failed because of `source`. -/
  | failed (operation table : String) (source : Error)
  /-- The store holds a newer version of the table than the schema. -/
  | versionConflict (table : String) (target found : Int32)
  | invalidVersion (version : Int32)
  /-- The table to migrate from lacks the column of the primary key. -/
  | missingPrimaryKey (table column : String)
  /-- A column that must be filled has no default and the table to migrate from lacks it. -/
  | unfillableColumn (table column : String)
  /-- A stored value is not one of the column's type. -/
  | decode (column reason : String)
  | missingColumn (index : Nat)
  | emptyIndex (name : String)
  | unsupportedOperator (flags : UInt8)
  | duplicateColumn (label : String)
  | unknownField (label : String)
  /-- The field is not of the type it was asked for as. -/
  | fieldTypeMismatch (label wanted : String)
  /-- The value handed to a row's factory is not of the type it was taken as. -/
  | factoryMismatch (index : Nat) (wanted : String)
  deriving DecidableEq, Inhabited

namespace Error

/-- Operator flags as a binary number of at least three digits. -/
def flagText (flags : UInt8) : String :=
  let digits := Nat.toDigits 2 flags.toNat
  "0b" ++ String.ofList (List.replicate (3 - digits.length) '0' ++ digits)

/-- The wording of an error. -/
def message : Error → String
  | openFailed path reason => "Failed to open database '" ++ path ++ "': " ++ reason
  | statement text reason => "Statement failed: " ++ reason ++ "\n  statement: " ++ text
  | failed operation table source => "Failed to " ++ operation ++ " on '" ++ table ++ "': " ++ source.message
  | versionConflict table target found =>
    "Schema version conflict on '" ++ table ++ "': target is v" ++ toString target.toInt ++ " but found v" ++
      toString found.toInt ++ " in storage"
  | invalidVersion version =>
    "Invalid schema version " ++ toString version.toInt ++ ": use -1 to always migrate or a non-negative number"
  | missingPrimaryKey table column =>
    "Source table '" ++ table ++ "' has no primary key column '" ++ column ++ "'"
  | unfillableColumn table column =>
    "Column '" ++ column ++ "' is NOT NULL without a default and does not exist in source table '" ++ table ++ "'"
  | decode column reason => "Failed to decode column '" ++ column ++ "': " ++ reason
  | missingColumn index => "Missing column " ++ toString index ++ " in query result"
  | emptyIndex name => "Index '" ++ name ++ "' must have at least one filter, ordering or field"
  | unsupportedOperator flags => "Unsupported comparison operator flags " ++ flagText flags
  | duplicateColumn label => "Column label '" ++ label ++ "' is declared more than once"
  | unknownField label => "No such field with label '" ++ label ++ "'"
  | fieldTypeMismatch label wanted => "Field '" ++ label ++ "' is not of type " ++ wanted
  | factoryMismatch index wanted => "Row factory expected field " ++ toString index ++ " to be " ++ wanted

/-- The innermost error, without the operations it happened in. -/
def rootCause : Error → Error
  | failed _ _ source => source.rootCause
  | e => e

/-- Stored data could not be decoded, as opposed to a failure of the store. -/
def isDecode (e : Error) : Bool :=
  match e.rootCause with
  | decode _ _ => true
  | _ => false

/-- The error that this one wraps. -/
def source? : Error → Option Error
  | failed _ _ source => some source
  | _ => none

end Error

/-- A computation with its failure placed in an operation on a table. -/
def during {α : Type} (operation table : String) (x : Except Error α) : Except Error α :=
  x.mapError (Error.failed operation table)

/-- What is made of a result does not fail unless the result does. -/
theorem eq_error_of_map {ε α β : Type} {x : Except ε α} {f : α → β} {e : ε} (h : x.map f = .error e) :
    x = .error e := by
  cases x with
  | error e' =>
    cases h
    rfl
  | ok a => cases h

/-- What is made of a result is made of one that did not fail. -/
theorem eq_ok_of_map {ε α β : Type} {x : Except ε α} {f : α → β} {b : β} (h : x.map f = .ok b) :
    ∃ a, x = .ok a ∧ f a = b := by
  cases x with
  | error e => cases h
  | ok a =>
    cases h
    exact ⟨a, rfl, rfl⟩

/-- A computation ends well in its first part and in what follows. -/
theorem eq_ok_of_bind {ε α β : Type} {x : Except ε α} {f : α → Except ε β} {b : β} (h : x >>= f = .ok b) :
    ∃ a, x = .ok a ∧ f a = .ok b := by
  cases x with
  | error e => cases h
  | ok a => exact ⟨a, rfl, h⟩

/-- A computation fails in its first part or in what follows. -/
theorem eq_error_of_bind {ε α β : Type} {x : Except ε α} {f : α → Except ε β} {e : ε} (h : x >>= f = .error e) :
    x = .error e ∨ ∃ a, x = .ok a ∧ f a = .error e := by
  cases x with
  | error e' =>
    cases h
    exact Or.inl rfl
  | ok a => exact Or.inr ⟨a, rfl, h⟩

/-! ### Walks over lists -/

section
variable {ε α β : Type} {f : α → Except ε β} {members : List α}

/-- A walk over a list passes where each of its members does. -/
theorem exists_mapM_iff : (∃ made, members.mapM f = .ok made) ↔ ∀ a ∈ members, ∃ b, f a = .ok b := by
  induction members with
  | nil => exact ⟨fun _ _ => (nomatch ·), fun _ => ⟨[], rfl⟩⟩
  | cons a members ih =>
    rw [List.mapM_cons, List.forall_mem_cons, ← ih]
    constructor
    · rintro ⟨made, h⟩
      obtain ⟨b, first, h⟩ := eq_ok_of_bind h
      obtain ⟨others, rest, -⟩ := eq_ok_of_bind h
      exact ⟨⟨b, first⟩, others, rest⟩
    · rintro ⟨⟨b, first⟩, others, rest⟩
      rw [first, rest]
      exact ⟨b :: others, rfl⟩

theorem mem_of_mapM {made : List β} (h : members.mapM f = .ok made) {a : α} (among : a ∈ members) :
    ∃ b ∈ made, f a = .ok b := by
  induction members generalizing made with
  | nil => cases among
  | cons first members ih =>
    rw [List.mapM_cons] at h
    obtain ⟨b, hb, h⟩ := eq_ok_of_bind h
    obtain ⟨others, rest, h⟩ := eq_ok_of_bind h
    cases h
    rcases List.mem_cons.mp among with rfl | among
    · exact ⟨b, List.mem_cons_self, hb⟩
    · obtain ⟨c, hc, passed⟩ := ih rest among
      exact ⟨c, List.mem_cons_of_mem b hc, passed⟩

theorem length_of_mapM {made : List β} (h : members.mapM f = .ok made) : made.length = members.length := by
  induction members generalizing made with
  | nil =>
    cases h
    rfl
  | cons a members ih =>
    rw [List.mapM_cons] at h
    obtain ⟨b, -, h⟩ := eq_ok_of_bind h
    obtain ⟨others, rest, h⟩ := eq_ok_of_bind h
    cases h
    exact congrArg (· + 1) (ih rest)

/-- A walk over a list fails as the first of its members that fails. -/
theorem mapM_eq_error_iff {e : ε} : members.mapM f = .error e ↔ ∃ before a after, members = before ++ a :: after ∧
    (∀ b ∈ before, ∃ c, f b = .ok c) ∧ f a = .error e := by
  induction members with
  | nil =>
    refine ⟨(nomatch ·), ?_⟩
    rintro ⟨before, a, after, h, -⟩
    cases before <;> cases h
  | cons a members ih =>
    rw [List.mapM_cons]
    constructor
    · intro h
      rcases eq_error_of_bind h with failed | ⟨b, first, h⟩
      · exact ⟨[], a, members, rfl, fun _ => (nomatch ·), failed⟩
      rcases eq_error_of_bind h with failed | ⟨_, -, h⟩
      · obtain ⟨before, other, after, rfl, passed, failed⟩ := ih.mp failed
        exact ⟨a :: before, other, after, rfl, List.forall_mem_cons.mpr ⟨⟨b, first⟩, passed⟩, failed⟩
      · cases h
    · rintro ⟨before, other, after, split, passed, failed⟩
      cases before with
      | nil =>
        cases split
        rw [failed]
        rfl
      | cons head before =>
        cases split
        obtain ⟨⟨b, first⟩, passed⟩ := List.forall_mem_cons.mp passed
        rw [first, ih.mpr ⟨before, other, after, rfl, passed, failed⟩]
        rfl

/-- A walk over a list fails only at a member. -/
theorem eq_error_of_mapM {e : ε} (h : members.mapM f = .error e) : ∃ a ∈ members, f a = .error e := by
  obtain ⟨before, a, after, rfl, -, failed⟩ := mapM_eq_error_iff.mp h
  exact ⟨a, List.mem_append_right before List.mem_cons_self, failed⟩

/-- A walk that puts something else in the place of each result fails as before. -/
theorem mapM_map_const {γ : Type} (g : α → γ) (members : List α) :
    members.mapM (fun a => (f a).map fun _ => g a) = (members.mapM f).map fun _ => members.map g := by
  induction members with
  | nil => rfl
  | cons a members ih =>
    rw [List.mapM_cons, List.mapM_cons, ih]
    cases f a with
    | error e => rfl
    | ok b => cases members.mapM f <;> rfl

/-- A walk over lists one behind the other is a walk over each. -/
theorem mapM_flatMap_eq {ι : Type} (g : ι → List α) (lists : List ι) :
    (lists.flatMap g).mapM f = (lists.mapM fun i => (g i).mapM f).map List.flatten := by
  induction lists with
  | nil => rfl
  | cons i lists ih =>
    rw [List.flatMap_cons, List.mapM_append, List.mapM_cons, ih]
    cases (g i).mapM f with
    | error e => rfl
    | ok made => cases lists.mapM fun i => (g i).mapM f <;> rfl

end

end TypedTables
