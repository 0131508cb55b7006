import TypedTables.Error
import TypedTables.Field
import TypedTables.Formula

/-!
# Filters and orderings

A filter is a formula over comparisons of a column with a value. The operator of a comparison is a set of flags;
five of the sets are operators of a statement, and the others are refused when a filter is compiled. -/

namespace TypedTables

/-- A comparison operator as flags: 1 for equal, 2 for greater, 4 for less. -/
structure Operator where
  flags : UInt8
  deriving DecidableEq, Inhabited

/-- The comparisons that a statement can make. -/
inductive Comparator where
  | equal
  | greater
  | less
  | greaterEqual
  | lessEqual
  deriving DecidableEq, Inhabited

/-- The sign of a comparison in a statement. -/
def Comparator.symbol : Comparator → String
  | equal => "="
  | greater => ">"
  | less => "<"
  | greaterEqual => ">="
  | lessEqual => "<="

namespace Operator

def equal : Operator := ⟨1⟩
def greater : Operator := ⟨2⟩
def less : Operator := ⟨4⟩
def greaterEqual : Operator := ⟨2 ||| 1⟩
def lessEqual : Operator := ⟨4 ||| 1⟩

/-- The flags of both. -/
def union (a b : Operator) : Operator := ⟨a.flags ||| b.flags⟩

/-- Every flag of the other is set. -/
def contains (a b : Operator) : Bool := a.flags &&& b.flags = b.flags

/-- The comparison that the flags stand for, if they stand for one. -/
def comparator? (op : Operator) : Option Comparator :=
  if op = equal then some .equal
  else if op = greater then some .greater
  else if op = less then some .less
  else if op = greaterEqual then some .greaterEqual
  else if op = lessEqual then some .lessEqual
  else none

/-- The comparison that the flags stand for, or the error that names them. -/
def comparator (op : Operator) : Except Error Comparator :=
  match op.comparator? with
  | some c => .ok c
  | none => .error (.unsupportedOperator op.flags)

theorem comparator_eq_ok {op : Operator} {c : Comparator} (h : op.comparator = .ok c) : op.comparator? = some c := by
  unfold comparator at h
  split at h
  · next found =>
    cases h
    exact found
  · cases h

theorem comparator_eq_error {op : Operator} {e : Error} (h : op.comparator = .error e) :
    e = .unsupportedOperator op.flags := by
  unfold comparator at h
  split at h
  · cases h
  · cases h
    rfl

/-- The operator's sign in a statement. -/
def symbol (op : Operator) : Except Error String := op.comparator.map Comparator.symbol

/-- The operator in one line. -/
def outline (op : Operator) : String := Text.wrapOutline "Operator" (toString op.flags.toNat)

end Operator

/-- A column compared with a value. -/
structure Comparison where
  column : ColumnRef
  operator : Operator
  value : Value
  deriving DecidableEq

namespace Comparison

/-- Equality of comparisons, values compared as values. -/
def same (a b : Comparison) : Bool := a.column = b.column && a.operator = b.operator && a.value.same b.value

/-- A comparison in one line. -/
def outline (c : Comparison) : String :=
  Text.recordOutline "Comparison"
    [("field", Text.shown c.column.label), ("operator", c.operator.outline), ("value", c.value.outline)]

end Comparison

/-- A condition on rows. -/
abbrev Filter := Formula Comparison

namespace Filter

/-- Equality of filters. -/
def same (f g : Filter) : Bool := Formula.same Comparison.same f g

/-- A filter in one line. -/
def outline : Filter → String :=
  Formula.fold Comparison.outline (fun parts => Text.wrapOutline "And" (Text.listOutline parts))
    (fun parts => Text.wrapOutline "Or" (Text.listOutline parts)) (Text.wrapOutline "Not")

/-- How many comparisons a filter makes. -/
def comparisonCount : Filter → Nat :=
  Formula.fold (fun _ => 1) (List.foldr (· + ·) 0) (List.foldr (· + ·) 0) id

/-- A field of a row compared with a value of the field's type. -/
def compare {ρ α : Type} (field : Field ρ α) (op : Operator) (a : α) : Filter :=
  .atom ⟨field.ref, op, field.type.encode a⟩

def eq {ρ α : Type} (field : Field ρ α) (a : α) : Filter := compare field .equal a
def lt {ρ α : Type} (field : Field ρ α) (a : α) : Filter := compare field .less a
def gt {ρ α : Type} (field : Field ρ α) (a : α) : Filter := compare field .greater a
def le {ρ α : Type} (field : Field ρ α) (a : α) : Filter := compare field .lessEqual a
def ge {ρ α : Type} (field : Field ρ α) (a : α) : Filter := compare field .greaterEqual a

end Filter

/-- The direction of an ordering. -/
inductive Direction where
  | ascending
  | descending
  deriving DecidableEq, Inhabited

namespace Direction

/-- The direction's word in a statement. -/
def keyword : Direction → String
  | ascending => "ASC"
  | descending => "DESC"

/-- The direction in one line. -/
def outline : Direction → String
  | ascending => "Ascending"
  | descending => "Descending"

end Direction

/-- Rows sorted by one column. -/
structure SortBy where
  column : ColumnRef
  direction : Direction
  deriving DecidableEq

namespace SortBy

def ascending {ρ α : Type} (field : Field ρ α) : SortBy := ⟨field.ref, .ascending⟩
def descending {ρ α : Type} (field : Field ρ α) : SortBy := ⟨field.ref, .descending⟩

/-- An ordering in one line. -/
def outline (s : SortBy) : String :=
  Text.recordOutline "SortBy" [("field", Text.shown s.column.label), ("order", s.direction.outline)]

end SortBy

end TypedTables
