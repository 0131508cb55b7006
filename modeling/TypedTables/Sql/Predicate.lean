import TypedTables.Filter
import TypedTables.Sql.Fragment

/-!
# Predicates

A predicate is a filter whose comparisons a statement can make. A filter becomes a predicate unless one of its
comparisons has flags without an operator; the leftmost such comparison is the failure. Predicates are written with
every group and every negated part in parentheses. An empty group is written as what it means. -/

namespace TypedTables

/-- A comparison that a statement makes: a column with a bound value. -/
structure Test where
  label : String
  comparator : Comparator
  operand : Binding
  deriving DecidableEq

/-- A condition of a statement. -/
abbrev Predicate := Formula Test

/-- The test that a comparison asks for. -/
def Comparison.test (c : Comparison) : Except Error Test :=
  c.operator.comparator.map fun comparator => ⟨c.column.label, comparator, c.column.root, c.value⟩

/-- The predicate that a filter asks for. -/
def Filter.predicate (f : Filter) : Except Error Predicate := Formula.check Comparison.test f

/-- A filter has no predicate only because of the flags of a comparison. -/
theorem Filter.predicate_eq_error {f : Filter} {e : Error} (h : f.predicate = .error e) :
    ∃ c ∈ f.atoms, e = .unsupportedOperator c.operator.flags := by
  obtain ⟨c, hc, failed⟩ := Formula.check_eq_error f h
  exact ⟨c, hc, Operator.comparator_eq_error (eq_error_of_map failed)⟩

/-- How values are written: bound at placeholders, or inline. -/
inductive Mode where
  | bound
  | inline
  deriving DecidableEq

/-- A fragment with its values written as the mode says. -/
def Mode.apply : Mode → Fragment → Fragment
  | bound, fragment => fragment
  | inline, fragment => fragment.inline

namespace Test

/-- A test as a statement writes it. -/
def fragment (table : Option String) (t : Test) : Fragment :=
  Fragment.column table t.label ++ [.fixed (" " ++ t.comparator.symbol ++ " "), .hole t.operand]

end Test

namespace Predicate

/-- The members of a group in parentheses, or the group's meaning when it has none. -/
def group (word empty : String) (members : List Fragment) : Fragment :=
  if members.isEmpty then [.fixed ("(" ++ empty ++ ")")]
  else [.fixed "("] ++ Fragment.joined (" " ++ word ++ " ") members ++ [.fixed ")"]

/-- A predicate as a statement writes it, columns with the given table in front. -/
def fragment (table : Option String) : Predicate → Fragment :=
  Formula.fold (Test.fragment table) (group "AND" "1 = 1") (group "OR" "1 = 0")
    fun member => [.fixed "NOT ("] ++ member ++ [.fixed ")"]

end Predicate

/-- The text and bindings of a filter. -/
def Filter.compile (f : Filter) (table : Option String) (mode : Mode) : Except Error Compiled :=
  f.predicate.map fun p => Compiled.ofFragment (mode.apply (Predicate.fragment table p))

/-- An ordering as a statement writes it. -/
def SortBy.fragment (s : SortBy) : Fragment := [.name s.column.label, .fixed (" " ++ s.direction.keyword)]

end TypedTables
