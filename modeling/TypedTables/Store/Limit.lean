import TypedTables.Sql.Statement

/-!
# Limits of statements

A store refuses conditions that are nested too deep and lists of too many columns. Parentheses alone do not nest:
the members of a group are joined one after the other, so a group of many members is as deep as it is long. -/

namespace TypedTables

/-- The greatest height of a condition. -/
def heightLimit : Nat := 1000

/-- The greatest count of columns of a table or of a list. -/
def columnLimit : Nat := 2000

/-- The height of the members of a group, joined from left to right. A group without members is a comparison of two
    constants. -/
def joinedHeight : List Nat → Nat
  | [] => 2
  | first :: others => others.foldl (fun height member => max height member + 1) first

/-- How deep a condition is nested whose tests have some heights. -/
def Predicate.height (test : Test → Nat) : Predicate → Nat := Formula.fold test joinedHeight joinedHeight (· + 1)

/-- The height of a test with an operand that is bound: the column has its table in front. -/
def Test.boundHeight (_ : Test) : Nat := 3

/-- The height of a test with an operand that is written inline: a sign counts by itself. -/
def Test.inlineHeight (t : Test) : Nat := if (t.operand.root.literal t.operand.value).startsWith "-" then 3 else 2

/-- How deep the conditions of a statement are nested. -/
def Statement.height : Statement → Nat
  | select selection => selection.condition.elim 0 (Predicate.height Test.boundHeight)
  | delete _ condition => condition.elim 0 (Predicate.height Test.boundHeight)
  | createIndex _ _ terms => (terms.filters.map (Predicate.height Test.inlineHeight)).foldl max 0
  | _ => 0

/-- What an operand looks like a column of when it is written inline: the bare name of a constant that is not finite. -/
def Test.bareName? (t : Test) : Option String :=
  match t.operand.root.constant t.operand.value with
  | .real x =>
    if x.isFinite then none
    else some (if x.isNaN then Binary64.inlineStyle.nan else Binary64.inlineStyle.infinity)
  | _ => none

/-- The count of an index's terms. -/
def IndexTerms.length (terms : IndexTerms) : Nat := terms.filters.length + terms.orderings.length + terms.labels.length

/-- The bare names in the filters of an index, in the order in which they are written. -/
def IndexTerms.bareNames (terms : IndexTerms) : List String :=
  (terms.filters.flatMap Formula.atoms).filterMap Test.bareName?

end TypedTables
