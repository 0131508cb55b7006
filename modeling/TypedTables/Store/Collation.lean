import TypedTables.Filter
import TypedTables.Value

/-!
# The order of stored values

NULL stands first, then numbers by value, whichever of the two kinds they are of, then texts by their characters, which
a column may ask to be compared less strictly. A comparison with NULL is neither true nor false. -/

namespace TypedTables

/-- How texts are compared. -/
inductive Collation where
  | strict
  /-- Letters of ASCII in either case are the same. -/
  | anyCase
  /-- Spaces at the end do not count. -/
  | trimmed
  deriving DecidableEq, Inhabited

namespace Collation

/-- The collation of a name, in either case. -/
def ofName? (name : String) : Option Collation :=
  match name.map Char.toUpper with
  | "BINARY" => some strict
  | "NOCASE" => some anyCase
  | "RTRIM" => some trimmed
  | _ => none

/-- What counts of a text. -/
def key (c : Collation) (s : String) : String :=
  match c with
  | strict => s
  | anyCase => s.map Char.toLower
  | trimmed => String.ofList (s.toList.reverse.dropWhile (· = ' ')).reverse

end Collation

namespace Value

/-- The rank of a value's kind. -/
def rank : Value → Nat
  | null => 0
  | integer _ | real _ => 1
  | text _ => 2

/-- The order of an integer and a real number by their exact values. An infinite number lies outside all integers. -/
def compareMixed (i : Int64) (x : Binary64) : Ordering :=
  if x.isFinite then compare (i.toInt * Binary64.one) x.units else compare 0 x.place

/-- The order of two stored values. -/
def order (c : Collation) : Value → Value → Ordering
  | integer i, integer j => compare i.toInt j.toInt
  | integer i, real y => compareMixed i y
  | real x, integer j => (compareMixed j x).swap
  | real x, real y => compare x.place y.place
  | text s, text t => compare (c.key s) (c.key t)
  | v, w => compare v.rank w.rank

end Value

namespace Comparator

/-- The comparison accepts an order. -/
def accepts : Comparator → Ordering → Bool
  | equal, o => o = .eq
  | greater, o => o = .gt
  | less, o => o = .lt
  | greaterEqual, o => o ≠ .lt
  | lessEqual, o => o ≠ .gt

/-- The truth of a comparison of two stored values. -/
def truth (c : Comparator) (collation : Collation) (v w : Value) : Truth :=
  if v.isNull || w.isNull then .unknown else .ofBool (c.accepts (v.order collation w))

end Comparator

end TypedTables
