import TypedTables.Store.Expression
import TypedTables.Truth

/-!
# The values of expressions

A truth value is the integer 1 or 0 or NULL, and a value counts as true where its number is not zero. Sums of integers
that leave 64 bits go on as real numbers, a division by zero is NULL, and so is nearly everything that is made of NULL.
A text counts in arithmetic as the number that it starts with. A comparison brings its two sides to one form, which a
column on either side decides. -/

namespace TypedTables

/-- A value, and the column that it is of as far as comparisons are concerned. -/
structure Graded where
  value : Value
  affinity : Affinity := .none
  collation : Option Collation := none

namespace Value

/-- The number that a value counts as. -/
def counted : Value → Value
  | text s => Affinity.leadingNumber s
  | v => v

/-- The exact value of a number in units of real numbers. -/
def unitsOf : Value → Int
  | integer i => i.toInt * Binary64.one
  | real x => if x.isFinite then x.units else 0
  | _ => 0

/-- The whole part of a number, or the end of the range of integers that it lies beyond. -/
def wholeOf : Value → Int
  | integer i => i.toInt
  | v => max Int64.minValue.toInt (min Int64.maxValue.toInt (v.unitsOf.tdiv Binary64.one))

/-- The real number nearest to a ratio. -/
def ofRatio (n d : Int) : Value :=
  if d = 0 then null else real (Binary64.ofMagnitude (n.sign * d.sign < 0) (Format.double.nearest n.natAbs d.natAbs))

/-- An integer, as a real number where it leaves 64 bits. -/
def ofInt (i : Int) : Value :=
  if Int64.minValue.toInt ≤ i ∧ i ≤ Int64.maxValue.toInt then integer (Int64.ofInt i) else real (Binary64.ofInt i)

/-- The truth value that a value counts as. -/
def asTruth (v : Value) : Truth :=
  match v.counted with
  | null => .unknown
  | integer i => .ofBool (i ≠ 0)
  | real x => .ofBool (x.magnitude ≠ 0)
  | text _ => .no

/-- A truth value as a number. -/
def ofTruth : Truth → Value
  | .yes => integer 1
  | .no => integer 0
  | .unknown => null

/-- The characters of a value that is written as a text, none of NULL. -/
def characters (v : Value) : List Char :=
  match Affinity.textOf v with
  | text s => s.toList
  | _ => []

end Value

/-! ### Operations -/

namespace Operation

/-- The form in which two values are compared: the one that a column of numbers asks for before all others. -/
def commonAffinity : Affinity → Affinity → Affinity
  | .none, a | a, .none => a
  | .text, .text => .none
  | _, _ => .numeric

/-- The truth of a comparison that two values of columns enter. -/
def comparison (c : Comparator) (x y : Graded) : Truth :=
  let affinity := commonAffinity x.affinity y.affinity
  let collation := (x.collation.or y.collation).getD .strict
  c.truth collation (affinity.operand x.value) (affinity.operand y.value)

/-- The truth of an equality for which two NULLs are equal. -/
def sameness (x y : Graded) : Truth :=
  if x.value.isNull || y.value.isNull then .ofBool (x.value.isNull && y.value.isNull) else comparison .equal x y

/-- A pattern fits a text: `%` stands for any characters, `_` for one, and letters of ASCII for either case. -/
def fits : List Char → List Char → Bool
  | [], s => s.isEmpty
  | '%' :: p, [] => fits p []
  | '%' :: p, c :: s => fits p (c :: s) || fits ('%' :: p) s
  | _ :: _, [] => false
  | d :: p, c :: s => (d = '_' || d.toLower = c.toLower) && fits p s
termination_by p s => p.length + s.length

/-- The integer with its bits moved to the left, or to the right where the count is negative. -/
def shifted (i count : Int) : Value :=
  if 0 ≤ count then .integer (Int64.ofInt (i <<< min 64 count.toNat))
  else .integer (Int64.ofInt (i >>> min 64 (-count).toNat))

/-- The value of an operation on the whole parts of two numbers. -/
def onWholes (op : Operation) (i j : Int) : Value :=
  match op with
  | bitAnd => .integer (Int64.ofInt i &&& Int64.ofInt j)
  | bitOr => .integer (Int64.ofInt i ||| Int64.ofInt j)
  | shiftLeft => shifted i j
  | shiftRight => shifted i (-j)
  | _ => .null

/-- The value of an arithmetic operation on two numbers. -/
def onNumbers (op : Operation) (v w : Value) : Value :=
  match op, v, w with
  | add, .integer i, .integer j => .ofInt (i.toInt + j.toInt)
  | subtract, .integer i, .integer j => .ofInt (i.toInt - j.toInt)
  | multiply, .integer i, .integer j => .ofInt (i.toInt * j.toInt)
  | divide, .integer i, .integer j => if j = 0 then .null else .ofInt (i.toInt.tdiv j.toInt)
  | remainder, .integer i, .integer j => if j = 0 then .null else .ofInt (i.toInt.tmod j.toInt)
  | add, v, w => .ofRatio (v.unitsOf + w.unitsOf) Binary64.one
  | subtract, v, w => .ofRatio (v.unitsOf - w.unitsOf) Binary64.one
  | multiply, v, w => .ofRatio (v.unitsOf * w.unitsOf) (Binary64.one * Binary64.one)
  | divide, v, w => .ofRatio v.unitsOf w.unitsOf
  | remainder, v, w => if w.wholeOf = 0 then .null else .real (Binary64.ofInt (v.wholeOf.tmod w.wholeOf))
  | op, v, w => op.onWholes v.wholeOf w.wholeOf

/-- The value of an operation. -/
def apply (op : Operation) (x y : Graded) : Value :=
  match op with
  | or => .ofTruth (x.value.asTruth.or y.value.asTruth)
  | and => .ofTruth (x.value.asTruth.and y.value.asTruth)
  | compare c => .ofTruth (comparison c x y)
  | differ => .ofTruth (comparison .equal x y).not
  | is => .ofTruth (sameness x y)
  | isNot => .ofTruth (sameness x y).not
  | op =>
    if x.value.isNull || y.value.isNull then .null
    else
      match op with
      | like => .ofTruth (.ofBool (fits y.value.characters x.value.characters))
      | concatenate => .text (String.ofList (x.value.characters ++ y.value.characters))
      | op => op.onNumbers x.value.counted y.value.counted

end Operation

/-! ### Functions -/

namespace Expression

/-- The number without its sign. -/
def absolute : Value → Value
  | .integer i => .ofInt i.toInt.natAbs
  | .real x => .real (Binary64.ofMagnitude false x.magnitude)
  | .text s => .real (Binary64.ofMagnitude false ((Affinity.leadingNumber s).real?.getD Binary64.zero).magnitude)
  | .null => .null

/-- A text with each character changed. -/
def mapped (f : Char → Char) (v : Value) : Value :=
  if v.isNull then .null else .text (String.ofList (v.characters.map f))

/-- The first value that is no NULL. -/
def firstPresent (vs : List Value) : Value := (vs.find? (!·.isNull)).getD .null

/-- The value that stands before all others in an order, NULL where one of them is NULL. -/
def foremost (before : Ordering) (collation : Collation) : List Value → Value
  | [] => .null
  | v :: vs =>
    if (v :: vs).any Value.isNull then .null
    else vs.foldl (fun best w => if w.order collation best = before then w else best) v

/-- The value of a function. -/
def function? (name : String) (operands : List Graded) : Option Value :=
  let collation := ((operands.head?.bind Graded.collation).getD .strict)
  match name.map Char.toLower, operands.map Graded.value with
  | "abs", [v] => some (absolute v)
  | "coalesce", v :: w :: vs => some (firstPresent (v :: w :: vs))
  | "ifnull", [v, w] => some (firstPresent [v, w])
  | "length", [v] => some (if v.isNull then .null else .ofInt (v.characters.takeWhile (· ≠ '\x00')).length)
  | "lower", [v] => some (mapped Char.toLower v)
  | "max", v :: w :: vs => some (foremost .gt collation (v :: w :: vs))
  | "min", v :: w :: vs => some (foremost .lt collation (v :: w :: vs))
  | "nullif", [v, w] => some (if v.order collation w = .eq then .null else v)
  | "typeof", [v] => some (.text v.kind)
  | "upper", [v] => some (mapped Char.toUpper v)
  | _, _ => none

/-- The names of the functions. -/
def functionNames : List String :=
  ["abs", "coalesce", "ifnull", "length", "lower", "max", "min", "nullif", "typeof", "upper"]

/-! ### Expressions -/

/-- The number with the other sign. -/
def opposite : Value → Value
  | .real x => .real (Binary64.ofMagnitude (!x.isNegative) x.magnitude)
  | v => Operation.subtract.apply ⟨.integer 0, .none, none⟩ ⟨v, .none, none⟩

/-- The number with all bits changed. -/
def complement (v : Value) : Value :=
  if v.isNull then .null else .integer (Int64.ofInt (-v.counted.wholeOf - 1))

mutual

/-- The value of an expression, its columns having the values that `row` gives them. -/
def eval (row : String → Option Graded) : Expression → Graded
  | value v => ⟨v, .none, none⟩
  | column name isQuoted => (row name).getD ⟨if isQuoted then .text name else .null, .none, none⟩
  | hole => ⟨.null, .none, none⟩
  | negative e => ⟨opposite (e.eval row).value.counted, .none, none⟩
  | inverse e => ⟨complement (e.eval row).value, .none, none⟩
  | not e => ⟨.ofTruth (e.eval row).value.asTruth.not, .none, none⟩
  | combined op left right => ⟨op.apply (left.eval row) (right.eval row), .none, none⟩
  | between e low high =>
    let x := e.eval row
    let isInside := (Operation.comparison .greaterEqual x (low.eval row)).and
      (Operation.comparison .lessEqual x (high.eval row))
    ⟨.ofTruth isInside, .none, none⟩
  | among e members =>
    let x := e.eval row
    let isMember := (evalEach row members).foldr
      (fun y truth => (Operation.comparison .equal x { y with affinity := .none }).or truth) .no
    ⟨.ofTruth isMember, .none, none⟩
  | call function operands => ⟨(function? function (evalEach row operands)).getD .null, .none, none⟩
  | collated e c => { e.eval row with collation := some c }

/-- The values of some expressions. -/
def evalEach (row : String → Option Graded) : List Expression → List Graded
  | [] => []
  | e :: rest => e.eval row :: evalEach row rest

end

/-- The value of a constant expression. -/
def constant (e : Expression) : Value := (e.eval fun _ => none).value

end Expression

end TypedTables
