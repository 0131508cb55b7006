import TypedTables.Number.Numeral
import TypedTables.Number.Scaled
import TypedTables.Text.Split
import TypedTables.Value

/-!
# Affinities

A column of the store has no type but an affinity, which is found in the declared type. A value is taken over in the
form that the affinity prefers, where it has that form without loss, and as it is where it has not; an operand that a
column is compared with is brought to the column's form as well. -/

namespace TypedTables

/-- The form of value that a column prefers. -/
inductive Affinity where
  | integer
  | real
  | numeric
  | text
  /-- Values are kept as they are. -/
  | none
  deriving DecidableEq, Inhabited

namespace Affinity

/-- Letters that decide, in the order in which they do. -/
def marks : List (String × Affinity) :=
  [("INT", integer), ("CHAR", text), ("CLOB", text), ("TEXT", text), ("BLOB", none), ("REAL", real), ("FLOA", real),
    ("DOUB", real)]

/-- The affinity of a declared type. -/
def ofDeclaration (type : String) : Affinity :=
  let type := String.ofList (type.toList.map Char.toUpper)
  if type = "" then none
  else ((marks.find? fun mark => Text.occursIn mark.1 type).map (·.2)).getD numeric

/-! ### Texts that are numbers -/

/-- Blanks around a number. -/
def isSpace (c : Char) : Bool := c = ' ' || (0x09 ≤ c.toNat && c.toNat ≤ 0x0d)

/-- A number written in a text: the digits before and behind the point, and the power of ten. -/
structure Written where
  negative : Bool
  whole : List Char
  places : List Char
  power : Int
  /-- Neither a point nor an exponent is there. -/
  isWhole : Bool

/-- The sign in front of a number and what follows it. -/
def splitSign : List Char → Bool × List Char
  | '-' :: s => (true, s)
  | '+' :: s => (false, s)
  | s => (false, s)

/-- The digits behind a point, nothing where there is no point. -/
def splitPlaces : List Char → Option (List Char) × List Char
  | '.' :: s => (some (Numeral.digits s).1, (Numeral.digits s).2)
  | s => (.none, s)

/-- The number at the start of a text, blanks before it apart, and what follows. Digits may be missing on one side of
    the point, and an exponent without digits is none. -/
def leading? (s : List Char) : Option (Written × List Char) :=
  let (negative, s) := splitSign (s.dropWhile isSpace)
  let (whole, s) := Numeral.digits s
  let (places, s) := splitPlaces s
  let (power, rest) := (Numeral.exponent? s).getD (0, s)
  if (whole ++ places.getD []).isEmpty then .none
  else some (⟨negative, whole, places.getD [], power, places.isNone && s.length = rest.length⟩, rest)

/-- The integer of a whole number that fits 64 bits. -/
def Written.integer? (w : Written) : Option Int64 :=
  let n : Int := Numeral.value w.whole
  let i := if w.negative then -n else n
  if w.isWhole && Int64.minValue.toInt ≤ i && i ≤ Int64.maxValue.toInt then some (Int64.ofInt i) else .none

/-- Digits are taken as long as all numbers of one digit more have 64 bits. -/
def takesDigit (n _ : Nat) : Bool := n < (UInt64.size - 10) / 10

/-- A power of ten beyond all others, in place of one with more than five digits. -/
def limitPower (power : Int) : Int := if power.natAbs < 100000 then power else power.sign * 10000

/-- The real number of a written one. -/
def Written.real (w : Written) : Binary64 :=
  Binary64.ofMagnitude w.negative
    (Scaled.magnitude (Numeral.limited takesDigit w.whole w.places (limitPower w.power)))

/-- The value of a written number. A whole number of 64 bits is an integer. -/
def Written.value (w : Written) : Value :=
  match w.integer? with
  | some i => .integer i
  | .none => .real w.real

/-- The number that a whole text is, blanks apart. -/
def numberOf? (s : String) : Option Value :=
  (leading? s.toList).bind fun (w, rest) => if rest.all isSpace then some w.value else .none

/-- The number that a text starts with, zero where it starts with none. -/
def leadingNumber (s : String) : Value := ((leading? s.toList).map (·.1.value)).getD (.integer 0)

/-! ### Numbers as texts -/

/-- A number in a column of text has fifteen significant digits and always a point. -/
def textStyle : DecimalStyle :=
  { plainFrom := -4, plainTo := 14, pointedMantissa := true, signedExponent := true, exponentWidth := 2,
    signedZero := false, nan := "NaN", infinity := "Inf" }

/-- The text of a value that is a number. -/
def textOf : Value → Value
  | .integer i => .text (toString i.toInt)
  | .real x => .text (textStyle.text (Scaled.decimal 15) x)
  | v => v

/-! ### Values of a column -/

/-- A value as it is bound: what is not a number is absent. -/
def bound : Value → Value
  | .real x => if x.isNaN then .null else .real x
  | v => v

/-- A real number as the integer it equals. The ends of the range of integers stay real numbers. -/
def whole : Value → Value
  | .real x =>
    match x.toInt64? with
    | some i => if i = Int64.minValue ∨ i = Int64.maxValue then .real x else .integer i
    | .none => .real x
  | v => v

/-- A text as the number it is. -/
def number : Value → Value
  | .text s => (numberOf? s).getD (.text s)
  | v => v

/-- An integer as a real number, and a zero without a sign. -/
def widened : Value → Value
  | .integer i => .real (Binary64.ofInt64 i)
  | .real x => .real (if x.magnitude = 0 then Binary64.zero else x)
  | v => v

/-- A value in the form in which a column keeps it. -/
def store : Affinity → Value → Value
  | integer, v | numeric, v => whole (number (bound v))
  | real, v => widened (number (bound v))
  | text, v => textOf (bound v)
  | none, v => bound v

/-- A value in the form in which a column is compared with it. -/
def operand : Affinity → Value → Value
  | integer, v | real, v | numeric, v => number (bound v)
  | text, v => textOf (bound v)
  | none, v => bound v

end Affinity

end TypedTables
