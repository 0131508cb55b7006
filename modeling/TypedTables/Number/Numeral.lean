import TypedTables.Number.Decimal

/-!
# Numerals

The parts of a number that is written in decimal digits: a run of digits and a power of ten. Formats put them
together by rules of their own. -/

namespace TypedTables.Numeral

/-- The digits at the start of a text and what follows them. -/
def digits (s : List Char) : List Char × List Char := (s.takeWhile Char.isDigit, s.dropWhile Char.isDigit)

/-- The digits at the start of a text, at least one, and what follows them. -/
def digits? (s : List Char) : Option (List Char × List Char) :=
  if (digits s).1.isEmpty then none else some (digits s)

/-- The number that digits denote. -/
def value (digits : List Char) : Nat := Nat.ofDigitChars 10 digits 0

/-- A signed run of digits. -/
def power? : List Char → Option (Int × List Char)
  | '-' :: s => (digits? s).map fun (ds, rest) => (-(value ds : Int), rest)
  | '+' :: s => (digits? s).map fun (ds, rest) => ((value ds : Int), rest)
  | s => (digits? s).map fun (ds, rest) => ((value ds : Int), rest)

/-- The power of ten behind an `e`, zero where there is no `e`. -/
def exponent? (s : List Char) : Option (Int × List Char) :=
  match s with
  | 'e' :: s => power? s
  | 'E' :: s => power? s
  | s => some (0, s)

/-! ### Numbers of limited size -/

/-- Takes digits into a number as long as they fit behind what it holds, and gives back the others. -/
def fill (fits : Nat → Nat → Bool) : Nat → List Char → Nat × List Char
  | n, [] => (n, [])
  | n, c :: s =>
    let d := c.toNat - '0'.toNat
    if fits n d then fill fits (n * 10 + d) s else (n, c :: s)

/-- The decimal of the digits before and behind a point and a power of ten, as far as its digits fit. A digit before
    the point that does not fit still counts for the power; one behind the point is dropped. -/
def limited (fits : Nat → Nat → Bool) (whole places : List Char) (power : Int) : Decimal :=
  let (n, dropped) := fill fits 0 whole
  let (n, unread) := fill fits n places
  ⟨n, power + dropped.length - (places.length - unread.length : Nat)⟩

end TypedTables.Numeral
