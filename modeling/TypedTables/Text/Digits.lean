/-!
# Numbers in decimal digits

Reading a run of decimal digits as the number it denotes, and numbers written with a fixed number of places. -/

namespace TypedTables.Text

/-- The number that a run of decimal digits denotes; nothing for an empty run or any other character. -/
def natural? (s : List Char) : Option Nat :=
  if s ≠ [] ∧ s.all Char.isDigit then some (Nat.ofDigitChars 10 s 0) else none

/-- The integer that decimal digits with an optional sign denote. -/
def integer? : List Char → Option Int
  | '+' :: digits => (natural? digits).map Int.ofNat
  | '-' :: digits => (natural? digits).map fun n => -(n : Int)
  | digits => (natural? digits).map Int.ofNat

/-- A number in at least `width` places, filled with zeros in front. -/
def padded (width n : Nat) : String :=
  String.ofList (List.replicate (width - (Nat.toDigits 10 n).length) '0' ++ Nat.toDigits 10 n)

example : padded 6 42 = "000042" ∧ padded 2 2024 = "2024" := by decide +kernel

end TypedTables.Text
