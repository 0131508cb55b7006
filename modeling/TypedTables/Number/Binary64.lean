import TypedTables.Number.Format

/-!
# Real numbers of 64 and 32 bits

A `Binary64` is its 64 bits, so two zeros and many non-numbers are kept apart. Its exact value is a whole number of
units (`units`), a unit being `2 ^ -1074`; comparisons, the conversion to integers and the conversion to 32 bits are
all decided on exact values. -/

namespace TypedTables

/-- A real number of 64 bits. -/
structure Binary64 where
  bits : UInt64
  deriving DecidableEq, Inhabited

/-- A real number of 32 bits. -/
structure Binary32 where
  bits : UInt32
  deriving DecidableEq, Inhabited

namespace Binary64

/-- The number of the magnitude, without the sign. -/
def magnitude (x : Binary64) : Nat := x.bits.toNat % Nat.pow 2 63

/-- The sign bit is set. -/
def isNegative (x : Binary64) : Bool := Nat.pow 2 63 ≤ x.bits.toNat

/-- Neither infinite nor a non-number. -/
def isFinite (x : Binary64) : Bool := x.magnitude < Format.double.infinity

/-- Not a number. -/
def isNaN (x : Binary64) : Bool := Format.double.infinity < x.magnitude

/-- A number from its sign and the number of its magnitude. -/
def ofMagnitude (negative : Bool) (code : Nat) : Binary64 :=
  ⟨UInt64.ofNat (if negative then code + Nat.pow 2 63 else code)⟩

/-- The value of a finite number in units of `2 ^ -1074`. -/
def units (x : Binary64) : Int :=
  if x.isNegative then -(Format.double.units x.magnitude : Int) else Format.double.units x.magnitude

/-- How many units make one. -/
def one : Int := .ofNat (Nat.pow 2 Format.double.places)

/-- The integer that a finite number equals, if it equals one. -/
def toInt? (x : Binary64) : Option Int :=
  if x.isFinite ∧ x.units % one = 0 then some (x.units / one) else none

/-- The 64-bit integer that a number equals, if it equals one. -/
def toInt64? (x : Binary64) : Option Int64 :=
  x.toInt?.bind fun i => if Int64.minValue.toInt ≤ i ∧ i ≤ Int64.maxValue.toInt then some (Int64.ofInt i) else none

/-- The number nearest to an integer, a tie going to the even neighbour. -/
def ofInt (i : Int) : Binary64 := ofMagnitude (i < 0) (Format.double.nearest i.natAbs 1)

/-- The number nearest to a 64-bit integer. -/
def ofInt64 (i : Int64) : Binary64 := ofInt i.toInt

/-- The zero without a sign. -/
def zero : Binary64 := ⟨0⟩

/-- A non-number. -/
def nan : Binary64 := ⟨0x7ff8000000000000⟩

/-- Equality of values: the zeros are equal, a non-number equals nothing. -/
def same (x y : Binary64) : Bool :=
  if x.isNaN || y.isNaN then false
  else x.bits = y.bits || (x.magnitude = 0 && y.magnitude = 0)

/-- The number's place in the order of magnitudes, negative ones below. Infinities lie outside all finite numbers,
    and the zeros have one place. -/
def place (x : Binary64) : Int := if x.isNegative then -(x.magnitude : Int) else x.magnitude

end Binary64

namespace Binary32

/-- The number of the magnitude, without the sign. -/
def magnitude (x : Binary32) : Nat := x.bits.toNat % Nat.pow 2 31

/-- The sign bit is set. -/
def isNegative (x : Binary32) : Bool := Nat.pow 2 31 ≤ x.bits.toNat

/-- Not a number. -/
def isNaN (x : Binary32) : Bool := Format.single.infinity < x.magnitude

/-- A number from its sign and the number of its magnitude. -/
def ofMagnitude (negative : Bool) (code : Nat) : Binary32 :=
  ⟨UInt32.ofNat (if negative then code + Nat.pow 2 31 else code)⟩

/-- A non-number. -/
def nan : Binary32 := ⟨0x7fc00000⟩

/-- The 32-bit number nearest to a 64-bit one. What is too great for the format becomes infinite. -/
def ofBinary64 (x : Binary64) : Binary32 :=
  if x.isNaN then nan
  else if x.isFinite then
    ofMagnitude x.isNegative
      (Format.single.nearest (Format.double.units x.magnitude) (Nat.pow 2 Format.double.places))
  else ofMagnitude x.isNegative Format.single.infinity

/-- The 64-bit number of the same value; there is one for every 32-bit number. -/
def toBinary64 (x : Binary32) : Binary64 :=
  if x.isNaN then Binary64.nan
  else if x.magnitude = Format.single.infinity then
    Binary64.ofMagnitude x.isNegative Format.double.infinity
  else
    Binary64.ofMagnitude x.isNegative
      (Format.double.nearest (Format.single.units x.magnitude) (Nat.pow 2 Format.single.places))

end Binary32

end TypedTables
