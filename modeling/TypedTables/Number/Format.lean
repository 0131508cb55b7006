/-!
# Binary floating-point formats

The magnitudes of a binary format, numbered from zero upwards. The number of a magnitude is what its exponent and
fraction fields spell together, so the next magnitude has the next number. Every finite magnitude is a whole number
of units, a unit being the least positive magnitude; this turns questions about exact values into questions about
natural numbers. Rounding takes a ratio of natural numbers to the nearest magnitude, a tie to the even one. -/

namespace TypedTables

/-- The widths of the two fields of a format. -/
structure Format where
  fractionBits : Nat
  exponentBits : Nat

namespace Format

/-- One sign bit, 8 bits of exponent, 23 of fraction. -/
def single : Format := ⟨23, 8⟩

/-- One sign bit, 11 bits of exponent, 52 of fraction. -/
def double : Format := ⟨52, 11⟩

/-- One sign bit, 15 bits of exponent, 63 of fraction. Every number of 64 bits is one of its magnitudes. -/
def extended : Format := ⟨63, 15⟩

variable (f : Format)

/-- How many binary places a unit has: a unit is two to the power of minus this. -/
def places : Nat := Nat.pow 2 (f.exponentBits - 1) + f.fractionBits - 2

/-- The number of the infinite magnitude, the first that is not finite. -/
def infinity : Nat := (Nat.pow 2 f.exponentBits - 1) * Nat.pow 2 f.fractionBits

/-- The units in a magnitude. The lowest magnitudes have no leading bit and one spacing with those above them. The
    formula goes on past the finite magnitudes, which gives the value that rounding to infinity starts from. -/
def units (code : Nat) : Nat :=
  let exponent := code / Nat.pow 2 f.fractionBits
  let fraction := code % Nat.pow 2 f.fractionBits
  if exponent = 0 then fraction else (fraction + Nat.pow 2 f.fractionBits) * Nat.pow 2 (exponent - 1)

/-- A ratio rounded to a whole number, a tie to the even one. -/
def roundEven (n d : Nat) : Nat :=
  let q := n / d
  let r := n % d
  if 2 * r < d then q
  else if d < 2 * r then q + 1
  else q + q % 2

/-- The magnitude nearest to `n / d`, a tie to the even one, and infinity from half a step above the greatest finite
    magnitude on. The ratio is measured in units; a magnitude keeps one bit more than the fraction, so what exceeds
    that is the number of bits to drop, and dropping them by rounding may carry into the next exponent. -/
def nearest (n d : Nat) : Nat :=
  let scaled := n * Nat.pow 2 f.places
  let drop := Nat.log2 (scaled / d) - f.fractionBits
  min (drop * Nat.pow 2 f.fractionBits + roundEven scaled (d * Nat.pow 2 drop)) f.infinity

/-- The product of two magnitudes, rounded. -/
def product (a b : Nat) : Nat := f.nearest (f.units a * f.units b) (Nat.pow 2 (2 * f.places))

/-- A power of ten, rounded. -/
def tenPower (exponent : Int) : Nat :=
  if 0 ≤ exponent then f.nearest (Nat.pow 10 exponent.toNat) 1 else f.nearest 1 (Nat.pow 10 (-exponent).toNat)

/-- The magnitude of another format that is nearest to one of this format. -/
def convert (g : Format) (code : Nat) : Nat := g.nearest (f.units code) (Nat.pow 2 f.places)

end Format

end TypedTables
