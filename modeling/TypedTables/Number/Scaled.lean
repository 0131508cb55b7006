import TypedTables.Number.Decimal

/-!
# Conversion by scaling

Going between decimals and real numbers by multiplication with powers of ten. The work is done in the extended format,
with a factor of at most `10 ^ 100` at a time and a rounding after each, so the result is near to the exact one but
need not be the nearest. A decimal that is a whole number of 64 bits is converted without scaling. -/

namespace TypedTables.Scaled

/-- The factors of a power of ten, the greatest first. -/
def factors (exponent : Nat) : List Nat :=
  List.replicate (exponent / 100) 100 ++ List.replicate (exponent % 100 / 10) 10 ++ List.replicate (exponent % 10) 1

/-- An extended magnitude times a power of ten. -/
def scale (code : Nat) (exponent : Int) : Nat :=
  (factors exponent.natAbs).foldl
    (fun code (factor : Nat) =>
      Format.extended.product code (Format.extended.tenPower (exponent.sign * factor))) code

/-! ### From decimals -/

/-- The greatest number of digits below which another digit is taken. -/
def room : Nat := (UInt64.size - 0x800) / 10

/-- Moves zeros between the digits and the power of ten, at most `count`, as long as that makes the power smaller. -/
def balanced : Nat → Decimal → Decimal
  | 0, x => x
  | count + 1, x =>
    if 0 < x.exponent ∧ x.digits < room then balanced count ⟨x.digits * 10, x.exponent - 1⟩
    else if x.exponent < 0 ∧ x.digits % 10 = 0 then balanced count ⟨x.digits / 10, x.exponent + 1⟩
    else x

/-- The greatest extended magnitude that is still converted to a finite one. -/
def greatest : Nat := Format.extended.nearest (17976931348623157081452742373 * Nat.pow 10 280) 1

/-- The magnitude of a decimal whose digits are a number of 64 bits. -/
def magnitude (x : Decimal) : Nat :=
  if x.digits = 0 then 0
  else
    let x := balanced 20 x
    if x.exponent = 0 then Format.double.nearest x.digits 1
    else
      let code := scale (Format.extended.nearest x.digits 1) x.exponent
      if greatest < code then Format.double.infinity else Format.extended.convert Format.double code

/-! ### To decimals -/

/-- Multiplies by a power of ten, at most `count` times, as long as a test holds. The power of ten that the magnitude
    has to be multiplied with in order to get its old value is kept beside it. -/
def scaleWhile (test : Nat → Bool) (exponent : Int) : Nat → Nat × Int → Nat × Int
  | 0, x => x
  | count + 1, (code, power) =>
    if test code then
      scaleWhile test exponent count
        (Format.extended.product code (Format.extended.tenPower exponent), power - exponent)
    else (code, power)

/-- Makes a magnitude smaller, as long as it is at least `10 ^ bound`. -/
def lower (bound exponent : Nat) (x : Nat × Int) : Nat × Int :=
  scaleWhile (fun code => Format.extended.tenPower bound ≤ code) (-exponent) 20 x

/-- Makes a magnitude greater, as long as it is less than `10 ^ bound`. -/
def raise (bound : Int) (exponent : Nat) (x : Nat × Int) : Nat × Int :=
  scaleWhile (fun code => code < Format.extended.tenPower bound) exponent 20 x

/-- A positive magnitude between `10 ^ 17` and `10 ^ 19`, and the power of ten that it lacks. -/
def normal (code : Nat) : Nat × Int :=
  if Format.extended.tenPower 19 ≤ code then lower 19 1 (lower 29 10 (lower 119 100 (code, 0)))
  else raise 17 1 (raise 7 10 (raise (-97) 100 (code, 0)))

/-- The significant digits of a positive finite magnitude, at most `count`. The scaled magnitude is cut to a whole
    number, and its digits are rounded, a half upwards. -/
def decimal (count code : Nat) : Decimal :=
  let (scaled, power) := normal (Format.double.convert Format.extended code)
  let n := Format.extended.units scaled / Nat.pow 2 Format.extended.places
  let excess := (Nat.toDigits 10 n).length - count
  if excess = 0 then ⟨n, power⟩ else ⟨(n + Nat.pow 10 excess / 2) / Nat.pow 10 excess, power + excess⟩

end TypedTables.Scaled
