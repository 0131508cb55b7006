import TypedTables.Number.Binary64

/-!
# Decimal forms of real numbers

A decimal is a whole number of digits and a power of ten. The shortest decimal of a real number has the fewest digits
that read back as the same number. The text of a decimal is laid out by a `DecimalStyle`, one record of the choices that
a format makes. -/

namespace TypedTables

/-- The number `digits * 10 ^ exponent`. -/
structure Decimal where
  digits : Nat
  exponent : Int
  deriving DecidableEq

namespace Decimal

/-- The ratio `n / d` measured in units of a power of ten, again as a ratio. -/
def rescale (n d : Nat) (exponent : Int) : Nat × Nat :=
  if 0 ≤ exponent then (n, d * Nat.pow 10 exponent.toNat) else (n * Nat.pow 10 (-exponent).toNat, d)

/-- The power of ten of the leading digit of a positive ratio. The counts of digits of both sides leave two
    candidates. -/
def leadingPlace (n d : Nat) : Int :=
  let guess : Int := (Nat.toDigits 10 n).length - (Nat.toDigits 10 d).length
  let scaled := rescale n d guess
  if scaled.1 < scaled.2 then guess - 1 else guess

/-- The decimals between `low` and `high`, all three over the denominator `den`, that lie beside `mid` on the grid
    of multiples of `10 ^ exponent`. Of two the nearer is taken, a tie going up. The ends count when `closed`. -/
def beside (low mid high den : Nat) (closed : Bool) (exponent : Int) : Option Decimal :=
  let scale := if 0 ≤ exponent then 1 else Nat.pow 10 (-exponent).toNat
  let step := if 0 ≤ exponent then den * Nat.pow 10 exponent.toNat else den
  let below := mid * scale / step
  let inside (x : Nat) : Bool :=
    if closed then low * scale ≤ x * step && x * step ≤ high * scale
    else low * scale < x * step && x * step < high * scale
  let nearerBelow := mid * scale - below * step < (below + 1) * step - mid * scale
  match inside below, inside (below + 1) with
  | true, true => some ⟨if nearerBelow then below else below + 1, exponent⟩
  | true, false => some ⟨below, exponent⟩
  | false, true => some ⟨below + 1, exponent⟩
  | false, false => none

/-- The decimal of the fewest digits that reads back as the given positive magnitude. The numbers that do lie
    between the midpoints to the neighbouring magnitudes, ends included for an even magnitude; the grids are tried
    from one digit on, and with all the digits of the format one of the two neighbours always lies inside. -/
def shortest (f : Format) (code : Nat) : Decimal :=
  let mid := 2 * f.units code
  let low := f.units (code - 1) + f.units code
  let high := f.units code + f.units (code + 1)
  let den := Nat.pow 2 (f.places + 1)
  let place := leadingPlace mid den
  let grid (digits : Nat) := beside low mid high den (code % 2 = 0) (place - digits)
  ((List.range 17).findSome? grid).getD ⟨mid / den, 0⟩

end Decimal

/-- The choices a format makes about the text of real numbers. -/
structure DecimalStyle where
  /-- Powers of ten of the leading digit that are written without an exponent: the first and the last. -/
  plainFrom : Int
  plainTo : Int
  /-- A single digit before an exponent keeps a point and a zero. -/
  pointedMantissa : Bool
  /-- A positive exponent has its sign. -/
  signedExponent : Bool
  /-- The least count of digits of an exponent. -/
  exponentWidth : Nat
  /-- A negative zero keeps its sign. -/
  signedZero : Bool
  /-- The texts of non-numbers and of the positive infinity. -/
  nan : String
  infinity : String

namespace DecimalStyle

/-- Digits with a point after `whole` of them, zeros put in where there are too few, and at least one digit on
    either side of the point. -/
def pointed (digits : List Char) (whole : Int) : List Char :=
  if whole ≤ 0 then '0' :: '.' :: (List.replicate (-whole).toNat '0' ++ digits)
  else
    let front := digits.take whole.toNat
    let back := digits.drop whole.toNat
    front ++ List.replicate (whole.toNat - front.length) '0' ++ '.' :: (if back.isEmpty then ['0'] else back)

/-- The text of a positive decimal. Zeros at the end of the digits carry no value and are dropped first. -/
def layout (style : DecimalStyle) (x : Decimal) : String :=
  let written := Nat.toDigits 10 x.digits
  let digits := (written.reverse.dropWhile (· = '0')).reverse
  let place : Int := x.exponent + written.length - 1
  if style.plainFrom ≤ place ∧ place ≤ style.plainTo then String.ofList (pointed digits (place + 1))
  else
    let mantissa :=
      match digits with
      | [d] => if style.pointedMantissa then [d, '.', '0'] else [d]
      | d :: rest => d :: '.' :: rest
      | [] => []
    let sign := if place < 0 then "-" else if style.signedExponent then "+" else ""
    let exponent := Nat.toDigits 10 place.natAbs
    String.ofList mantissa ++ "e" ++ sign ++
      String.ofList (List.replicate (style.exponentWidth - exponent.length) '0' ++ exponent)

/-- The text of a real number whose nonzero finite magnitudes are written through `decimal`. -/
def text (style : DecimalStyle) (decimal : Nat → Decimal) (x : Binary64) : String :=
  let sign := if x.isNegative then "-" else ""
  if x.isNaN then style.nan
  else if ¬ x.isFinite then sign ++ style.infinity
  else if x.magnitude = 0 then (if style.signedZero then sign else "") ++ "0.0"
  else sign ++ style.layout (decimal x.magnitude)

end DecimalStyle

/-- Inline numbers have a point from `0.0001` up to sixteen digits before it, and a bare exponent elsewhere. -/
def Binary64.inlineStyle : DecimalStyle :=
  { plainFrom := -4, plainTo := 15, pointedMantissa := false, signedExponent := false, exponentWidth := 1,
    signedZero := true, nan := "NaN", infinity := "inf" }

/-- A real number as it is written inline: the shortest digits that read back as the same number. -/
def Binary64.text (x : Binary64) : String := Binary64.inlineStyle.text (Decimal.shortest Format.double) x

end TypedTables
