/-!
# Text in bytes

The UTF-8 reading of a list of bytes, unit by unit. A unit is a character or a malformed stretch; a malformed
stretch is the longest start of a character that the bytes hold, or a single byte that can start none. The strict
reading accepts characters only; the lossy reading writes the replacement character for each malformed stretch. -/

namespace TypedTables.Text

/-- A byte that continues a character. -/
def isContinuation (b : UInt8) : Bool := 0x80 ≤ b && b ≤ 0xbf

/-- For a first byte of several: how many bytes follow, and the range that the second must lie in. The ranges
    exclude overlong forms, surrogates and numbers above the last code point. -/
def multibyte? (b : UInt8) : Option (Nat × UInt8 × UInt8) :=
  if 0xc2 ≤ b && b ≤ 0xdf then some (1, 0x80, 0xbf)
  else if b = 0xe0 then some (2, 0xa0, 0xbf)
  else if b = 0xed then some (2, 0x80, 0x9f)
  else if 0xe1 ≤ b && b ≤ 0xef then some (2, 0x80, 0xbf)
  else if b = 0xf0 then some (3, 0x90, 0xbf)
  else if 0xf1 ≤ b && b ≤ 0xf3 then some (3, 0x80, 0xbf)
  else if b = 0xf4 then some (3, 0x80, 0x8f)
  else none

/-- The bytes after the first that belong to its unit: the second within its range, then continuations. -/
def unitTail (count : Nat) (low high : UInt8) (rest : List UInt8) : List UInt8 :=
  match rest with
  | [] => []
  | b :: rest => if low ≤ b && b ≤ high then b :: (rest.take (count - 1)).takeWhile isContinuation else []

/-- The character that a first byte and its complete tail stand for: the low bits of the first byte, then six bits
    of every other. -/
def assemble (first : UInt8) (tail : List UInt8) : Char :=
  let lead := first.toNat % Nat.pow 2 (6 - tail.length)
  Char.ofNat (tail.foldl (fun n b => n * 64 + b.toNat % 64) lead)

/-- The first unit of the bytes (nothing where it is malformed) and the number of bytes after the first that it
    takes. -/
def firstUnit (first : UInt8) (rest : List UInt8) : Option Char × Nat :=
  if first < 0x80 then (some (Char.ofNat first.toNat), 0)
  else
    match multibyte? first with
    | none => (none, 0)
    | some (count, low, high) =>
      let tail := unitTail count low high rest
      (if tail.length = count then some (assemble first tail) else none, tail.length)

/-- The units of the bytes in order. -/
def units : List UInt8 → List (Option Char)
  | [] => []
  | first :: rest =>
    let (unit, taken) := firstUnit first rest
    unit :: units (rest.drop taken)
termination_by bytes => bytes.length
decreasing_by exact Nat.lt_succ_of_le (rest.length_drop ▸ Nat.sub_le ..)

/-- The text, if every unit is a character. -/
def readStrict (bytes : List UInt8) : Option String :=
  if (units bytes).all Option.isSome then some (String.ofList ((units bytes).filterMap id)) else none

/-- The text with the replacement character for each malformed stretch. -/
def readLossy (bytes : List UInt8) : String := String.ofList ((units bytes).map (·.getD '\ufffd'))

end TypedTables.Text
