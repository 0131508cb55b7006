/-!
# Universally unique identifiers

An identifier is a number of 128 bits. It is written as 32 hexadecimal digits in groups of 8, 4, 4, 4 and 12, lower
case, with hyphens between the groups. Read are the grouped form, also in braces or behind `urn:uuid:`, and the 32
digits alone; letters of either case. -/

namespace TypedTables

/-- An identifier of 128 bits. -/
structure Uuid where
  number : BitVec 128
  deriving DecidableEq, Inhabited

namespace Uuid

/-- The identifier that is all zeros. -/
def nil : Uuid := ⟨0⟩

/-- The value of a hexadecimal digit. -/
def hexDigit? (c : Char) : Option Nat :=
  if '0' ≤ c ∧ c ≤ '9' then some (c.toNat - '0'.toNat)
  else if 'a' ≤ c ∧ c ≤ 'f' then some (c.toNat - 'a'.toNat + 10)
  else if 'A' ≤ c ∧ c ≤ 'F' then some (c.toNat - 'A'.toNat + 10)
  else none

/-- The lengths of the groups. -/
def groups : List Nat := [8, 4, 4, 4, 12]

/-- The digits in groups with a hyphen before each group but the first. -/
def hyphenate : List Nat → List Char → List Char
  | [], _ => []
  | [n], digits => digits.take n
  | n :: ns, digits => digits.take n ++ '-' :: hyphenate ns (digits.drop n)

/-- The digits of grouped text, if its hyphens stand where the groups end. -/
def ungroup : List Nat → List Char → Option (List Char)
  | [], s => if s = [] then some [] else none
  | [n], s => if s.length = n then some s else none
  | n :: ns, s =>
    match s.drop n with
    | '-' :: rest => (ungroup ns rest).map (s.take n ++ ·)
    | _ => none

/-- The identifier of 32 hexadecimal digits. -/
def ofDigits? (s : List Char) : Option Uuid :=
  if s.length = 32 then
    (s.mapM hexDigit?).map fun digits => ⟨BitVec.ofNat 128 (digits.foldl (fun n d => n * 16 + d) 0)⟩
  else none

/-- The written form of an identifier. -/
def text (u : Uuid) : String :=
  let digits := Nat.toDigits 16 u.number.toNat
  String.ofList (hyphenate groups (List.replicate (32 - digits.length) '0' ++ digits))

/-- What an identifier may stand behind, in letters of either case. -/
def nameStart : List Char := "urn:uuid:".toList

/-- Reads an identifier. -/
def ofText? (s : String) : Option Uuid :=
  let grouped (s : List Char) : Option Uuid := (ungroup groups s).bind ofDigits?
  match s.toList with
  | '\x7b' :: rest => if rest.getLast? = some '\x7d' then grouped rest.dropLast else none
  | s =>
    if (s.take nameStart.length).map Char.toLower = nameStart then grouped (s.drop nameStart.length)
    else (ofDigits? s).or (grouped s)

end Uuid

end TypedTables
