import TypedTables.Number.Numeral

/-!
# Written JSON

Reading JSON in two steps. A text becomes tokens and the tokens become a `Draft`, which follows the grammar but may
hold strings that denote no text, such as half of a surrogate pair, and numbers beyond the range of 64-bit reals.
Whoever uses a part of a draft then asks that the part be `Sound`; a part that is skipped need not be. -/

namespace TypedTables.Json

/-- A written value. A string without a meaning is `none`. -/
inductive Draft where
  | null
  | bool (b : Bool)
  | number (magnitude : Decimal)
  | string (s : Option String)
  | array (elements : List Draft)
  | object (members : List (Option String × Draft))

namespace Draft

/-- A number is finite when its digits and its power of ten are each taken as a 64-bit real, and so is their product.
    A negative power makes it smaller. -/
def isInRange (magnitude : Decimal) : Bool :=
  let digits := Format.double.nearest magnitude.digits 1
  magnitude.digits = 0 || magnitude.exponent < 0 ||
    (magnitude.exponent ≤ 308 &&
      Format.double.product digits (Format.double.tenPower magnitude.exponent) < Format.double.infinity)

mutual

/-- Every string has a meaning and every number is in range. -/
def isSound : Draft → Bool
  | null => true
  | bool _ => true
  | number magnitude => isInRange magnitude
  | string s => s.isSome
  | array elements => soundElements elements
  | object members => soundMembers members

def soundElements : List Draft → Bool
  | [] => true
  | element :: elements => element.isSound && soundElements elements

def soundMembers : List (Option String × Draft) → Bool
  | [] => true
  | (key, value) :: members => key.isSome && value.isSound && soundMembers members

end

mutual

/-- How many arrays and objects stand inside one another. -/
def depth : Draft → Nat
  | array elements => depthElements elements + 1
  | object members => depthMembers members + 1
  | _ => 0

def depthElements : List Draft → Nat
  | [] => 0
  | element :: elements => max element.depth (depthElements elements)

def depthMembers : List (Option String × Draft) → Nat
  | [] => 0
  | (_, value) :: members => max value.depth (depthMembers members)

end

end Draft

/-! ### Tokens -/

/-- A word of a written value. -/
inductive Token where
  | openArray
  | closeArray
  | openObject
  | closeObject
  | comma
  | colon
  | string (s : Option String)
  /-- A constant or a number. -/
  | leaf (value : Draft)

/-- A part of a string: a character, or the number of an escape. -/
inductive StringPart where
  | char (c : Char)
  | code (n : Nat)

/-- The text of the parts. A number of the first half of a surrogate pair needs one of the second half behind it. -/
def assemble : List StringPart → Option (List Char)
  | [] => some []
  | .char c :: parts => (assemble parts).map (c :: ·)
  | .code n :: parts =>
    if 0xd800 ≤ n ∧ n < 0xdc00 then
      match parts with
      | .code m :: parts =>
        if 0xdc00 ≤ m ∧ m < 0xe000 then
          (assemble parts).map (Char.ofNat (0x10000 + (n - 0xd800) * 0x400 + (m - 0xdc00)) :: ·)
        else none
      | _ => none
    else if 0xdc00 ≤ n ∧ n < 0xe000 then none
    else (assemble parts).map (Char.ofNat n :: ·)

/-- The value of a hexadecimal digit. -/
def hexValue? (c : Char) : Option Nat :=
  if c.isDigit then some (c.toNat - '0'.toNat)
  else if 'a' ≤ c ∧ c ≤ 'f' then some (c.toNat - 'a'.toNat + 10)
  else if 'A' ≤ c ∧ c ≤ 'F' then some (c.toNat - 'A'.toNat + 10)
  else none

/-- The number of four hexadecimal digits. -/
def hexNumber? (digits : List Char) : Option Nat :=
  (digits.mapM hexValue?).map fun values => values.foldl (fun n d => n * 16 + d) 0

/-- The character that a letter behind a backslash stands for. -/
def escaped? : Char → Option Char
  | '"' => some '"'
  | '\\' => some '\\'
  | '/' => some '/'
  | 'b' => some '\x08'
  | 'f' => some '\x0c'
  | 'n' => some '\n'
  | 'r' => some '\r'
  | 't' => some '\t'
  | _ => none

/-- The parts of a string up to its closing quote, and what follows. Controls have to be escaped. -/
def stringParts : List Char → Option (List StringPart × List Char)
  | '"' :: rest => some ([], rest)
  | '\\' :: 'u' :: a :: b :: c :: d :: rest =>
    match hexNumber? [a, b, c, d], stringParts rest with
    | some n, some (parts, after) => some (.code n :: parts, after)
    | _, _ => none
  | '\\' :: e :: rest =>
    match escaped? e, stringParts rest with
    | some c, some (parts, after) => some (.char c :: parts, after)
    | _, _ => none
  | c :: rest =>
    if c.toNat < 0x20 ∨ c = '\\' then none
    else (stringParts rest).map fun (parts, after) => (.char c :: parts, after)
  | [] => none

/-- The digits behind a point, none where there is no point. -/
def fraction? : List Char → Option (List Char × List Char)
  | '.' :: rest => Numeral.digits? rest
  | rest => some ([], rest)

/-- A digit fits behind a number when both together are a number of 64 bits. -/
def fitsWord (n d : Nat) : Bool := n * 10 + d < UInt64.size

/-- The magnitude of a number that starts with a digit, and what follows. A zero in front stands alone. -/
def magnitude? (s : List Char) : Option (Decimal × List Char) := do
  let (whole, s) ← Numeral.digits? s
  if whole.head? = some '0' ∧ whole ≠ ['0'] then none
  let (places, s) ← fraction? s
  let (power, s) ← Numeral.exponent? s
  pure (Numeral.limited fitsWord whole places power, s)

/-- The first token of a text that does not start with white space, and what follows. -/
def token? : List Char → Option (Token × List Char)
  | '[' :: s => some (.openArray, s)
  | ']' :: s => some (.closeArray, s)
  | '\x7b' :: s => some (.openObject, s)
  | '\x7d' :: s => some (.closeObject, s)
  | ',' :: s => some (.comma, s)
  | ':' :: s => some (.colon, s)
  | '"' :: s => (stringParts s).map fun (parts, after) => (.string ((assemble parts).map String.ofList), after)
  | 'n' :: 'u' :: 'l' :: 'l' :: s => some (.leaf .null, s)
  | 't' :: 'r' :: 'u' :: 'e' :: s => some (.leaf (.bool true), s)
  | 'f' :: 'a' :: 'l' :: 's' :: 'e' :: s => some (.leaf (.bool false), s)
  | '-' :: s => (magnitude? s).map fun (m, after) => (.leaf (.number m), after)
  | s => (magnitude? s).map fun (m, after) => (.leaf (.number m), after)

/-- White space between tokens. -/
def isSpace (c : Char) : Bool := c = ' ' || c = '\t' || c = '\n' || c = '\r'

/-- The tokens of a text. A token never leaves more than it was given, which the last branch checks. -/
def tokens? (s : List Char) : Option (List Token) :=
  match s with
  | [] => some []
  | c :: rest =>
    if isSpace c then tokens? rest
    else
      match token? (c :: rest) with
      | some (token, after) =>
        if _h : after.length < (c :: rest).length then (tokens? after).map (token :: ·) else none
      | none => none
termination_by s.length
decreasing_by
  · exact Nat.lt_succ_self rest.length
  · exact _h

/-! ### Values -/

/-- What is left of some tokens when at least one of them is taken. -/
abbrev Fewer (ts : List Token) : Type := { rest : List Token // rest.length < ts.length }

/-- What is left after more has been taken. -/
def Fewer.widen {ts : List Token} {us : List Token} (h : us.length ≤ ts.length) (rest : Fewer us) : Fewer ts :=
  ⟨rest.1, Nat.lt_of_lt_of_le rest.2 h⟩

mutual

/-- The value at the start of some tokens. -/
def value? (ts : List Token) : Option (Draft × Fewer ts) :=
  match ts with
  | .leaf v :: rest => some (v, ⟨rest, by simp⟩)
  | .string s :: rest => some (.string s, ⟨rest, by simp⟩)
  | .openArray :: .closeArray :: rest => some (.array [], ⟨rest, by simp only [List.length_cons]; omega⟩)
  | .openArray :: rest =>
    (elements? rest).map fun (elements, after) => (.array elements, after.widen (by simp))
  | .openObject :: .closeObject :: rest => some (.object [], ⟨rest, by simp only [List.length_cons]; omega⟩)
  | .openObject :: rest => (members? rest).map fun (members, after) => (.object members, after.widen (by simp))
  | _ => none
termination_by (ts.length, 0)

/-- The elements of an array up to its end. -/
def elements? (ts : List Token) : Option (List Draft × Fewer ts) :=
  match value? ts with
  | some (v, ⟨.closeArray :: rest, h⟩) => some ([v], ⟨rest, by simp at h; omega⟩)
  | some (v, ⟨.comma :: rest, h⟩) =>
    (elements? rest).map fun (elements, after) => (v :: elements, after.widen (by simp at h; omega))
  | _ => none
termination_by (ts.length, 1)
decreasing_by all_goals simp_all [Prod.lex_def]; try omega

/-- The members of an object up to its end. -/
def members? (ts : List Token) : Option (List (Option String × Draft) × Fewer ts) :=
  match ts with
  | .string key :: .colon :: body =>
    match value? body with
    | some (v, ⟨.closeObject :: rest, h⟩) => some ([(key, v)], ⟨rest, by simp at h ⊢; omega⟩)
    | some (v, ⟨.comma :: rest, h⟩) =>
      (members? rest).map fun (members, after) => ((key, v) :: members, after.widen (by simp at h ⊢; omega))
    | _ => none
  | _ => none
termination_by (ts.length, 1)
decreasing_by all_goals simp_all [Prod.lex_def]; try omega

end

/-- The draft that a text is, with nothing but white space around it. -/
def draft? (s : String) : Option Draft := do
  let ts ← tokens? s.toList
  match value? ts with
  | some (v, ⟨[], _⟩) => some v
  | _ => none

end TypedTables.Json
