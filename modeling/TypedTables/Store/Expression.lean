import TypedTables.Sql.Token
import TypedTables.Store.Affinity
import TypedTables.Store.Collation

/-!
# Expressions

The expressions of a declaration, by which it gives a default or says what holds of every row. Operations bind with one
of nine strengths, and those of one strength are joined from left to right. Reading takes the longest expression at the
start of a list of tokens. -/

namespace TypedTables

open Sql (Token Fault Reader faultAt)

/-- An operation on two values. -/
inductive Operation where
  | or
  | and
  | compare (c : Comparator)
  | differ
  /-- Equality for which two NULLs are equal. -/
  | is
  | isNot
  /-- A text has the form of a pattern. -/
  | like
  | bitAnd
  | bitOr
  | shiftLeft
  | shiftRight
  | add
  | subtract
  | multiply
  | divide
  | remainder
  | concatenate
  deriving DecidableEq

/-- An expression of a declaration. -/
inductive Expression where
  | value (v : Value)
  /-- A column. A quoted name that no column has stands for its text. -/
  | column (name : String) (isQuoted : Bool)
  | hole
  | negative (e : Expression)
  /-- The number with all bits changed. -/
  | inverse (e : Expression)
  | not (e : Expression)
  | combined (op : Operation) (left right : Expression)
  | between (e low high : Expression)
  | among (e : Expression) (members : List Expression)
  | call (function : String) (operands : List Expression)
  | collated (e : Expression) (c : Collation)

namespace Expression

/-! ### Literals -/

/-- The number of a digit to the base sixteen. -/
def hexDigit (c : Char) : Nat := if c.isDigit then c.toNat - '0'.toNat else c.toLower.toNat - 'a'.toNat + 10

/-- The number of hexadecimal digits, in two's complement. -/
def hexadecimal (digits : List Char) : Value :=
  .integer (Int64.ofNat (digits.foldl (fun n c => n * 16 + hexDigit c) 0))

/-- The value of a decimal or hexadecimal number as it is written. -/
def number (s : String) : Value :=
  match s.toList with
  | '0' :: 'x' :: digits | '0' :: 'X' :: digits => hexadecimal digits
  | _ => (Affinity.numberOf? s).getD .null

/-- The number with the other sign. A decimal number is read with its sign, so that the least integer can be
    written. -/
def negated (s : String) : Expression :=
  match s.toList with
  | '0' :: 'x' :: digits | '0' :: 'X' :: digits => .negative (.value (hexadecimal digits))
  | _ => .value ((Affinity.numberOf? ("-" ++ s)).getD .null)

/-- The text of bytes that are written in hexadecimal digits. -/
def textOfBytes (digits : List Char) : String :=
  let rec bytes : List Char → List UInt8
    | c :: d :: rest => UInt8.ofNat (hexDigit c * 16 + hexDigit d) :: bytes rest
    | _ => []
  Text.readLossy (bytes digits)

/-- The constants that are words. -/
def words : List (String × Value) := [("NULL", .null), ("TRUE", .integer 1), ("FALSE", .integer 0)]

/-- The value of a single token that is a literal. -/
def literal? (t : Token) : Option Value :=
  match t.kind with
  | .number => some (number t.content)
  | .text => some (.text t.content)
  | .bytes => some (.text (textOfBytes t.content.toList))
  | .word => (words.find? (·.1 = t.keyword)).map (·.2)
  | _ => none

/-! ### Operations -/

/-- The strength of `AND`, above that of `OR`. -/
def conjunctionStrength : Nat := 2

/-- The strength of equality and of tests that are words. -/
def equalityStrength : Nat := 4

/-- The operations, how they are written, and how strongly they bind. -/
def operations : List (String × Operation × Nat) :=
  [("OR", .or, 1), ("AND", .and, conjunctionStrength), ("=", .compare .equal, equalityStrength),
    ("==", .compare .equal, equalityStrength), ("<>", .differ, equalityStrength), ("!=", .differ, equalityStrength),
    ("<", .compare .less, 5), ("<=", .compare .lessEqual, 5), (">", .compare .greater, 5),
    (">=", .compare .greaterEqual, 5), ("&", .bitAnd, 6), ("|", .bitOr, 6), ("<<", .shiftLeft, 6),
    (">>", .shiftRight, 6), ("+", .add, 7), ("-", .subtract, 7), ("*", .multiply, 8), ("/", .divide, 8),
    ("%", .remainder, 8), ("||", .concatenate, 9)]

/-- The operation that a token stands for. -/
def operation? (t : Token) : Option (Operation × Nat) :=
  let written := if t.kind = .sign then t.written else t.keyword
  (operations.find? (·.1 = written)).map (·.2)

/-- A word that tests what stands before it against what follows. -/
def isTestWord (t : Token) : Bool := t.keyword ∈ ["IN", "BETWEEN", "LIKE"]

/-! ### Reading -/

/-- A number of steps that is enough for reading an expression. -/
def steps (ts : List Token) : Nat := 3 * ts.length + 3

mutual

/-- An expression of operations that bind at least as strongly as `strength`. The first argument bounds the steps. -/
def expression : Nat → Nat → Reader Expression
  | 0, _, ts => .error (faultAt ts)
  | fuel + 1, strength, ts => do
    let (left, ts) ← operand fuel ts
    more fuel strength left ts

/-- An operand. -/
def operand : Nat → Reader Expression
  | 0, ts => .error (faultAt ts)
  | _ + 1, [] => .error .incomplete
  | fuel + 1, t :: ts =>
    if t.isSign "-" then
      match ts with
      | n :: rest => if n.kind = .number then .ok (negated n.content, rest) else negatedOperand fuel ts
      | [] => .error .incomplete
    else if t.isSign "+" then operand fuel ts
    else if t.isSign "~" then do
      let (e, ts) ← operand fuel ts
      pure (.inverse e, ts)
    else if t.keyword = "NOT" then do
      let (e, ts) ← expression fuel equalityStrength ts
      pure (.not e, ts)
    else if t.isSign "(" then do
      let (e, ts) ← expression fuel 1 ts
      let (_, ts) ← Reader.sign ")" ts
      pure (e, ts)
    else
      match literal? t with
      | some v => .ok (.value v, ts)
      | none =>
        if t.kind = .hole then .ok (.hole, ts)
        else if t.isBareName then reference fuel t ts
        else .error t.fault

/-- The negative of an operand. -/
def negatedOperand : Nat → Reader Expression
  | 0, ts => .error (faultAt ts)
  | fuel + 1, ts => do
    let (e, ts) ← operand fuel ts
    pure (.negative e, ts)

/-- What a name stands for: a function with operands, or a column, which may have its table in front. -/
def reference : Nat → Token → Reader Expression
  | 0, _, ts => .error (faultAt ts)
  | _ + 1, t, [] => .ok (.column t.content (t.kind = .name), [])
  | fuel + 1, t, next :: ts =>
    if next.isSign "(" then do
      let (operands, ts) ← members fuel ts
      pure (.call t.content operands, ts)
    else if next.isSign "." then do
      let (name, ts) ← Reader.token Token.isName ts
      pure (.column name.content false, ts)
    else .ok (.column t.content (t.kind = .name), next :: ts)

/-- Expressions between commas, up to a closing parenthesis. -/
def members : Nat → Reader (List Expression)
  | 0, ts => .error (faultAt ts)
  | fuel + 1, ts =>
    if ts.head?.any (·.isSign ")") then .ok ([], ts.drop 1)
    else do
      let (first, ts) ← expression fuel 1 ts
      if ts.head?.any (·.isSign ",") then
        let (rest, ts) ← members fuel (ts.drop 1)
        pure (first :: rest, ts)
      else
        let (_, ts) ← Reader.sign ")" ts
        pure ([first], ts)

/-- What a test word makes of the operand before it. -/
def tested : Nat → Expression → Token → Reader Expression
  | 0, _, _, ts => .error (faultAt ts)
  | fuel + 1, left, t, ts =>
    if t.keyword = "IN" then do
      let (_, ts) ← Reader.sign "(" ts
      let (right, ts) ← members fuel ts
      pure (.among left right, ts)
    else do
      let (right, ts) ← expression fuel (equalityStrength + 1) ts
      if t.keyword = "LIKE" then pure (.combined .like left right, ts)
      else
        let (_, ts) ← Reader.word "AND" ts
        let (high, ts) ← expression fuel (equalityStrength + 1) ts
        pure (.between left right high, ts)

/-- The operations behind a left operand. -/
def more : Nat → Nat → Expression → Reader Expression
  | 0, _, left, ts => .ok (left, ts)
  | _ + 1, _, left, [] => .ok (left, [])
  | fuel + 1, strength, left, t :: ts =>
    match operation? t with
    | some (op, own) =>
      if own < strength then .ok (left, t :: ts)
      else do
        let (right, ts) ← expression fuel (own + 1) ts
        more fuel strength (.combined op left right) ts
    | none =>
      if t.keyword = "COLLATE" then do
        let (name, ts) ← Reader.token Token.isName ts
        match Collation.ofName? name.content with
        | some c => more fuel strength (.collated left c) ts
        | none => throw (.noCollation name.content)
      else if equalityStrength < strength then .ok (left, t :: ts)
      else if t.keyword = "IS" then do
        let isNegated := Sql.startsWith "NOT" ts
        let (right, ts) ← expression fuel (equalityStrength + 1) (if isNegated then ts.drop 1 else ts)
        more fuel strength (.combined (if isNegated then .isNot else .is) left right) ts
      else if t.keyword = "ISNULL" then more fuel strength (.combined .is left (.value .null)) ts
      else if t.keyword = "NOTNULL" then more fuel strength (.combined .isNot left (.value .null)) ts
      else if t.keyword = "NOT" then
        if Sql.startsWith "NULL" ts then more fuel strength (.combined .isNot left (.value .null)) (ts.drop 1)
        else do
          let (word, ts) ← Reader.token isTestWord ts
          let (e, ts) ← tested fuel left word ts
          more fuel strength (.not e) ts
      else if isTestWord t then do
        let (e, ts) ← tested fuel left t ts
        more fuel strength e ts
      else .ok (left, t :: ts)

end

/-- The longest expression at the start of a list of tokens. -/
def read : Reader Expression := fun ts => expression (steps ts) 1 ts

/-! ### What an expression mentions -/

/-- Something whose meaning is found outside an expression. -/
inductive Mention where
  | column (name : String) (isQuoted : Bool)
  | function (name : String)
  | hole
  deriving DecidableEq

mutual

/-- What an expression mentions, in the order in which it is written. -/
def mentions : Expression → List Mention
  | value _ => []
  | column name isQuoted => [.column name isQuoted]
  | hole => [.hole]
  | negative e | inverse e | not e | collated e _ => e.mentions
  | combined _ left right => left.mentions ++ right.mentions
  | between e low high => e.mentions ++ (low.mentions ++ high.mentions)
  | among e members => e.mentions ++ mentionsOf members
  | call function operands => .function function :: mentionsOf operands

/-- What some expressions mention. -/
def mentionsOf : List Expression → List Mention
  | [] => []
  | e :: rest => e.mentions ++ mentionsOf rest

end

/-- The expression has the same value for all rows. -/
def isConstant (e : Expression) : Bool :=
  e.mentions.all fun mention => match mention with
    | .function _ => true
    | _ => false

end Expression

end TypedTables
