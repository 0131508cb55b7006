import TypedTables.Text.Quoted
import TypedTables.Value

/-!
# Root types

The column types of a store. A root type fixes how a column is declared, how a constant is written inline and which
form a value takes when it is read from a column of the type. -/

namespace TypedTables

/-- The type of a column. -/
inductive RootType where
  | tinyInt
  | smallInt
  | int
  | bigInt
  | real
  | double
  | text
  /-- Text of at most `length` characters. -/
  | fixedString (length : Nat)
  deriving DecidableEq, Inhabited

namespace RootType

/-- The type as a table declares it. -/
def sqlType : RootType → String
  | tinyInt => "TINYINT"
  | smallInt => "SMALLINT"
  | int => "INTEGER"
  | bigInt => "BIGINT"
  | real => "REAL"
  | double => "FLOAT"
  | text => "NVARCHAR"
  | fixedString n => "NVARCHAR(" ++ toString n ++ ")"

def isInteger : RootType → Bool
  | tinyInt | smallInt | int | bigInt => true
  | _ => false

def isFloat : RootType → Bool
  | real | double => true
  | _ => false

def isString : RootType → Bool
  | text | fixedString _ => true
  | _ => false

/-- The type's name in one line. -/
def outline : RootType → String
  | tinyInt => "TinyInt"
  | smallInt => "SmallInt"
  | int => "Int"
  | bigInt => "BigInt"
  | real => "Real"
  | double => "Double"
  | text => "Text"
  | fixedString n => Text.wrapOutline "FixedString" (toString n)

/-- The value that a constant of a column denotes. A column of integers takes a whole real as its integer, a column
    of reals takes finite numbers only and NULL for all else, and every other value stands for itself. -/
def constant (root : RootType) (v : Value) : Value :=
  if v.isNull then .null
  else if root.isInteger then
    match v.integer? with
    | some i => .integer i
    | none => v
  else if root.isFloat then
    match v.real? with
    | some x => if x.isFinite then .real x else .null
    | none => .null
  else v

/-- A constant of a column as it is written inline. -/
def literal (root : RootType) (v : Value) : String :=
  match root.constant v with
  | .null => "NULL"
  | .integer i => toString i.toInt
  | .real x => x.text
  | .text s => Text.literal s

/-- A value read from a column of the type, in the type's own form. A value that has no such form without loss stays
    as it is, so that decoding it fails. -/
def coerce {α : Type} [Readable α] (root : RootType) (v : α) : Value :=
  if Readable.isNull v then .null
  else
    let own :=
      if root.isInteger then (Readable.integer? v).map Value.integer
      else if root.isFloat then (Readable.real? v).map Value.real
      else (Readable.text? v).map Value.text
    own.getD (Readable.value v)

end RootType

end TypedTables
