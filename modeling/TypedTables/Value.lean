import TypedTables.Number.Decimal
import TypedTables.Text.Outline
import TypedTables.Text.Utf8

/-!
# Values

A `Value` is what a column of a store holds and what a statement binds: NULL, a 64-bit integer, a real number or a
text. A `Stored` value is what a store hands back, which may also be a list of bytes. Both are read through the
class `Readable`, whose views give a value only where nothing of it is lost. -/

namespace TypedTables

/-- A physical value. -/
inductive Value where
  | null
  | integer (i : Int64)
  | real (x : Binary64)
  | text (s : String)
  deriving DecidableEq, Inhabited

/-- A value as a store hands it back. -/
inductive Stored where
  | plain (v : Value)
  | blob (bytes : List UInt8)
  deriving DecidableEq

/-- What can be read as an integer, a real number or a text. -/
class Readable (α : Type) where
  /-- The text, if the value holds one. -/
  text? : α → Option String
  /-- The integer; of the reals only those that equal a 64-bit integer. -/
  integer? : α → Option Int64
  /-- The real number; an integer gives the nearest. -/
  real? : α → Option Binary64
  isNull : α → Bool
  /-- The name of the kind of value, for messages. -/
  kind : α → String
  /-- The value itself, bytes read as text with replacement characters. -/
  value : α → Value

namespace Value

def isNull : Value → Bool
  | null => true
  | _ => false

/-- The integer a value stands for. -/
def integer? : Value → Option Int64
  | integer i => some i
  | real x => x.toInt64?
  | _ => none

/-- The real number a value stands for. -/
def real? : Value → Option Binary64
  | integer i => some (Binary64.ofInt64 i)
  | real x => some x
  | _ => none

/-- The text a value holds. -/
def text? : Value → Option String
  | text s => some s
  | _ => none

/-- The name of the kind of value. -/
def kind : Value → String
  | null => "null"
  | integer _ => "integer"
  | real _ => "real"
  | text _ => "text"

instance : Readable Value where
  text? := text?
  integer? := integer?
  real? := real?
  isNull := isNull
  kind := kind
  value v := v

/-- Equality of values: numbers of one kind by value, and never an integer with a real number. -/
def same : Value → Value → Bool
  | null, null => true
  | integer i, integer j => i = j
  | real x, real y => x.same y
  | text s, text t => s = t
  | _, _ => false

/-- A value in one line. -/
def outline : Value → String
  | null => "Null"
  | integer i => Text.wrapOutline "Integer" (toString i.toInt)
  | real x => Text.wrapOutline "Real" x.text
  | text s => Text.wrapOutline "Text" (Text.shown s)

end Value

namespace Stored

instance : Readable Stored where
  text?
    | plain v => v.text?
    | blob bytes => Text.readStrict bytes
  integer?
    | plain v => v.integer?
    | blob _ => none
  real?
    | plain v => v.real?
    | blob _ => none
  isNull
    | plain v => v.isNull
    | blob _ => false
  kind
    | plain v => v.kind
    | blob _ => "blob"
  value
    | plain v => v
    | blob bytes => .text (Text.readLossy bytes)

end Stored

end TypedTables
