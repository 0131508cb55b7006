import TypedTables.RootType
import TypedTables.Uuid

/-!
# Field types

A field type is a chain of links over a root type. At the bottom stands a root type with the values it stores; each
further link maps the values of the link below forward and its own values backward, or admits the absence of a value
as NULL. Encoding walks the chain down and decoding walks it up. -/

namespace TypedTables

/-- Why a value is not one of a field type. -/
inductive Reason where
  /-- The value is of another kind than the root takes. -/
  | unexpected (wanted found : String)
  /-- The integer does not fit the named width. -/
  | outOfRange (i : Int64) (width : String)
  /-- A link of the chain rejects the value. -/
  | noMappedValue
  deriving DecidableEq

/-- The wording of a reason. -/
def Reason.message : Reason → String
  | unexpected wanted found => "expected " ++ wanted ++ ", got " ++ found
  | outOfRange i width => toString i.toInt ++ " is out of range for " ++ width
  | noMappedValue => "no mapped value"

/-- A stored value that is not one of the field's type. -/
structure DecodeError where
  raw : Value
  root : RootType
  reason : Reason
  deriving DecidableEq

/-- The wording of a failed decoding. -/
def DecodeError.message (e : DecodeError) : String :=
  "cannot decode " ++ e.raw.outline ++ " as " ++ e.root.sqlType ++ ": " ++ e.reason.message

/-- A type of logical values together with the way they are stored. -/
inductive FieldType : Type → Type 1 where
  | tinyInt : FieldType Int8
  | smallInt : FieldType Int16
  | int : FieldType Int32
  | bigInt : FieldType Int64
  | real : FieldType Binary32
  | double : FieldType Binary64
  | text : FieldType String
  | fixedString (length : Nat) : FieldType String
  /-- Values of the source taken forward, where `forward` accepts them, and stored through `backward`. -/
  | mapped {α β : Type} (source : FieldType α) (forward : α → Option β) (backward : β → α) : FieldType β
  /-- Values that may be absent, absence being stored as NULL. -/
  | optional {α : Type} (inner : FieldType α) : FieldType (Option α)

namespace FieldType

/-- The root type at the bottom of the chain. -/
def root {α : Type} : FieldType α → RootType
  | tinyInt => .tinyInt
  | smallInt => .smallInt
  | int => .int
  | bigInt => .bigInt
  | real => .real
  | double => .double
  | text => .text
  | fixedString n => .fixedString n
  | mapped source _ _ => source.root
  | optional inner => inner.root

/-- The stored form of a logical value. -/
def encode {α : Type} : FieldType α → α → Value
  | tinyInt, i => .integer i.toInt64
  | smallInt, i => .integer i.toInt64
  | int, i => .integer i.toInt64
  | bigInt, i => .integer i
  | real, x => .real x.toBinary64
  | double, x => .real x
  | text, s => .text s
  | fixedString _, s => .text s
  | mapped source _ backward, b => source.encode (backward b)
  | optional inner, some a => inner.encode a
  | optional _, none => .null

/-- The integer of a value that lies in the range of a width. -/
def integerIn (width : String) (least greatest : Int) (v : Value) : Except Reason Int64 :=
  match v.integer? with
  | none => .error (.unexpected "integer" v.kind)
  | some i => if least ≤ i.toInt ∧ i.toInt ≤ greatest then .ok i else .error (.outOfRange i width)

/-- The real number of a value. -/
def realOf (v : Value) : Except Reason Binary64 :=
  match v.real? with
  | none => .error (.unexpected "real" v.kind)
  | some x => .ok x

/-- The text of a value. -/
def textOf (v : Value) : Except Reason String :=
  match v.text? with
  | none => .error (.unexpected "text" v.kind)
  | some s => .ok s

/-- The logical value of a stored one, or why there is none. -/
def read {α : Type} : FieldType α → Value → Except Reason α
  | tinyInt, v => (integerIn "i8" Int8.minValue.toInt Int8.maxValue.toInt v).map Int64.toInt8
  | smallInt, v => (integerIn "i16" Int16.minValue.toInt Int16.maxValue.toInt v).map Int64.toInt16
  | int, v => (integerIn "i32" Int32.minValue.toInt Int32.maxValue.toInt v).map Int64.toInt32
  | bigInt, v => integerIn "i64" Int64.minValue.toInt Int64.maxValue.toInt v
  | real, v => (realOf v).map Binary32.ofBinary64
  | double, v => realOf v
  | text, v => textOf v
  | fixedString _, v => textOf v
  | mapped source forward _, v => do
    let a ← source.read v
    match forward a with
    | some b => pure b
    | none => throw .noMappedValue
  | optional inner, v => if v.isNull then pure none else (inner.read v).map some

/-- The logical value of a stored one, or the error that names the stored value and its root type. -/
def decode {α : Type} (type : FieldType α) (raw : Value) : Except DecodeError α :=
  (type.read raw).mapError fun reason => ⟨raw, type.root, reason⟩

/-- A logical value as it is written inline. -/
def literal {α : Type} (type : FieldType α) (a : α) : String := type.root.literal (type.encode a)

/-- The type in one line, which names its root only. -/
def outline {α : Type} (type : FieldType α) : String := Text.recordOutline "FieldType" [("root", type.root.outline)]

/-- A type over another by a pair of functions of which the first accepts everything. -/
def map {α β : Type} (source : FieldType α) (forward : α → β) (backward : β → α) : FieldType β :=
  source.mapped (some ∘ forward) backward

/-! ### Types in common use -/

/-- A truth value, stored as 0 or 1. Every other number is read as true. -/
def boolean : FieldType Bool := tinyInt.map (· ≠ 0) fun b => if b then 1 else 0

/-- An identifier, stored as its 36 characters. -/
def uuid : FieldType Uuid := (fixedString 36).mapped Uuid.ofText? Uuid.text

/-- The length of the longest text, and at least one. -/
def longest (ids : List String) : Nat := ids.foldl (fun n id => max n id.length) 1

/-- One of the listed values, stored as its text id. Of values with one id the last stands for it. -/
def enumeration {α : Type} (values : List α) (id : α → String) : FieldType α :=
  (fixedString (longest (values.map id))).mapped (fun s => values.reverse.find? (id · = s)) id

end FieldType

end TypedTables
