import TypedTables.Schema

/-!
# Schemas given as data

Rows as lists of cells, for schemas that are known only when the program runs. A cell is a value or a truth value.
A `TypeSpec` describes a field type over cells; each is a chain over a static type whose links read what they need
from a cell and take a neutral value where the cell is of another kind. -/

namespace TypedTables

/-- A logical value of any kind. -/
inductive Cell where
  | plain (v : Value)
  | truth (b : Bool)
  deriving DecidableEq, Inhabited

namespace Cell

/-- The absent value. -/
def null : Cell := plain .null

def ofInteger (i : Int64) : Cell := plain (.integer i)
def ofReal (x : Binary64) : Cell := plain (.real x)
def ofText (s : String) : Cell := plain (.text s)

/-- The integer of a cell; truth counts as one, everything else as zero. -/
def integer : Cell → Int64
  | plain (.integer i) => i
  | truth true => 1
  | _ => 0

/-- The real number of a cell; an integer gives its value, everything else zero. -/
def real : Cell → Binary64
  | plain (.real x) => x
  | plain (.integer i) => Binary64.ofInt64 i
  | _ => Binary64.zero

/-- The text of a cell, empty if it holds none. -/
def text : Cell → String
  | plain (.text s) => s
  | _ => ""

/-- The truth value of a cell, false if it holds none. -/
def isTrue : Cell → Bool
  | truth b => b
  | _ => false

/-- A function on integers, applied where the cell holds one. -/
def mapInteger (f : Int64 → Int64) : Cell → Cell
  | plain (.integer i) => ofInteger (f i)
  | cell => cell

/-- A function on texts, applied where the cell holds one. -/
def mapText (f : String → String) : Cell → Cell
  | plain (.text s) => ofText (f s)
  | cell => cell

/-- A cell in one line. -/
def outline : Cell → String
  | plain v => v.outline
  | truth b => Text.wrapOutline "Bool" (if b then "true" else "false")

end Cell

/-- How the id of a listed text is made. -/
structure IdRule where
  /-- Letters of ASCII become lower case. -/
  lower : Bool
  /-- At most so many characters are kept. -/
  take : Option Nat

/-- The id of a text. -/
def IdRule.id (rule : IdRule) (s : String) : String :=
  let chars := if rule.lower then s.toList.map Char.toLower else s.toList
  String.ofList (match rule.take with
    | some n => chars.take n
    | none => chars)

/-- The description of a field type over cells. -/
inductive TypeSpec where
  | tinyInt
  | smallInt
  | int
  | bigInt
  | real
  | double
  | text
  | fixedString (length : Nat)
  | boolean
  | uuid
  | enumeration (values : List String) (rule : IdRule)
  | optional (of : TypeSpec)
  /-- Adds a constant to integers. -/
  | add (k : Int64) (of : TypeSpec)
  /-- Multiplies integers by a constant. -/
  | mul (k : Int64) (of : TypeSpec)
  /-- Puts a text in front of texts. -/
  | start (s : String) (of : TypeSpec)
  /-- Accepts positive integers only. -/
  | positive (of : TypeSpec)
  /-- Accepts texts that are not empty only. -/
  | nonempty (of : TypeSpec)

namespace TypeSpec

/-- The text without the given start, if it has it. -/
def dropStart (start s : String) : String := (Text.dropStart? start s).getD s

/-- The field type that is described. -/
def type : TypeSpec → FieldType Cell
  | tinyInt => FieldType.tinyInt.map (fun i => .ofInteger i.toInt64) fun c => c.integer.toInt8
  | smallInt => FieldType.smallInt.map (fun i => .ofInteger i.toInt64) fun c => c.integer.toInt16
  | int => FieldType.int.map (fun i => .ofInteger i.toInt64) fun c => c.integer.toInt32
  | bigInt => FieldType.bigInt.map .ofInteger Cell.integer
  | real => FieldType.real.map (fun x => .ofReal x.toBinary64) fun c => .ofBinary64 c.real
  | double => FieldType.double.map .ofReal Cell.real
  | text => FieldType.text.map .ofText Cell.text
  | fixedString n => (FieldType.fixedString n).map .ofText Cell.text
  | boolean => FieldType.boolean.map .truth Cell.isTrue
  | uuid => FieldType.uuid.map (fun u => .ofText u.text) fun c => (Uuid.ofText? c.text).getD .nil
  | enumeration values rule => (FieldType.enumeration values rule.id).map .ofText Cell.text
  | optional of => of.type.optional.map (·.getD .null) fun c => if c = .null then none else some c
  | add k of => of.type.map (Cell.mapInteger (· + k)) (Cell.mapInteger (· - k))
  | mul k of => of.type.map (Cell.mapInteger (· * k)) (Cell.mapInteger (· / k))
  | start s of => of.type.map (Cell.mapText (s ++ ·)) (Cell.mapText (dropStart s))
  | positive of => of.type.mapped (fun c => if 0 < c.integer then some c else none) id
  | nonempty of => of.type.mapped (fun c => if c.text ≠ "" then some c else none) id

end TypeSpec

/-- The only kind of component of a row of cells. -/
inductive CellKind where
  | cell
  deriving DecidableEq

instance : Kinds CellKind where
  decEq := inferInstance
  carrier _ := Cell
  name _ := "Cell"

/-- The description of a field of a row of cells. -/
structure FieldSpec where
  label : String
  type : TypeSpec
  constraints : List (Constraint Cell)

/-- A row of cells. Cells beyond its end are absent. -/
abbrev CellRow := List Cell

/-- The column of the cell at a place. -/
def FieldSpec.column (place : Nat) (spec : FieldSpec) : Column CellKind CellRow where
  kind := .cell
  field :=
    { label := spec.label, type := spec.type.type, get := fun row => row.getD place .null,
      constraints := spec.constraints }

/-- The cells that a row's components are. -/
def cellsOf (values : FieldValues CellKind) : List Cell := values.items.map fun item => item.value

/-- The schema of rows of cells with the given columns. -/
def Schema.ofSpecs (key : FieldSpec) (fields : List FieldSpec) : Schema CellKind CellRow where
  key := key.column 0
  fields := fields.mapIdx fun i spec => spec.column (i + 1)
  factory key values := .ok (key :: cellsOf values)

end TypedTables
