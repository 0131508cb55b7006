import TypedTables.Field

/-!
# Fragments of statements

A statement is put together from pieces: fixed text, names, which are quoted when they are written, and holes, which
are written as a placeholder and carry the value to bind there. The bindings of a fragment are those of its holes in
order, so the `k`-th placeholder of the text belongs to the `k`-th binding. -/

namespace TypedTables

/-- A value to bind and the type of the column it belongs to. -/
structure Binding where
  root : RootType
  value : Value
  deriving DecidableEq, Inhabited

/-- A binding in one line. -/
def Binding.outline (b : Binding) : String :=
  Text.recordOutline "Binding" [("root", b.root.outline), ("value", b.value.outline)]

/-- What stands in the text of a statement for a bound value. -/
def placeholder : String := "?"

/-- A part of the text of a statement. -/
inductive Piece where
  | fixed (text : String)
  | name (text : String)
  | hole (binding : Binding)
  deriving DecidableEq

namespace Piece

def text : Piece → String
  | fixed s => s
  | name s => Text.identifier s
  | hole _ => placeholder

def binding? : Piece → Option Binding
  | hole b => some b
  | _ => none

/-- A hole filled with its value written inline; other pieces stay. -/
def inline : Piece → Piece
  | hole b => fixed (b.root.literal b.value)
  | piece => piece

end Piece

/-- Text of a statement in pieces. -/
abbrev Fragment := List Piece

namespace Fragment

/-- The text of a fragment. -/
def text (fragment : Fragment) : String := String.join (fragment.map Piece.text)

/-- The values to bind, in the order of their placeholders. -/
def bindings (fragment : Fragment) : List Binding := fragment.filterMap Piece.binding?

/-- The fragment with its values written inline. -/
def inline (fragment : Fragment) : Fragment := fragment.map Piece.inline

/-- The parts with a separator between them. -/
def joined (separator : String) (parts : List Fragment) : Fragment := [Piece.fixed separator].intercalate parts

/-- The parts separated by commas, in parentheses. -/
def tuple (parts : List Fragment) : Fragment := [.fixed "("] ++ joined ", " parts ++ [.fixed ")"]

/-- A column, with its table in front when one is given. -/
def column (table : Option String) (label : String) : Fragment :=
  match table with
  | some table => [.name table, .fixed ".", .name label]
  | none => [.name label]

/-- Columns separated by commas. -/
def columns (table : Option String) (labels : List String) : Fragment := joined ", " (labels.map (column table))

end Fragment

/-- Text with the values to bind at its placeholders. -/
structure Compiled where
  text : String
  bindings : List Binding
  deriving DecidableEq

namespace Compiled

/-- A fragment as its text and bindings. -/
def ofFragment (fragment : Fragment) : Compiled := ⟨fragment.text, fragment.bindings⟩

/-- Text and bindings in one line. -/
def outline (c : Compiled) : String :=
  Text.recordOutline "CompiledQuery"
    [("sql", Text.shown c.text), ("bindings", Text.listOutline (c.bindings.map Binding.outline))]

end Compiled

end TypedTables
