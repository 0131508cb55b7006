import TypedTables.Text.Blank

/-!
# Columns of text

Rows of cells set out under headers. A column is as wide as its widest cell; a header counts with its length in
UTF-8, a cell with its characters. -/

namespace TypedTables.Text

/-- A column's width where a cell joins it. -/
def widen (widths : List Nat) (row : List String) : List Nat :=
  widths.mapIdx fun i width =>
    match row[i]? with
    | some cell => max width cell.length
    | none => width

/-- The widths of the columns. -/
def columnWidths (headers : List String) (rows : List (List String)) : List Nat :=
  rows.foldl widen (headers.map String.utf8ByteSize)

/-- A cell with spaces behind it up to a width. -/
def padEnd (width : Nat) (cell : String) : String :=
  cell ++ String.ofList (List.replicate (width - cell.length) ' ')

/-- Cells side by side, two spaces apart, without white space at the end of the line. -/
def columnLine (widths : List Nat) (cells : List String) : String :=
  String.ofList (trimEnd ("  ".intercalate (List.zipWith padEnd widths cells)).toList)

/-- The lines of the headers and the rows. Cells without a header are left out. -/
def columnLines (headers : List String) (rows : List (List String)) : List String :=
  (headers :: rows).map (columnLine (columnWidths headers rows))

end TypedTables.Text
