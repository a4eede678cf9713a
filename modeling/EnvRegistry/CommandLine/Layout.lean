import EnvRegistry.Text.Blank

/-! # Tables

    A table has a line of headers, a line of dashes and a line for every row.  Every
    cell is filled up with blanks to the width of its column, and two blanks stand
    between columns.  A column is as wide as the longest of its cells in bytes; since a
    cell never has more characters than bytes, it fits. -/

namespace EnvRegistry.CommandLine

/-- A cell filled up with blanks to a width in characters. -/
def padCell (width : Nat) (cell : String) : String :=
  cell ++ String.ofList (List.replicate (width - cell.length) ' ')

/-- Column widths that also suit another line. -/
def widen : List Nat → List String → List Nat
  | w :: ws, c :: cs => max w c.utf8ByteSize :: widen ws cs
  | ws, [] => ws
  | [], _ :: _ => []

/-- The widths of the columns of a table. -/
def columnWidths (headers : List String) (rows : List (List String)) : List Nat :=
  rows.foldl widen (headers.map String.utf8ByteSize)

/-- The cells of a line, each filled up to the width of its column.  A cell that has no column is
left as it is. -/
def padCells : List Nat → List String → List String
  | w :: ws, c :: cs => padCell w c :: padCells ws cs
  | [], c :: cs => padCell 0 c :: padCells [] cs
  | _, [] => []

/-- A line of a table with the blanks at its end. -/
def paddedLine (widths : List Nat) (cells : List String) : String :=
  String.intercalate "  " (padCells widths cells)

/-- The lines of a table. -/
def tableLines (headers : List String) (rows : List (List String)) : List String :=
  let widths := columnWidths headers rows
  let line (cells : List String) := Text.trimEnd (paddedLine widths cells)
  let dashes := widths.map fun w => String.ofList (List.replicate w '-')
  line headers :: String.intercalate "  " dashes :: rows.map line

/-- Ids with commas between them, or a dash if there are none. -/
def idList (ids : List UInt32) : String :=
  if ids.isEmpty then "-" else String.intercalate ", " (ids.map fun id => toString id.toNat)

end EnvRegistry.CommandLine
