import TableParsing.Sheet.Rows
import TableParsing.Text.Blank

/-!
Rows set in columns of fixed width, for a terminal: the width of a column is that of its widest
cell, two blanks stand between columns, and no line ends with blanks. The first row says how many
columns there are.
-/

namespace TableParsing.Sheet

def columnWidth (rows : Rows) (c : Nat) : Nat :=
  (rows.map fun r => ((r[c]?).getD "").length).foldl max 0

/-- The widths of the columns that the first row has. -/
def columnWidths (rows : Rows) : List Nat :=
  (List.range (rows.headD []).length).map (columnWidth rows)

def padCell (width : Nat) (cell : String) : List Char :=
  cell.toList ++ List.replicate (width - cell.length) ' '

def joinCells (widths : List Nat) (row : List String) : List Char :=
  [' ', ' '].intercalate ((row.zipIdx).map fun (cell, c) => padCell ((widths[c]?).getD 0) cell)

def layoutRow (widths : List Nat) (row : List String) : String :=
  String.ofList (Text.trimRight (joinCells widths row))

def layout (rows : Rows) : String :=
  "\n".intercalate (rows.map (layoutRow (columnWidths rows)))

inductive LayoutError where
  | rowTooLong
  deriving DecidableEq, Repr

def LayoutError.message : LayoutError → String
  | rowTooLong => "list index out of range"

def render (rows : Rows) : Except LayoutError String :=
  if rows.any (fun r => r.length > (rows.headD []).length) then .error .rowTooLong
  else .ok (layout rows)

end TableParsing.Sheet
