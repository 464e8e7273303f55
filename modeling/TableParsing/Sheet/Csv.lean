import TableParsing.Sheet.Rows

/-!
Rows as comma-separated values: a field is quoted if it holds a comma, a quote or a line end, and a
quote in it is written twice. Every line ends with a carriage return and a line feed.
-/

namespace TableParsing.Sheet

def forcesQuotes (c : Char) : Bool := c == ',' || c == '"' || c == '\r' || c == '\n'

def quoteField (cs : List Char) : List Char :=
  '"' :: (cs.flatMap fun c => if c == '"' then ['"', '"'] else [c]) ++ ['"']

def csvField (cell : String) : List Char :=
  if cell.toList.any forcesQuotes then quoteField cell.toList else cell.toList

/-- A line; a single empty field is quoted, to tell it from an empty line. -/
def csvLine (row : List String) : List Char :=
  (if row = [""] then ['"', '"'] else [','].intercalate (row.map csvField)) ++ ['\r', '\n']

def csv (rows : Rows) : String := String.ofList (rows.flatMap csvLine)

end TableParsing.Sheet
