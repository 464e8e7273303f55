import TableParsing.FileTree
import TableParsing.Notation.Compact
import TableParsing.Sheet.Csv

/-!
The export of an analysis: every sheet as a file of comma-separated values, and all sheets in one
workbook. The grammar is read from a file in the compact notation; without a file, that of
arithmetic expressions is used.
-/

namespace TableParsing.Export
open Notation

structure Output where
  text : String
  csv : List (String × String)
  names : List String
  sheets : List (String × List Nat)
  deriving DecidableEq, Repr

inductive Error where
  | file (e : FileTree.Error)
  | grammar (e : Notation.Error)
  | noSheets
  | controlCharacter (cell : String)
  deriving DecidableEq, Repr

def Error.message : Error → String
  | file e => e.message
  | grammar e => e.message
  | noSheets => "At least one sheet must be visible"
  | controlCharacter cell => cell ++ " cannot be used in worksheets."

def demoRules : List String := ["E -> E+T T", "T -> T*F F", "F -> (E) i"]

def workbookName : String := "Parse_Tables.xlsx"

def isForbidden (c : Char) : Bool :=
  let n := c.toNat
  n ≤ 0x8 || n == 0xB || n == 0xC || (0xE ≤ n && n ≤ 0x1F)

def forbiddenCell? (sheets : List (String × Sheet.Rows)) : Option String :=
  (sheets.flatMap fun s => s.2.flatten).find? (·.toList.any isForbidden)

def columnWidths (rows : Sheet.Rows) : List Nat :=
  (List.range ((rows.map List.length).foldl max 0)).map fun c => if c = 0 then 22 else 18

def readGrammar (files : FileTree) : List String → Except Error Grammar
  | [] => (Compact.read demoRules (some "E")).mapError .grammar
  | path :: _ => do
    let text ← (files.readText path).mapError .file
    (Compact.readStream (Text.keepEnds (Text.unifyNewlines text.toList))).1.mapError .grammar

def outputPath : List String → String
  | _ :: path :: _ => FileTree.normalize path
  | _ => "."

/-- Makes the output directory, if need be, and tells its place. An export to no particular
directory goes to an empty one. -/
def makeOutput (files : FileTree) : List String → Except Error (FileTree × List String)
  | _ :: path :: _ => (files.makeDirectory (FileTree.normalize path)).mapError .file
  | _ => .ok (.empty, [])

def writeAll (directory : String) (files : FileTree) (texts : List (String × String)) :
    Except Error FileTree :=
  texts.foldlM (fun t f => (t.writeText (FileTree.pathWithin directory f.1) f.2).mapError .file)
    files

/-- Runs the export with a grammar file and an output directory, both of which may be absent. What
it leaves includes the sheets that were in the directory before. -/
def run (args : List String) (files : FileTree) : Except Error Output := do
  let g ← readGrammar files args
  let directory := outputPath args
  let (files, place) ← makeOutput files args
  let art := analyze .collect g
  let sheets := Sheet.ofArtifacts art
  let written := sheets.map fun s => (s.1 ++ ".csv", Sheet.csv s.2)
  let files ← writeAll directory files written
  if let some cell := forbiddenCell? sheets then throw (.controlCharacter cell)
  let files ← writeAll directory files [(workbookName, "")]
  if sheets.isEmpty then throw .noSheets
  let lines := ["Classification: " ++ art.classification] ++ art.diagnostics.map Diagnostic.text ++
    ["Wrote: " ++ ", ".intercalate (written.map Prod.fst), "Wrote " ++ workbookName ++ ": True"]
  return {
    text := String.join (lines.map (· ++ "\n"))
    csv := (files.filesIn place).filter (·.1.endsWith ".csv")
    names := (SortedSet.ofList (files.namesIn place)).toList
    sheets := sheets.map fun s => (s.1, columnWidths s.2) }

end TableParsing.Export
