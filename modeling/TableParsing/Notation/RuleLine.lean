import TableParsing.Notation.Error
import TableParsing.Text.Blank

/-!
Rule lines, which both notations share: blank lines and comments are skipped, and the first arrow
of any other line divides the left-hand side from the alternatives.
-/

namespace TableParsing.Notation
open Text

def cutArrow : List Char → Option (List Char × List Char)
  | [] => none
  | '-' :: '>' :: cs => some ([], cs)
  | c :: cs => (cutArrow cs).map fun r => (c :: r.1, r.2)

def splitAtChar (sep : Char) : List Char → List (List Char)
  | [] => [[]]
  | c :: cs =>
    if c == sep then [] :: splitAtChar sep cs
    else match splitAtChar sep cs with
      | [] => [[c]]
      | part :: rest => (c :: part) :: rest

def isSkipped (line : List Char) : Bool :=
  match line with
  | [] => true
  | '#' :: _ => true
  | '/' :: '/' :: _ => true
  | _ => false

def splitRule (line : List Char) : Except Error (List Char × List Char) :=
  match cutArrow line with
  | none => .error (.missingArrow (String.ofList line))
  | some (left, right) =>
    if (trim left).isEmpty then .error (.emptyLeft (String.ofList line)) else .ok (trim left, right)

end TableParsing.Notation
