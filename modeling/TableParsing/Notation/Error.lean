/-!
What can be wrong with a grammar text. An error about one line keeps that line.
-/

namespace TableParsing.Notation

inductive Error where
  | missingArrow (line : String)
  | emptyLeft (line : String)
  | leftNotUppercase (line : String)
  | noAlternatives (line : String)
  | noProductions
  | startUndefined (start : String)
  | countExpected (header : String)
  | startRequired
  deriving DecidableEq, Repr

namespace Error

def reason : Error → String
  | missingArrow _ => "Invalid production (missing '->')"
  | emptyLeft _ => "Invalid production (empty LHS)"
  | leftNotUppercase _ => "Compact LHS must be one uppercase letter"
  | noAlternatives _ => "Production has no alternatives"
  | noProductions => "Grammar has no productions"
  | startUndefined start => "Start symbol '" ++ start ++ "' has no productions"
  | countExpected _ => "Expected the number of rules"
  | startRequired => "Spaced notation needs grammar_start"

def line? : Error → Option String
  | missingArrow line => some line
  | emptyLeft line => some line
  | leftNotUppercase line => some line
  | noAlternatives line => some line
  | noProductions => none
  | startUndefined _ => none
  | countExpected header => some header
  | startRequired => none

def message (e : Error) : String :=
  match e.line? with
  | none => e.reason
  | some line => e.reason ++ ": " ++ line

end Error
end TableParsing.Notation
