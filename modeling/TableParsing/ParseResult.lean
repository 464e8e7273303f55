import TableParsing.Grammar.Basic

/-!
What both engines report: whether the input is accepted, why it is not, and the steps of the run.
-/

namespace TableParsing

/-- One step of a run, as it is shown: the stack from its bottom, the input that is left, and what
is done. -/
structure Snapshot where
  stack : List String
  remaining : List String
  action : String
  deriving DecidableEq, Repr

structure ParseResult where
  accepted : Bool
  error : Option String
  steps : List Snapshot
  deriving DecidableEq, Repr

def undeclared? (g : Grammar) (tokens : List Symbol) : Option Symbol :=
  tokens.find? (!g.isTerminal ·)

def undeclaredMessage (s : Symbol) : String := "Undeclared input symbol '" ++ s.name ++ "'"

def rejectAction (message : String) : String := "reject: " ++ message

end TableParsing
