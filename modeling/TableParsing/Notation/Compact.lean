import TableParsing.Grammar.Basic
import TableParsing.Notation.RuleLine
import TableParsing.Text.Integer
import TableParsing.Text.Lines
import TableParsing.Text.Uppercase

/-!
The compact notation: `S -> aSb e`. Every character is a symbol, an uppercase one a nonterminal, and
`e` marks the empty alternative; alternatives are divided by blanks. A later rule for the same
left-hand side replaces the earlier one. In a stream, a line with the number of rules comes first.
-/

namespace TableParsing.Notation.Compact
open Text

def charSymbol (c : Char) : Symbol :=
  if c == 'e' then Symbol.epsilon
  else if isUppercase c then Symbol.nonterminal (String.singleton c)
  else Symbol.terminal (String.singleton c)

structure Rule where
  left : String
  alternatives : List (List Symbol)
  deriving DecidableEq, Repr

def readLine (line : String) : Except Error (Option Rule) :=
  let trimmed := trim line.toList
  if isSkipped trimmed then .ok none
  else do
    let (left, right) ← splitRule trimmed
    let alts := (words right).map (·.map charSymbol)
    match left with
    | [c] =>
      if !isUppercase c then throw (.leftNotUppercase line)
      if alts.isEmpty then throw (.noAlternatives line)
      return some ⟨String.singleton c, alts⟩
    | _ => throw (.leftNotUppercase line)

/-- The start symbol of some rules: the one asked for, else `S` if it has a rule, else the first
left-hand side. -/
def chooseStart (rules : List Rule) (start : Option String) : String :=
  match start with
  | some name => name
  | none =>
    let names := rules.map Rule.left
    if names.contains "S" then "S" else names.headD "S"

def assemble (start : String) (rules : List Rule) : Grammar :=
  rules.foldl (fun g r => g.define (Symbol.nonterminal r.left) r.alternatives)
    (Grammar.ofStart (Symbol.nonterminal start))

def read (lines : List String) (start : Option String) : Except Error Grammar := do
  let rules := (← lines.mapM readLine).filterMap id
  if rules.isEmpty then throw .noProductions
  return assemble (chooseStart rules start) rules

/-- The grammar at the head of a stream of lines, and the lines after it. The first line gives the
number of rule lines; lines that the stream lacks are blank. -/
def readStream (lines : List (List Char)) : Except Error Grammar × List (List Char) :=
  let header := trim (lines.headD [])
  match Integer.read header with
  | .error _ => (.error (.countExpected (String.ofList header)), lines.tail)
  | .ok count =>
    let rest := lines.tail
    (read ((rest.take count.toNat).map String.ofList) none, rest.drop count.toNat)

end TableParsing.Notation.Compact
