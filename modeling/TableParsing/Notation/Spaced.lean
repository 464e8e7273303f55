import TableParsing.Grammar.Basic
import TableParsing.Notation.RuleLine
import TableParsing.Text.Folded

/-!
The spaced notation: `E' -> + T E' | ε`. Symbols are words, alternatives are divided by `|`, and a
word is a nonterminal if some rule has it on its left. A later rule for the same left-hand side
adds its alternatives to the earlier ones.
-/

namespace TableParsing.Notation.Spaced
open Text

abbrev RawRules := OrderedMap String (List (List String))

/-- The words that stand for the empty alternative, in any letter case. -/
def epsilonWords : List String := ["ε", "eps", "epsilon"]

def isEpsilonWord (word : String) : Bool :=
  epsilonWords.contains (String.ofList (folded word.toList))

def alternatives (right : List Char) : List (List String) :=
  (splitAtChar '|' right).map fun part => (words part).map String.ofList

def readLine (rules : RawRules) (line : String) : Except Error RawRules :=
  let line := trim line.toList
  if isSkipped line then .ok rules
  else (splitRule line).map fun (left, right) =>
    rules.update (String.ofList left) [] (· ++ alternatives right)

def wordSymbol (rules : RawRules) (word : String) : Symbol :=
  if isEpsilonWord word then Symbol.epsilon
  else if rules.contains word then Symbol.nonterminal word
  else Symbol.terminal word

def assemble (start : String) (rules : RawRules) : Grammar :=
  rules.entries.foldl
    (fun g e => g.define (Symbol.nonterminal e.1) (e.2.map (·.map (wordSymbol rules))))
    (Grammar.ofStart (Symbol.nonterminal start))

def read (start : String) (lines : List String) : Except Error Grammar := do
  let rules ← lines.foldlM readLine ∅
  if rules.isEmpty then throw .noProductions
  if !rules.contains start then throw (.startUndefined start)
  return assemble start rules

end TableParsing.Notation.Spaced
