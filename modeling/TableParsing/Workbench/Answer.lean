import TableParsing.Notation.Source
import TableParsing.Parser
import TableParsing.Sheet.Rows

/-!
What a workbench answers to a step, and the ways in which a step can fail.
-/

namespace TableParsing.Workbench

abbrev Cells (ν : Type) := List ((Int × Symbol) × ν)

inductive Answer where
  | done
  | valid
  | grammar (g : Grammar)
  | kind (k : SymbolKind) (isTerminal isNonterminal : Bool)
  | texts (ss : List String)
  | text (s : String)
  | productions (ps : List Production)
  | symbols (ss : List Symbol)
  | symbol (s : Option Symbol)
  | shownProduction (p : Production)
  | production (p : Production)
  | augmented (a : Augmented) (areNonterminals : List Bool)
  | sets (ff : FirstFollow)
  | passes (first follow : List PassLog)
  | shownItem (i : Item)
  | item (i : Item)
  | items (is : List Item)
  | states (ss : List State)
  | transitions (cells : Cells Nat)
  | stateNumber (n : Option Nat)
  | target (n : Option Nat) (stateCount : Nat)
  | tables (t : ShiftReduce.Tables)
  | builtTables (t : ShiftReduce.Tables) (conflicts : List ShiftReduce.Conflict)
  | shiftReduceConflicts (cs : List ShiftReduce.Conflict)
  | predictiveConflicts (cs : List Predictive.Conflict)
  | cell (action : Option ShiftReduce.Action) (conflicts : List ShiftReduce.Conflict)
  | gotoCells (cells : Cells Int)
  | predictive (nonterminals : List Symbol) (table : Predictive.Table)
  | verdict (accepted : Bool)
  | result (r : ParseResult)
  | artifacts (art : Artifacts) (isPrevious : Bool)
  | sheets (ss : List (String × Sheet.Rows))
  | diagnostics (ds : List Diagnostic)

inductive Failure where
  | notReady
  | source (e : GrammarSource.Error)
  | illFormed (missing : SymbolSet)
  | noSet (s : Symbol)
  | dotOutside (i : Item)
  | notShowable
  | cannotAdvance (i : Item)
  | automaton (e : Automaton.Error)
  | shiftReduce (e : ShiftReduce.Error)
  | predictive (e : Predictive.Error)
  | engine (e : EngineError)
  | parser (e : Parser.Error)

end TableParsing.Workbench
