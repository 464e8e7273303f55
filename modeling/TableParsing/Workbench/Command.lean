import TableParsing.Diagnostic
import TableParsing.Notation.Source
import TableParsing.Notation.Tokens
import TableParsing.Predictive.Table
import TableParsing.ShiftReduce.Builder

/-!
What can be asked of a workbench, step by step.
-/

namespace TableParsing.Workbench

inductive Input where
  | symbols (tokens : List Symbol)
  | text (style : Notation.Style) (s : String)

inductive DiagnosticCommand where
  | list
  | report (d : Diagnostic)
  | extend (ds : List Diagnostic)
  | clear

inductive Command where
  | startGrammar (start : Symbol)
  | load (source : GrammarSource)
  | add (lhs : Symbol) (alts : List (List Symbol))
  | showGrammar
  | classify (s : Symbol)
  | productions
  | productionsFor (lhs : Symbol)
  | symbols
  | lookup (name : String)
  | validate
  | showProduction (p : Production)
  | sort (ss : List Symbol)
  | augment (ask : List Symbol)
  | tokenize (style : Notation.Style) (text : String)
  | computeSets
  | overrideSets (ff : FirstFollow)
  | working
  | firstOf (seq : List Symbol)
  | followOf (s : Symbol)
  | showItem (i : Item)
  | advance (i : Item)
  | canonical (items : List Item)
  | closure (items : List Item)
  | goto (items : List Item) (s : Symbol)
  | newAutomaton
  | buildStates
  | transitions
  | stateOf (items : List Item)
  | gotoState (n : Int) (s : Symbol)
  | getState (n : Int)
  | buildTables
  | tableConflicts
  | newBuilder (mode : OnConflict)
  | setAction (n : Int) (s : Symbol) (action : ShiftReduce.Action)
  | setGoto (n : Int) (s : Symbol) (target : Int)
  | productionOf (lhs : Symbol) (body : List Symbol)
  | builderFollow (s : Symbol)
  | runBuilder
  | setTables (action : ShiftReduce.ActionTable) (goto : ShiftReduce.GotoTable)
  | shiftReduceParse (input : Input) (trace : Bool)
  | buildPredictive
  | predictiveConflicts
  | setPredictive (table : Predictive.Table)
  | predictiveParse (input : Input) (trace : Bool)
  | newAnalyzer (mode : OnConflict)
  | analyze
  | runEngine (engine : String) (input : Input) (trace : Bool)
  | sheets
  | diagnostics (c : DiagnosticCommand)

end TableParsing.Workbench
