import TableParsing.Analysis

/-!
Tables as rows of cells. The rows and columns of a sheet are the declared symbols and the states; a
cell shows the entry at its place, or nothing. The epsilon marker is shown as `eps`.
-/

namespace TableParsing.Sheet

abbrev Rows := List (List String)

def symbolText (s : Symbol) : String := if s = Symbol.epsilon then "eps" else s.name

def spellEpsilon (text : String) : String :=
  String.ofList (text.toList.flatMap fun c => if c = 'ε' then ['e', 'p', 's'] else [c])

def lookaheads (g : Grammar) : List Symbol := g.terminals.toList ++ [Symbol.endMarker]

def setRows (title : String) (sets : SymbolSets) : Rows :=
  [title, "Symbols (sorted)"] ::
    (SortedSet.ofList sets.keys).toList.map fun s =>
      [s.name, " ".intercalate ((sets.getD s ∅).toList.map symbolText)]

def predictiveRows (g : Grammar) (table : Predictive.Table) : Rows :=
  ("NonTerminal" :: (lookaheads g).map Symbol.name) ::
    g.nonterminals.toList.map fun s =>
      s.name :: (lookaheads g).map fun t =>
        match table.get? (s, t) with
        | some p => spellEpsilon p.text
        | none => ""

def stateNumbers (t : ShiftReduce.Tables) : List Nat := List.range t.states.length

def actionRows (g : Grammar) (t : ShiftReduce.Tables) : Rows :=
  ("State" :: (lookaheads g).map Symbol.name) ::
    (stateNumbers t).map fun (n : Nat) =>
      toString n :: (lookaheads g).map fun s =>
        match t.action.get? ((n : Int), s) with
        | some action => spellEpsilon action.text
        | none => ""

def gotoRows (g : Grammar) (t : ShiftReduce.Tables) : Rows :=
  ("State" :: g.nonterminals.toList.map Symbol.name) ::
    (stateNumbers t).map fun (n : Nat) =>
      toString n :: g.nonterminals.toList.map fun s =>
        match t.goto.get? ((n : Int), s) with
        | some target => toString target
        | none => ""

def stateRows (t : ShiftReduce.Tables) : Rows :=
  ["State", "Items"] ::
    t.states.zipIdx.map fun (items, n) =>
      [toString n, "; ".intercalate (items.toList.map Item.text)]

def ofArtifacts (art : Artifacts) : List (String × Rows) :=
  match art.firstFollow with
  | none => []
  | some ff =>
    [("FIRST", setRows "FIRST" ff.first), ("FOLLOW", setRows "FOLLOW" ff.follow)] ++
    (match art.predictive with
      | some table => [("LL1_ParseTable", predictiveRows art.grammar table)]
      | none => []) ++
    (match art.shiftReduce with
      | some t => [("SLR1_Action", actionRows art.grammar t), ("SLR1_Goto", gotoRows art.grammar t),
          ("SLR1_States", stateRows t)]
      | none => [])

end TableParsing.Sheet
