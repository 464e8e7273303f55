import TableParsing.Workbench.Answer
import TableParsing.Workbench.Command

/-!
A workbench: one current grammar, and what has been made of this grammar or of earlier ones. All
that is made of a grammar belongs to it: rules that are added later count for it too. A step that
fails keeps what it has done before.
-/

namespace TableParsing

namespace Workbench

structure Made (α : Type) where
  source : Nat
  value : α

structure NumberedAnalyzer where
  analyzer : Analyzer
  number : Nat

structure NumberedArtifacts where
  artifacts : Artifacts
  number : Nat

end Workbench

/-- The grammars made so far, which of them is the current one, and what has been made of them. -/
structure Workbench where
  grammars : List Grammar
  current : Option Nat
  sets : Option (Workbench.Made FirstFollow)
  automaton : Option (Workbench.Made Automaton)
  builder : Option (Workbench.Made ShiftReduce.Builder)
  tables : Option ShiftReduce.Tables
  predictive : Option Predictive.Table
  analyzer : Option (Workbench.Made Workbench.NumberedAnalyzer)
  artifacts : Option (Workbench.Made Workbench.NumberedArtifacts)
  analysisCount : Nat
  diagnostics : List Diagnostic

namespace Workbench

def empty : Workbench :=
  { grammars := [], current := none, sets := none, automaton := none, builder := none,
    tables := none, predictive := none, analyzer := none, artifacts := none, analysisCount := 0,
    diagnostics := [] }

abbrev Result := Except Failure Answer × Workbench

def answered (w : Workbench) (a : Answer) : Result := (.ok a, w)

def failed (w : Workbench) (f : Failure) : Result := (.error f, w)

def ofExcept (w : Workbench) (r : Except Failure Answer) : Result := (r, w)

def grammar? (w : Workbench) (source : Nat) : Option Grammar := w.grammars[source]?

def need {α : Type} (w : Workbench) (part : Option α) (act : α → Result) : Result :=
  match part with
  | none => w.failed .notReady
  | some a => act a

def needGrammar (w : Workbench) (act : Nat → Grammar → Result) : Result :=
  w.need w.current fun n => w.need (w.grammar? n) (act n)

/-- Goes on with something that was made of a grammar, and with that grammar as it is now. -/
def needMade {α : Type} (w : Workbench) (part : Option (Made α)) (act : Made α → Grammar → Result) :
    Result :=
  w.need part fun made => w.need (w.grammar? made.source) (act made)

def place (w : Workbench) (r : Except GrammarSource.Error Grammar) : Result :=
  match r with
  | .error e => w.failed (.source e)
  | .ok g =>
    (.ok (.grammar g),
      { w with grammars := w.grammars ++ [g], current := some w.grammars.length })

def refreshAutomaton (g : Grammar) (m : Automaton) : Automaton :=
  { m with augmented := { m.augmented with grammar := g } }

def refreshBuilder (g : Grammar) (b : ShiftReduce.Builder) : ShiftReduce.Builder :=
  { b with automaton := refreshAutomaton g b.automaton }

def tokensOf (g : Grammar) : Input → List Symbol
  | .symbols tokens => tokens
  | .text style s => Notation.tokenize g style s

def runParser (p : Parser) (tokens : List Symbol) (trace : Bool) : Except Failure Answer :=
  if trace then ((p.result true tokens).mapError .parser).map .result
  else ((p.parse tokens).mapError .parser).map .verdict

def addRule (w : Workbench) (lhs : Symbol) (alts : List (List Symbol)) : Result :=
  w.needGrammar fun n g =>
    match g.add lhs alts with
    | .error e => w.failed (.source (.rules e))
    | .ok g => (.ok (.grammar g), { w with grammars := w.grammars.set n g })

def checkDots (items : List Item) (a : Answer) : Except Failure Answer :=
  match items.find? Item.dotOutside with
  | some i => .error (.dotOutside i)
  | none => .ok a

def showItem (i : Item) : Except Failure Answer := do
  let answer ← checkDots [i] (.shownItem i)
  if i.isShowable then return answer else throw .notShowable

def closureStep (w : Workbench) (items : List Item) : Result :=
  w.needGrammar fun _ g => w.ofExcept
    (checkDots items (.items (closure (.ofGrammar g) items).toList))

def gotoStep (w : Workbench) (items : List Item) (s : Symbol) : Result :=
  w.needGrammar fun _ g => w.ofExcept
    (checkDots items (.items (goto (.ofGrammar g) items s).toList))

def newAutomatonStep (w : Workbench) : Result :=
  w.needGrammar fun n g =>
    let m := Automaton.ofAugmented (.ofGrammar g)
    (.ok (.text m.startItem.text), { w with automaton := some ⟨n, m⟩ })

def buildStatesStep (w : Workbench) : Result :=
  w.needMade w.automaton fun made g =>
    let m := (refreshAutomaton g made.value).build
    (.ok (.states m.states), { w with automaton := some ⟨made.source, m⟩ })

def gotoStateStep (w : Workbench) (n : Int) (s : Symbol) : Result :=
  w.needMade w.automaton fun made g =>
    match (refreshAutomaton g made.value).gotoState n s with
    | .error e => w.failed (.automaton e)
    | .ok (target, m) =>
      (.ok (.target target m.states.length), { w with automaton := some ⟨made.source, m⟩ })

/-- Builds the shift-reduce tables of the current grammar; if that fails, there are none. -/
def buildTablesStep (w : Workbench) : Result :=
  w.need w.sets fun sets => w.needGrammar fun _ g =>
    match ShiftReduce.build g sets.value.follow with
    | .error e => (.error (.shiftReduce e), { w with tables := none })
    | .ok t => (.ok (.tables t), { w with tables := some t })

def keepBuilder (w : Workbench) (source : Nat) (r : Except ShiftReduce.Stopped ShiftReduce.Builder)
    (answer : ShiftReduce.Builder → Answer) : Result :=
  match r with
  | .ok b => (.ok (answer b), { w with builder := some ⟨source, b⟩ })
  | .error stopped =>
    (.error (.shiftReduce stopped.error), { w with builder := some ⟨source, stopped.builder⟩ })

def setActionStep (w : Workbench) (n : Int) (s : Symbol) (action : ShiftReduce.Action) : Result :=
  w.needMade w.builder fun made g =>
    w.keepBuilder made.source ((refreshBuilder g made.value).setAction n s action) fun b =>
      .cell (b.action.get? (n, s)) b.conflicts

def setGotoStep (w : Workbench) (n : Int) (s : Symbol) (target : Int) : Result :=
  w.needMade w.builder fun made g =>
    w.keepBuilder made.source ((refreshBuilder g made.value).setGoto n s target) fun b =>
      .gotoCells b.goto.cells

def runBuilderStep (w : Workbench) : Result :=
  w.needMade w.builder fun made g =>
    w.keepBuilder made.source (refreshBuilder g made.value).build fun b =>
      .builtTables b.tables b.conflicts

def buildPredictiveStep (w : Workbench) : Result :=
  w.need w.sets fun sets => w.needGrammar fun _ g =>
    match Predictive.build g sets.value with
    | .error e => (.error (.predictive e), { w with predictive := none })
    | .ok t => (.ok (.predictive g.nonterminals.toList t), { w with predictive := some t })

def analyzeStep (w : Workbench) : Result :=
  w.needMade w.analyzer fun made g =>
    let kept := made.value
    let count := if kept.analyzer.isCurrent g then w.analysisCount else w.analysisCount + 1
    let number := if kept.analyzer.isCurrent g then kept.number else count
    let (art, analyzer) := kept.analyzer.analyze g
    let isPrevious := (w.artifacts.map (·.value.number)) = some number
    (.ok (.artifacts art isPrevious),
      { w with
        analyzer := some ⟨made.source, ⟨analyzer, number⟩⟩
        artifacts := some ⟨made.source, ⟨art, number⟩⟩
        analysisCount := count })

/-- The last analysis, over the present version of its grammar. -/
def needArtifacts (w : Workbench) (act : Artifacts → Result) : Result :=
  w.needMade w.artifacts fun made g => act { made.value.artifacts with grammar := g }

def applyDiagnostics (ds : List Diagnostic) : DiagnosticCommand → List Diagnostic
  | .list => ds
  | .report d => ds ++ [d]
  | .extend more => ds ++ more
  | .clear => []

def step (w : Workbench) : Command → Result
  | .startGrammar start => w.place ((Grammar.new start).mapError .rules)
  | .load source => w.place source.read
  | .add lhs alts => w.addRule lhs alts
  | .showGrammar => w.needGrammar fun _ g => w.answered (.grammar g)
  | .classify s => w.needGrammar fun _ g =>
    w.answered (.kind (g.classify s) (g.isTerminal s) (g.isNonterminal s))
  | .productions => w.needGrammar fun _ g => w.answered (.texts (g.productions.map Production.text))
  | .productionsFor lhs => w.needGrammar fun _ g => w.answered (.productions (g.productionsFor lhs))
  | .symbols => w.needGrammar fun _ g => w.answered (.symbols g.symbols)
  | .lookup name => w.needGrammar fun _ g => w.answered (.symbol (g.lookup name))
  | .validate => w.needGrammar fun _ g =>
    if g.WellFormed then w.answered .valid else w.failed (.illFormed g.undefinedSymbols)
  | .showProduction p => w.answered (.shownProduction p)
  | .sort ss => w.answered (.symbols (ss.mergeSort fun a b => (compare a b).isLE))
  | .augment ask => w.needGrammar fun _ g =>
    let a := Augmented.ofGrammar g
    w.answered (.augmented a (ask.map a.isNonterminal))
  | .tokenize style text => w.needGrammar fun _ g =>
    w.answered (.symbols (Notation.tokenize g style text))
  | .computeSets => w.needGrammar fun n g =>
    let ff := FirstFollow.ofGrammar g
    (.ok (.sets ff), { w with sets := some ⟨n, ff⟩ })
  | .overrideSets ff => w.needGrammar fun n _ =>
    (.ok .done, { w with sets := some ⟨n, ff⟩ })
  | .working => w.needGrammar fun _ g =>
    let first := firstSetsLogged g
    w.answered (.passes first.2 (followSetsLogged g first.1).2)
  | .firstOf seq => w.needMade w.sets fun sets g =>
    w.answered (.symbols (TableParsing.firstOf g sets.value.first seq).toList)
  | .followOf s => w.need w.sets fun sets =>
    match sets.value.follow.get? s with
    | none => w.failed (.noSet s)
    | some follow => w.answered (.symbols follow.toList)
  | .showItem i => w.ofExcept (showItem i)
  | .advance i =>
    if i.isReduce then w.failed (.cannotAdvance i) else w.answered (.item i.advance)
  | .canonical items => w.answered (.items (SortedSet.ofList items).toList)
  | .closure items => w.closureStep items
  | .goto items s => w.gotoStep items s
  | .newAutomaton => w.newAutomatonStep
  | .buildStates => w.buildStatesStep
  | .transitions => w.need w.automaton fun made =>
    w.answered (.transitions made.value.transitions.cells)
  | .stateOf items => w.need w.automaton fun made =>
    w.answered (.stateNumber (made.value.stateOf? (SortedSet.ofList items)))
  | .gotoState n s => w.gotoStateStep n s
  | .getState n => w.need w.automaton fun made =>
    match made.value.getState n with
    | .error e => w.failed (.automaton e)
    | .ok s => w.answered (.items s.toList)
  | .buildTables => w.buildTablesStep
  | .tableConflicts => w.need w.sets fun sets => w.needGrammar fun _ g => w.ofExcept
    (((ShiftReduce.conflicts g sets.value.follow).mapError .shiftReduce).map .shiftReduceConflicts)
  | .newBuilder mode => w.need w.sets fun sets => w.needGrammar fun n g =>
    (.ok .done, { w with builder := some ⟨n, .new g sets.value.follow mode⟩ })
  | .setAction n s action => w.setActionStep n s action
  | .setGoto n s target => w.setGotoStep n s target
  | .productionOf lhs body => w.needMade w.builder fun _ g => w.ofExcept
    (((ShiftReduce.productionOf g lhs body).mapError .shiftReduce).map .production)
  | .builderFollow s => w.need w.builder fun made =>
    w.answered (.symbols (ShiftReduce.followOf made.value.automaton.augmented made.value.follow
      s).toList)
  | .runBuilder => w.runBuilderStep
  | .setTables action goto => w.needGrammar fun _ g =>
    (.ok .done,
      { w with tables := some { action, goto, states := [], augmented := .ofGrammar g } })
  | .shiftReduceParse input trace => w.need w.tables fun t => w.needGrammar fun _ g =>
    w.ofExcept (runParser (.shiftReduce g t) (tokensOf g input) trace)
  | .buildPredictive => w.buildPredictiveStep
  | .predictiveConflicts => w.need w.sets fun sets => w.needGrammar fun _ g => w.ofExcept
    (((Predictive.conflicts g sets.value).mapError .predictive).map .predictiveConflicts)
  | .setPredictive table => (.ok .done, { w with predictive := some table })
  | .predictiveParse input trace => w.need w.predictive fun t => w.needGrammar fun _ g =>
    w.ofExcept (runParser (.predictive g t) (tokensOf g input) trace)
  | .newAnalyzer mode => w.needGrammar fun n _ =>
    (.ok .done, { w with analyzer := some ⟨n, ⟨.new mode, 0⟩⟩ })
  | .analyze => w.analyzeStep
  | .runEngine engine input trace => w.needArtifacts fun art =>
    match art.parser engine with
    | .error e => w.failed (.engine e)
    | .ok p => w.needGrammar fun _ g => w.ofExcept (runParser p (tokensOf g input) trace)
  | .sheets => w.needArtifacts fun art => w.answered (.sheets (Sheet.ofArtifacts art))
  | .diagnostics c =>
    let ds := applyDiagnostics w.diagnostics c
    (.ok (.diagnostics ds), { w with diagnostics := ds })

end Workbench
end TableParsing
