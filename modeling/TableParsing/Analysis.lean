import TableParsing.Diagnostic
import TableParsing.Predictive.Run
import TableParsing.ShiftReduce.Builder
import TableParsing.ShiftReduce.Run

/-!
The analysis of a grammar: it is checked, its FIRST and FOLLOW sets are computed and both tables are
tried. A table that stops on a conflict is dropped, and the class of the grammar is reported. An
analyzer keeps its last result for as long as the grammar is at the same revision.
-/

namespace TableParsing

structure Artifacts where
  grammar : Grammar
  firstFollow : Option FirstFollow
  predictive : Option Predictive.Table
  shiftReduce : Option ShiftReduce.Tables
  diagnostics : List Diagnostic
  predictiveConflicts : List Predictive.Conflict
  shiftReduceConflicts : List ShiftReduce.Conflict
  deriving DecidableEq

namespace Artifacts

def isLL1 (art : Artifacts) : Bool := art.predictive.isSome

def isSLR1 (art : Artifacts) : Bool := art.shiftReduce.isSome

def classification (art : Artifacts) : String :=
  match art.isLL1, art.isSLR1 with
  | true, true => "LL(1) and SLR(1)"
  | true, false => "LL(1)"
  | false, true => "SLR(1)"
  | false, false => "neither"

end Artifacts

structure BuildReport (τ γ : Type) where
  table : Option τ
  conflicts : List γ
  diagnostics : List Diagnostic

def BuildReport.failed {τ γ : Type} (stage name : String) (message : γ → String)
    (conflicts : List γ) : BuildReport τ γ :=
  { table := none
    conflicts
    diagnostics := conflicts.map (fun c => .error (message c) (some stage) none) ++
      [.info ("Grammar is not " ++ name ++ ".") (some stage)] }

def predictiveReport (mode : OnConflict) (g : Grammar) (ff : FirstFollow) :
    BuildReport Predictive.Table Predictive.Conflict :=
  match Predictive.build g ff with
  | .ok table =>
    { table := some table, conflicts := []
      diagnostics := [.info "Grammar is LL(1)." (some "ll1")] }
  | .error e =>
    .failed "ll1" "LL(1)" Predictive.Conflict.message
      (match mode, e with
      | .stop, .conflict c => [c]
      | .stop, .noFollow _ => []
      | .collect, _ => (Predictive.conflicts g ff).toOption.getD [])

def shiftReduceReport (mode : OnConflict) (g : Grammar) (ff : FirstFollow) :
    BuildReport ShiftReduce.Tables ShiftReduce.Conflict :=
  match ShiftReduce.build g ff.follow with
  | .ok tables =>
    { table := some tables, conflicts := []
      diagnostics := [.info ("Grammar is SLR(1) (" ++ toString tables.states.length ++
        " LR(0) states).") (some "slr1")] }
  | .error e =>
    .failed "slr1" "SLR(1)" ShiftReduce.Conflict.message
      (match mode, e with
      | .stop, .conflict c => [c]
      | .stop, _ => []
      | .collect, _ => (ShiftReduce.conflicts g ff.follow).toOption.getD [])

def illFormedArtifacts (g : Grammar) : Artifacts :=
  { grammar := g
    firstFollow := none
    predictive := none
    shiftReduce := none
    diagnostics := [.error (Grammar.illFormedMessage g.undefinedSymbols) (some "grammar")
      (some "Add productions for every referenced nonterminal.")]
    predictiveConflicts := []
    shiftReduceConflicts := [] }

def analyze (mode : OnConflict) (g : Grammar) : Artifacts :=
  if g.WellFormed then
    let ff := FirstFollow.ofGrammar g
    let predictive := predictiveReport mode g ff
    let shiftReduce := shiftReduceReport mode g ff
    { grammar := g
      firstFollow := some ff
      predictive := predictive.table
      shiftReduce := shiftReduce.table
      diagnostics := predictive.diagnostics ++ shiftReduce.diagnostics
      predictiveConflicts := predictive.conflicts
      shiftReduceConflicts := shiftReduce.conflicts }
  else illFormedArtifacts g

structure CachedAnalysis where
  revision : Nat
  artifacts : Artifacts

structure Analyzer where
  mode : OnConflict
  cache : Option CachedAnalysis

namespace Analyzer

def new (mode : OnConflict) : Analyzer := ⟨mode, none⟩

def isCurrent (a : Analyzer) (g : Grammar) : Bool :=
  match a.cache with
  | none => false
  | some kept => kept.revision = g.revision

/-- The analysis of the grammar as it stands: the kept one while the revision is the same. -/
def analyze (a : Analyzer) (g : Grammar) : Artifacts × Analyzer :=
  match a.cache with
  | some kept =>
    if kept.revision = g.revision then (kept.artifacts, a)
    else
      let art := TableParsing.analyze a.mode g
      (art, { a with cache := some ⟨g.revision, art⟩ })
  | none =>
    let art := TableParsing.analyze a.mode g
    (art, { a with cache := some ⟨g.revision, art⟩ })

end Analyzer
end TableParsing
