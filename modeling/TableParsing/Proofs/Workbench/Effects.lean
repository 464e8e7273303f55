import TableParsing.Workbench.Basic

/- What a step at a workbench can do to the grammars and to the analyzer. Most steps touch neither;
   the others put a grammar on the bench, change one at its place, make an analyzer or use it. -/
namespace TableParsing.Workbench

/-- The grammars and the analyzer are as they were. -/
structure Keeps (w w' : Workbench) : Prop where
  grammars : w'.grammars = w.grammars
  analyzer : w'.analyzer = w.analyzer

variable {w : Workbench}

theorem keeps_refl : w.Keeps w := ⟨rfl, rfl⟩

theorem keeps_need {α : Type} {part : Option α} {act : α → Result}
    (acts : ∀ a, w.Keeps (act a).2) : w.Keeps (w.need part act).2 := by
  cases part with
  | none => exact keeps_refl
  | some a => exact acts a

theorem keeps_needGrammar {act : Nat → Grammar → Result} (acts : ∀ n g, w.Keeps (act n g).2) :
    w.Keeps (w.needGrammar act).2 :=
  keeps_need fun n => keeps_need fun g => acts n g

theorem keeps_needMade {α : Type} {part : Option (Made α)} {act : Made α → Grammar → Result}
    (acts : ∀ made g, w.Keeps (act made g).2) : w.Keeps (w.needMade part act).2 :=
  keeps_need fun made => keeps_need fun g => acts made g

theorem keeps_needArtifacts {act : Artifacts → Result} (acts : ∀ art, w.Keeps (act art).2) :
    w.Keeps (w.needArtifacts act).2 :=
  keeps_needMade fun _ _ => acts _

theorem keeps_ite {p : Prop} [Decidable p] {r r' : Result} (yes : w.Keeps r.2)
    (no : w.Keeps r'.2) : w.Keeps (if p then r else r').2 := by
  split
  · exact yes
  · exact no

theorem keeps_keepBuilder (source : Nat) (r : Except ShiftReduce.Stopped ShiftReduce.Builder)
    (answer : ShiftReduce.Builder → Answer) : w.Keeps (w.keepBuilder source r answer).2 := by
  cases r <;> exact ⟨rfl, rfl⟩

/-- What a step does to the grammars and to the analyzer. -/
inductive Effect (w w' : Workbench) : Command → Prop where
  | keep {c : Command} (kept : w.Keeps w') : Effect w w' c
  | place {c : Command} (g : Grammar) (grammars : w'.grammars = w.grammars ++ [g])
      (analyzer : w'.analyzer = w.analyzer) : Effect w w' c
  | add {lhs : Symbol} {alts : List (List Symbol)} {n : Nat} {g h : Grammar}
      (here : w.current = some n) (held : w.grammar? n = some g) (added : g.add lhs alts = .ok h)
      (grammars : w'.grammars = w.grammars.set n h) (analyzer : w'.analyzer = w.analyzer) :
      Effect w w' (.add lhs alts)
  | newAnalyzer {mode : OnConflict} {n : Nat} (here : w.current = some n)
      (grammars : w'.grammars = w.grammars) (analyzer : w'.analyzer = some ⟨n, ⟨.new mode, 0⟩⟩) :
      Effect w w' (.newAnalyzer mode)
  | analyze {made : Made NumberedAnalyzer} {g : Grammar} (number : Nat)
      (stands : w.analyzer = some made) (held : w.grammar? made.source = some g)
      (grammars : w'.grammars = w.grammars)
      (analyzer : w'.analyzer =
        some ⟨made.source, ⟨(made.value.analyzer.analyze g).2, number⟩⟩) : Effect w w' .analyze

theorem effect_need {α : Type} {part : Option α} {act : α → Result} {c : Command}
    (acts : ∀ a, part = some a → Effect w (act a).2 c) : Effect w (w.need part act).2 c := by
  cases part with
  | none => exact .keep keeps_refl
  | some a => exact acts a rfl

theorem effect_place {c : Command} (r : Except GrammarSource.Error Grammar) :
    Effect w (w.place r).2 c := by
  cases r with
  | error e => exact .keep keeps_refl
  | ok g => exact .place g rfl rfl

theorem effect_addRule (lhs : Symbol) (alts : List (List Symbol)) :
    Effect w (w.addRule lhs alts).2 (.add lhs alts) := by
  refine effect_need fun n here => effect_need fun g held => ?_
  dsimp only
  cases added : g.add lhs alts with
  | error e => exact .keep keeps_refl
  | ok h => exact .add here held added rfl rfl

theorem effect_analyzeStep : Effect w w.analyzeStep.2 .analyze :=
  effect_need fun _ stands => effect_need fun _ held => .analyze _ stands held rfl rfl

theorem keeps_gotoStateStep (n : Int) (s : Symbol) : w.Keeps (w.gotoStateStep n s).2 := by
  refine keeps_needMade fun made g => ?_
  cases (refreshAutomaton g made.value).gotoState n s <;> exact ⟨rfl, rfl⟩

theorem keeps_buildTablesStep : w.Keeps w.buildTablesStep.2 := by
  refine keeps_need fun sets => keeps_needGrammar fun _ g => ?_
  cases ShiftReduce.build g sets.value.follow <;> exact ⟨rfl, rfl⟩

theorem keeps_buildPredictiveStep : w.Keeps w.buildPredictiveStep.2 := by
  refine keeps_need fun sets => keeps_needGrammar fun _ g => ?_
  cases Predictive.build g sets.value <;> exact ⟨rfl, rfl⟩

theorem effect_step (c : Command) : Effect w (w.step c).2 c := by
  cases c with
  | startGrammar | load => exact effect_place _
  | add lhs alts => exact effect_addRule lhs alts
  | newAnalyzer mode =>
    exact effect_need fun n here => effect_need fun _ _ => .newAnalyzer here rfl rfl
  | analyze => exact effect_analyzeStep
  | showProduction | sort | showItem | canonical | setPredictive | diagnostics =>
    exact .keep ⟨rfl, rfl⟩
  | advance i => exact .keep (keeps_ite keeps_refl keeps_refl)
  | showGrammar | classify | productions | productionsFor | symbols | lookup | augment | tokenize
  | computeSets | overrideSets | working | closure | goto | newAutomaton | setTables =>
    exact .keep (keeps_needGrammar fun _ _ => ⟨rfl, rfl⟩)
  | validate => exact .keep (keeps_needGrammar fun _ _ => keeps_ite keeps_refl keeps_refl)
  | firstOf | buildStates | productionOf =>
    exact .keep (keeps_needMade fun _ _ => ⟨rfl, rfl⟩)
  | transitions | stateOf | builderFollow => exact .keep (keeps_need fun _ => keeps_refl)
  | followOf s =>
    refine .keep (keeps_need fun sets => ?_)
    cases sets.value.follow.get? s <;> exact keeps_refl
  | getState n =>
    refine .keep (keeps_need fun made => ?_)
    cases made.value.getState n <;> exact keeps_refl
  | gotoState n s => exact .keep (keeps_gotoStateStep n s)
  | buildTables => exact .keep keeps_buildTablesStep
  | buildPredictive => exact .keep keeps_buildPredictiveStep
  | tableConflicts | newBuilder | shiftReduceParse | predictiveConflicts | predictiveParse =>
    exact .keep (keeps_need fun _ => keeps_needGrammar fun _ _ => ⟨rfl, rfl⟩)
  | setAction | setGoto | runBuilder =>
    exact .keep (keeps_needMade fun _ _ => keeps_keepBuilder _ _ _)
  | runEngine engine input trace =>
    refine .keep (keeps_needArtifacts fun art => ?_)
    cases art.parser engine with
    | error e => exact keeps_refl
    | ok p => exact keeps_needGrammar fun _ _ => keeps_refl
  | sheets => exact .keep (keeps_needArtifacts fun _ => keeps_refl)

end TableParsing.Workbench
