import TableParsing.Proofs.Grammar.Declared
import TableParsing.Proofs.Workbench.Effects

/- An analyzer keeps its last analysis and gives it again while the revision of the grammar is the
   same. The grammar is shared: rules are added behind the back of the analyzer. Every addition
   that goes through raises the revision and one that is refused changes nothing, so what is kept
   at the present revision is right. This is followed through all steps at a workbench. -/
namespace TableParsing

namespace Analyzer

/-- What is kept comes from the past of the grammar, and from its present state if the revision has
not moved since. -/
def Coherent (a : Analyzer) (g : Grammar) : Prop :=
  ∀ kept, a.cache = some kept → kept.revision ≤ g.revision ∧
    (kept.revision = g.revision → kept.artifacts = TableParsing.analyze a.mode g)

theorem coherent_new (mode : OnConflict) (g : Grammar) : (Analyzer.new mode).Coherent g := by
  intro kept stored
  cases stored

/-- An addition raises the revision, after which nothing kept is current. -/
theorem Coherent.add {a : Analyzer} {g h : Grammar} (coherent : a.Coherent g) {lhs : Symbol}
    {alts : List (List Symbol)} (added : g.add lhs alts = .ok h) : a.Coherent h := by
  obtain ⟨_, _, rfl⟩ := Grammar.add_eq_ok added
  intro kept stored
  have older := (coherent kept stored).1
  have raised : (g.define lhs alts).revision = g.revision + 1 := rfl
  refine ⟨by omega, ?_⟩
  intro current
  omega

@[simp]
theorem analyze_mode (a : Analyzer) (g : Grammar) : (a.analyze g).2.mode = a.mode := by
  unfold analyze
  split
  · split <;> rfl
  · rfl

theorem new_analyze (mode : OnConflict) (g : Grammar) :
    ((Analyzer.new mode).analyze g).1 = TableParsing.analyze mode g := rfl

/-- What is found, kept or not, is the analysis of the grammar, and so is what is kept next. -/
theorem Coherent.analyze {a : Analyzer} {g : Grammar} (coherent : a.Coherent g) :
    (a.analyze g).1 = TableParsing.analyze a.mode g ∧ (a.analyze g).2.Coherent g := by
  have renewed :
      Coherent { a with cache := some ⟨g.revision, TableParsing.analyze a.mode g⟩ } g := by
    intro kept stored
    cases stored
    exact ⟨Nat.le_refl _, fun _ => rfl⟩
  unfold Analyzer.analyze
  split
  case h_1 kept stored =>
    split
    case isTrue current => exact ⟨(coherent kept stored).2 current, coherent⟩
    case isFalse => exact ⟨rfl, renewed⟩
  case h_2 => exact ⟨rfl, renewed⟩

end Analyzer

namespace Workbench

def after (w : Workbench) (cs : List Command) : Workbench :=
  cs.foldl (fun w c => (w.step c).2) w

/-- The next analysis gives this result. -/
def Finds (w : Workbench) (art : Artifacts) : Prop :=
  ∃ isPrevious, (w.step .analyze).1 = .ok (.artifacts art isPrevious)

/-- The analyzer has this mode, belongs to the grammar with this number and is coherent with it. -/
def Watches (w : Workbench) (mode : OnConflict) (n : Nat) : Prop :=
  ∃ kept g, w.analyzer = some ⟨n, kept⟩ ∧ w.grammar? n = some g ∧ kept.analyzer.mode = mode ∧
    kept.analyzer.Coherent g

variable {w : Workbench} {mode : OnConflict} {n : Nat}

theorem finds_of_analyzer {made : Made NumberedAnalyzer} {g : Grammar}
    (stands : w.analyzer = some made) (held : w.grammar? made.source = some g) :
    w.Finds (made.value.analyzer.analyze g).1 := by
  simp only [Finds, step, analyzeStep, needMade, need, stands, held]
  exact ⟨_, rfl⟩

theorem step_add_ok {g h : Grammar} (here : w.current = some n) (held : w.grammar? n = some g)
    {lhs : Symbol} {alts : List (List Symbol)} (added : g.add lhs alts = .ok h) :
    w.step (.add lhs alts) = (.ok (.grammar h), { w with grammars := w.grammars.set n h }) := by
  simp only [step, addRule, needGrammar, need, here, held, added]

theorem step_add_error {g : Grammar} {e : Grammar.Error} (here : w.current = some n)
    (held : w.grammar? n = some g) {lhs : Symbol} {alts : List (List Symbol)}
    (refused : g.add lhs alts = .error e) :
    w.step (.add lhs alts) = (.error (.source (.rules e)), w) := by
  simp only [step, addRule, needGrammar, need, here, held, refused, failed]

theorem watches_newAnalyzer {g : Grammar} (here : w.current = some n)
    (held : w.grammar? n = some g) (mode : OnConflict) :
    (w.step (.newAnalyzer mode)).2.Watches mode n := by
  have made : w.step (.newAnalyzer mode) =
      (.ok .done, { w with analyzer := some ⟨n, ⟨.new mode, 0⟩⟩ }) := by
    simp only [step, needGrammar, need, here, held]
  rw [made]
  exact ⟨⟨.new mode, 0⟩, g, rfl, held, rfl, Analyzer.coherent_new mode g⟩

/-- The one step that needs an argument is an addition to the very grammar that is watched. -/
theorem Watches.step (watches : w.Watches mode n) {c : Command} (other : ∀ m, c ≠ .newAnalyzer m) :
    (w.step c).2.Watches mode n := by
  obtain ⟨kept, g, stands, held, same, coherent⟩ := watches
  have within : n < w.grammars.length := (List.getElem?_eq_some_iff.mp held).1
  cases effect_step (w := w) c with
  | keep frame =>
    refine ⟨kept, g, frame.analyzer.trans stands, ?_, same, coherent⟩
    rw [grammar?, frame.grammars]
    exact held
  | place new grammars analyzer =>
    refine ⟨kept, g, analyzer.trans stands, ?_, same, coherent⟩
    rw [grammar?, grammars, List.getElem?_append_left within]
    exact held
  | add here before added grammars analyzer =>
    rename_i lhs alts n' g' h
    by_cases watched : n' = n
    · subst watched
      obtain rfl := Option.some.inj (held.symm.trans before)
      refine ⟨kept, h, analyzer.trans stands, ?_, same, coherent.add added⟩
      rw [grammar?, grammars, List.getElem?_set_self within]
    · refine ⟨kept, g, analyzer.trans stands, ?_, same, coherent⟩
      rw [grammar?, grammars, List.getElem?_set_ne watched]
      exact held
  | newAnalyzer => exact absurd rfl (other _)
  | analyze number stands' held' grammars analyzer =>
    obtain rfl := Option.some.inj (stands.symm.trans stands')
    obtain rfl := Option.some.inj (held.symm.trans held')
    refine ⟨_, g, analyzer, ?_, (Analyzer.analyze_mode _ _).trans same, coherent.analyze.2⟩
    rw [grammar?, grammars]
    exact held

theorem Watches.after (watches : w.Watches mode n) {cs : List Command}
    (others : ∀ m, .newAnalyzer m ∉ cs) : (w.after cs).Watches mode n := by
  induction cs generalizing w with
  | nil => exact watches
  | cons c rest ih =>
    refine ih (watches.step ?_) fun m later => others m (List.mem_cons_of_mem c later)
    rintro m rfl
    exact others m List.mem_cons_self

theorem Watches.finds (watches : w.Watches mode n) {g : Grammar} (held : w.grammar? n = some g) :
    w.Finds ((Analyzer.new mode).analyze g).1 := by
  obtain ⟨kept, g', stands, held', rfl, coherent⟩ := watches
  obtain rfl := Option.some.inj (held.symm.trans held')
  rw [Analyzer.new_analyze, ← coherent.analyze.1]
  exact finds_of_analyzer stands held

/-- Once an analyzer has been made, then whatever is done at the workbench, short of making another,
its next analysis is the one that a new analyzer would make of the grammar as it stands. An addition
to the grammar that goes through shows in the next analysis, and one that is refused has changed
nothing. -/
theorem analyses_fresh {g : Grammar} (here : w.current = some n) (held : w.grammar? n = some g)
    (mode : OnConflict) (cs : List Command) (others : ∀ m, .newAnalyzer m ∉ cs) :
    let w' := (w.step (.newAnalyzer mode)).2.after cs
    ∃ now, w'.grammar? n = some now ∧ w'.Finds ((Analyzer.new mode).analyze now).1 ∧
      (w'.current = some n → ∀ lhs alts,
        (∀ more, now.add lhs alts = .ok more →
          (w'.step (.add lhs alts)).2.Finds ((Analyzer.new mode).analyze more).1) ∧
        (∀ e, now.add lhs alts = .error e →
          w'.step (.add lhs alts) = (.error (.source (.rules e)), w'))) := by
  intro w'
  have watches : w'.Watches mode n := (watches_newAnalyzer here held mode).after others
  have ⟨_, now, _, standing, _⟩ := watches
  refine ⟨now, standing, watches.finds standing, ?_⟩
  intro current lhs alts
  constructor
  · intro more added
    have grown : (w'.step (.add lhs alts)).2.grammar? n = some more := by
      rw [step_add_ok current standing added]
      exact List.getElem?_set_self (List.getElem?_eq_some_iff.mp standing).1
    exact (watches.step (fun _ => Command.noConfusion)).finds grown
  · intro e refused
    exact step_add_error current standing refused

/-- Brackets as the only grammar. -/
def bracketsBench : Workbench :=
  { empty with grammars := [.brackets], current := some 0 }

/-- After a first analysis the brackets get an ambiguous rule, and are predictive no more; a rule
with the end marker is refused. -/
theorem bracketsBench_analyses_fresh :
    let w := (bracketsBench.step (.newAnalyzer .collect)).2.after [.analyze]
    let ambiguous : List (List Symbol) := [[.nonterminal "S", .nonterminal "S"], [.terminal "a"]]
    let marked : List (List Symbol) := [[.endMarker]]
    (∃ art, w.Finds art ∧ art.isLL1 = true) ∧
    (∃ art, (w.step (.add (.nonterminal "S") ambiguous)).2.Finds art ∧ art.isLL1 = false) ∧
    w.step (.add (.nonterminal "S") marked) =
      (.error (.source (.rules .endMarkerInAlternative)), w) := by
  intro w ambiguous marked
  have others : ∀ m, Command.newAnalyzer m ∉ [Command.analyze] := by
    intro m member
    cases List.mem_singleton.mp member
  obtain ⟨now, standing, found, later⟩ := analyses_fresh (w := bracketsBench) (n := 0) rfl rfl
    .collect [.analyze] others
  obtain rfl : Grammar.brackets = now := Option.some.inj standing
  have grown : Grammar.brackets.add (.nonterminal "S") ambiguous =
      .ok (Grammar.brackets.define (.nonterminal "S") ambiguous) := rfl
  have refused : Grammar.brackets.add (.nonterminal "S") marked =
      .error .endMarkerInAlternative := rfl
  have predictive : (analyze .collect .brackets).isLL1 = true := by decide +kernel
  have conflicting : (analyze .collect
      (Grammar.brackets.define (.nonterminal "S") ambiguous)).isLL1 = false := by
    decide +kernel
  obtain ⟨shows, _⟩ := later rfl (.nonterminal "S") ambiguous
  obtain ⟨_, keeps⟩ := later rfl (.nonterminal "S") marked
  exact ⟨⟨_, found, predictive⟩, ⟨_, shows _ grown, conflicting⟩, keeps _ refused⟩

end Workbench
end TableParsing
