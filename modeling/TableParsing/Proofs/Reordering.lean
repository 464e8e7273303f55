import TableParsing.Proofs.ShiftReduce.Reordering

/- The analysis and the order of the rules. A grammar can be written down in many orders, with
   alternatives given more than once. As long as no two alternatives of a nonterminal have one
   body, what is computed is the same, down to the numbers of the states and the order of the
   conflicts. -/
namespace TableParsing

/-- Two grammars with the same productions have the same sets, the same predictive table if any, the
same numbered states, the same list of conflicts and the same shift-reduce tables if any. -/
theorem reordered_analysis {g h : Grammar} (built : g.Built) (built' : h.Built)
    (same : g.Reordered h) (distinct : g.DistinctBodies) :
    FirstFollow.ofGrammar g = FirstFollow.ofGrammar h ∧
    (∀ table, Predictive.build g (FirstFollow.ofGrammar g) = .ok table ↔
      Predictive.build h (FirstFollow.ofGrammar h) = .ok table) ∧
    (ShiftReduce.automaton g).states = (ShiftReduce.automaton h).states ∧
    (ShiftReduce.automaton g).transitions = (ShiftReduce.automaton h).transitions ∧
    ShiftReduce.conflicts g (FirstFollow.ofGrammar g).follow =
      ShiftReduce.conflicts h (FirstFollow.ofGrammar h).follow ∧
    (ShiftReduce.build g (FirstFollow.ofGrammar g).follow).map ShiftReduce.Tables.contents =
      (ShiftReduce.build h (FirstFollow.ofGrammar h).follow).map ShiftReduce.Tables.contents := by
  have d := Grammar.built_declared built
  have d' := Grammar.built_declared built'
  have alike := Augmented.alike_of_reordered same d d' distinct
  have numbered := Automaton.alike_build alike
  have sets := same.firstFollow d d'
  refine ⟨sets, ?_, numbered.states, numbered.transitions, ?_, ?_⟩
  · intro table
    exact ⟨Predictive.build_reordered same d d', Predictive.build_reordered same.symm d' d⟩
  · rw [sets]
    exact ShiftReduce.conflicts_alike d d' alike _
  · rw [sets]
    exact ShiftReduce.build_alike d d' alike _

/-- Brackets around a letter that may be missing. -/
def centred : Grammar :=
  ((Grammar.ofStart (.nonterminal "S")).define (.nonterminal "S")
    [[.terminal "a", .nonterminal "S", .terminal "b"], [.nonterminal "A"]]).define
    (.nonterminal "A") [[.terminal "c"], []]

/-- The same with the letter first, and with its empty alternative given twice. -/
def recentred : Grammar :=
  ((Grammar.ofStart (.nonterminal "S")).define (.nonterminal "A")
    [[], [.terminal "c"], [.epsilon]]).define (.nonterminal "S")
    [[.nonterminal "A"], [.terminal "a", .nonterminal "S", .terminal "b"]]

theorem centred_built : centred.Built :=
  Grammar.built_define (Grammar.built_define (Grammar.built_ofStart rfl) rfl (by decide)) rfl
    (by decide)

theorem recentred_built : recentred.Built :=
  Grammar.built_define (Grammar.built_define (Grammar.built_ofStart rfl) rfl (by decide)) rfl
    (by decide)

theorem centred_reordered : centred.Reordered recentred where
  start := rfl
  nonterminals := by decide +kernel
  productions := by
    have forth : ∀ p ∈ centred.productions, p ∈ recentred.productions := by decide +kernel
    have back : ∀ p ∈ recentred.productions, p ∈ centred.productions := by decide +kernel
    exact fun p => ⟨forth p, back p⟩

theorem centred_distinctBodies : centred.DistinctBodies := by
  have distinct : ∀ p ∈ centred.productions, ∀ q ∈ centred.productions,
      p.lhs = q.lhs → p.body = q.body → p = q := by
    decide +kernel
  exact distinct

/-- Their rules differ, and they share both tables. -/
theorem centred_analysis : centred.rules ≠ recentred.rules ∧ centred.Reordered recentred ∧
    centred.DistinctBodies ∧
    (∃ table, Predictive.build centred (FirstFollow.ofGrammar centred) = .ok table ∧
      Predictive.build recentred (FirstFollow.ofGrammar recentred) = .ok table) ∧
    ∃ t t', ShiftReduce.build centred (FirstFollow.ofGrammar centred).follow = .ok t ∧
      ShiftReduce.build recentred (FirstFollow.ofGrammar recentred).follow = .ok t' ∧
      t.action = t'.action ∧ t.goto = t'.goto := by
  obtain ⟨_, predictive, _, _, _, tables⟩ := reordered_analysis centred_built recentred_built
    centred_reordered centred_distinctBodies
  have rules : centred.rules ≠ recentred.rules := by decide +kernel
  have filled : (Predictive.build centred (FirstFollow.ofGrammar centred)).toOption.any
      (fun _ => true) = true := by
    decide +kernel
  have filled' : (ShiftReduce.build centred (FirstFollow.ofGrammar centred).follow).toOption.any
      (fun _ => true) = true := by
    decide +kernel
  obtain ⟨table, made, _⟩ := exists_ok_of_any filled
  obtain ⟨t, made', _⟩ := exists_ok_of_any filled'
  rw [made'] at tables
  cases other : ShiftReduce.build recentred (FirstFollow.ofGrammar recentred).follow with
  | error e =>
    rw [other] at tables
    cases tables
  | ok t' =>
    rw [other] at tables
    have contents : t.contents = t'.contents := Except.ok.inj tables
    have shared := (predictive table).mp made
    exact ⟨rules, centred_reordered, centred_distinctBodies, ⟨table, made, shared⟩, t, t', made',
      rfl, congrArg Prod.fst contents, congrArg (·.2.1) contents⟩

end TableParsing
