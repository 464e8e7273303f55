import TableParsing.Proofs.ShiftReduce.Limit

/- The language of the shift-reduce engine. With tables that were built without conflict, the run on
   an input accepts exactly the sentences of the grammar. Where acceptance and reductions claimed
   one cell, no sentence is lost by keeping acceptance, since the stack spells the start symbol
   there and all input has been read. -/
namespace TableParsing.ShiftReduce

variable {g : Grammar} {t : Tables}

theorem run_of_declared {tokens : List Symbol} (terminal : ∀ s ∈ tokens, s ∈ g.terminals) :
    run g t tokens = outcome t (stepLimit t tokens) (initial tokens) := by
  unfold run
  rw [undeclared?_eq_none.mpr terminal]

theorem run_accepted_iff {tokens : List Symbol} :
    run g t tokens = some .accepted ↔ (∀ s ∈ tokens, s ∈ g.terminals) ∧
      outcome t (stepLimit t tokens) (initial tokens) = some .accepted := by
  constructor
  · intro h
    cases foreign : undeclared? g tokens with
    | none =>
      have terminal := undeclared?_eq_none.mp foreign
      exact ⟨terminal, (run_of_declared terminal).symm.trans h⟩
    | some s =>
      unfold run at h
      rw [foreign] at h
      cases h
  · rintro ⟨terminal, h⟩
    exact (run_of_declared terminal).trans h

theorem run_accepted_iff_parses (d : g.Declared)
    (built : build g (FirstFollow.ofGrammar g).follow = .ok t) {tokens : List Symbol} :
    run g t tokens = some .accepted ↔ ∃ f : Forest, f.Parses g tokens := by
  rw [run_accepted_iff]
  constructor
  · rintro ⟨terminal, h⟩
    obtain ⟨f, parses, _⟩ := parses_of_accepted d built terminal h
    exact ⟨f, parses⟩
  · rintro ⟨f, parses⟩
    obtain ⟨n, accepted⟩ := (accepts_of_parses d built parses).outcome
    refine ⟨?_, outcome_stepLimit accepted⟩
    rw [← parses.2.2]
    exact Forest.yield_terminals parses.2.1

/-- The shift-reduce engine decides the language of its grammar. -/
theorem shiftReduce_run_decides (built : g.Built)
    (made : build g (FirstFollow.ofGrammar g).follow = .ok t) (tokens : List Symbol) :
    run g t tokens = some .accepted ↔ g.Sentence tokens := by
  rw [run_accepted_iff_parses (Grammar.built_declared built) made, Grammar.sentence_iff_parses]

/-- A nonterminal that vanishes may come behind the start symbol, so the cell of acceptance is
claimed by a reduction as well; another nonterminal is neither reachable nor productive. -/
def trailing : Grammar :=
  let rules := (Grammar.ofStart (.nonterminal "S")).define (.nonterminal "S")
    [[.nonterminal "A", .terminal "b", .nonterminal "A"], [.nonterminal "S", .nonterminal "A"]]
  (rules.define (.nonterminal "A") [[]]).define (.nonterminal "U")
    [[.nonterminal "U", .terminal "c"]]

theorem trailing_built : trailing.Built := by
  refine Grammar.built_define (Grammar.built_define (Grammar.built_define
    (Grammar.built_ofStart rfl) rfl ?_) rfl ?_) rfl ?_
  all_goals decide

theorem trailing_run_decides :
    ∃ t, build trailing (FirstFollow.ofGrammar trailing).follow = .ok t ∧
      trailing.Sentence [.terminal "b"] ∧
      ¬ trailing.Sentence [.terminal "b", .terminal "b"] := by
  have runs : (build trailing (FirstFollow.ofGrammar trailing).follow).toOption.any
      (fun t => run trailing t [.terminal "b"] = some .accepted ∧
        run trailing t [.terminal "b", .terminal "b"] ≠ some .accepted) = true := by
    decide +kernel
  obtain ⟨t, made, h⟩ := exists_ok_of_any runs
  obtain ⟨accepted, rejected⟩ := of_decide_eq_true h
  refine ⟨t, made, ?_, ?_⟩
  · exact (shiftReduce_run_decides trailing_built made _).mp accepted
  · intro sentence
    exact rejected ((shiftReduce_run_decides trailing_built made _).mpr sentence)

end TableParsing.ShiftReduce
