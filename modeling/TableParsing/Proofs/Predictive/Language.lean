import TableParsing.Proofs.Predictive.Limit

/- The language of the predictive engine. With a table that was built without conflict, the run on
   an input accepts exactly the sentences of the grammar, and it spells the only parse tree that
   the input has. -/
namespace TableParsing.Predictive

variable {g : Grammar} {table : Table}

theorem expansions_mono {n : Nat} {c : Config} {o : Outcome} (h : outcome g table n c = some o)
    {m : Nat} (le : n ≤ m) : expansions g table m c = expansions g table n c := by
  induction n generalizing c m with
  | zero => cases h
  | succ n ih =>
    obtain ⟨m, rfl⟩ : ∃ j, m = j + 1 := ⟨m - 1, by omega⟩
    unfold outcome at h
    unfold expansions
    cases hs : step g table c with
    | matched s next =>
      rw [hs] at h
      exact ih h (by omega)
    | expanded p next =>
      rw [hs] at h
      exact congrArg (p :: ·) (ih h (by omega))
    | accept last => rfl
    | reject why last => rfl

/-- A run that accepts spells a parse tree of the input. -/
theorem parses_of_accepted (d : g.Declared) {ff : FirstFollow} (built : build g ff = .ok table)
    {tokens : List Symbol} (terminal : ∀ s ∈ tokens, s ∈ g.terminals) {n : Nat}
    (h : outcome g table n (initial g tokens) = some .accepted) :
    ∃ f : Forest, f.Parses g tokens ∧
      f.preorder = expansions g table n (initial g tokens) := by
  obtain ⟨last, done, moves, accept⟩ := moves_of_accepted h
  have clean : Symbol.endMarker ∉ [g.start] := by
    intro marked
    rw [List.mem_singleton] at marked
    exact d.endMarker_not_nonterminal (marked ▸ d.start_mem)
  have top : (initial g tokens).stack = [g.start] ++ [Symbol.endMarker] := rfl
  obtain ⟨f, conforms, roots, yield, pre⟩ :=
    forest_of_moves d (owned_build built) moves accept top clean rfl terminal
  exact ⟨f, ⟨roots, conforms, yield⟩, pre⟩

/-- Every parse tree of the input is spelled by the run within its limit. -/
theorem accepted_of_parses (d : g.Declared)
    (built : build g (FirstFollow.ofGrammar g) = .ok table) {tokens : List Symbol} {f : Forest}
    (parses : f.Parses g tokens) :
    outcome g table (stepLimit table tokens) (initial g tokens) = some .accepted ∧
      expansions g table (stepLimit table tokens) (initial g tokens) = f.preorder := by
  obtain ⟨roots, conforms, rfl⟩ := parses
  have moves := moves_forest d built conforms (fits_start roots []) [Symbol.endMarker]
  rw [roots] at moves
  obtain ⟨k, same⟩ := moves.outcome
  obtain ⟨ends, spelled⟩ := same 1
  have last : step g table ⟨[Symbol.endMarker], [Symbol.endMarker]⟩ =
      .accept ⟨[], [Symbol.endMarker]⟩ := by
    simp [step]
  rw [outcome, last] at ends
  rw [expansions, last, List.append_nil] at spelled
  have whole := outcome_stepLimit ends
  refine ⟨whole, ?_⟩
  rcases Nat.le_total (1 + k) (stepLimit table f.yield) with le | le
  · exact (expansions_mono ends le).trans spelled
  · exact (expansions_mono whole le).symm.trans spelled

theorem parses_unique (d : g.Declared) (built : build g (FirstFollow.ofGrammar g) = .ok table)
    {tokens : List Symbol} {a b : Forest} (ha : a.Parses g tokens) (hb : b.Parses g tokens) :
    a = b := by
  have left := (accepted_of_parses d built ha).2
  have right := (accepted_of_parses d built hb).2
  have same : a.preorder ++ [] = b.preorder ++ [] := by
    rw [← left, ← right]
  exact (Forest.eq_of_preorder d ha.2.1 hb.2.1 (ha.1.trans hb.1.symm) same).1

theorem run_of_declared {tokens : List Symbol} (terminal : ∀ s ∈ tokens, s ∈ g.terminals) :
    run g table tokens = outcome g table (stepLimit table tokens) (initial g tokens) := by
  unfold run
  rw [undeclared?_eq_none.mpr terminal]

theorem run_accepted_iff {tokens : List Symbol} :
    run g table tokens = some .accepted ↔ (∀ s ∈ tokens, s ∈ g.terminals) ∧
      outcome g table (stepLimit table tokens) (initial g tokens) = some .accepted := by
  constructor
  · intro h
    cases foreign : undeclared? g tokens with
    | none =>
      have terminal := undeclared?_eq_none.mp foreign
      exact ⟨terminal, (run_of_declared terminal).symm.trans h⟩
    | some s =>
      unfold run at h
      rw [foreign] at h
      cases h
  · rintro ⟨terminal, h⟩
    exact (run_of_declared terminal).trans h

theorem run_accepted_iff_parses (d : g.Declared)
    (built : build g (FirstFollow.ofGrammar g) = .ok table) {tokens : List Symbol} :
    run g table tokens = some .accepted ↔ ∃ f : Forest, f.Parses g tokens := by
  rw [run_accepted_iff]
  constructor
  · rintro ⟨terminal, h⟩
    obtain ⟨f, parses, _⟩ := parses_of_accepted d built terminal h
    exact ⟨f, parses⟩
  · rintro ⟨f, parses⟩
    refine ⟨?_, (accepted_of_parses d built parses).1⟩
    rw [← parses.2.2]
    exact Forest.yield_terminals parses.2.1

/-- The predictive engine decides the language of its grammar. -/
theorem predictive_run_decides (built : g.Built)
    (made : build g (FirstFollow.ofGrammar g) = .ok table) (tokens : List Symbol) :
    run g table tokens = some .accepted ↔ g.Sentence tokens := by
  rw [run_accepted_iff_parses (Grammar.built_declared built) made, Grammar.sentence_iff_parses]

theorem brackets_run_decides :
    ∃ table, build Grammar.brackets (FirstFollow.ofGrammar Grammar.brackets) = .ok table ∧
      Grammar.brackets.Sentence [.terminal "a", .terminal "a", .terminal "b", .terminal "b"] ∧
      ¬ Grammar.brackets.Sentence [.terminal "a", .terminal "b", .terminal "b"] := by
  have runs : (build Grammar.brackets (FirstFollow.ofGrammar Grammar.brackets)).toOption.any
      (fun table =>
        run Grammar.brackets table [.terminal "a", .terminal "a", .terminal "b", .terminal "b"] =
          some .accepted ∧
        run Grammar.brackets table [.terminal "a", .terminal "b", .terminal "b"] ≠
          some .accepted) = true := by
    decide +kernel
  obtain ⟨table, made, h⟩ := exists_ok_of_any runs
  obtain ⟨accepted, rejected⟩ := of_decide_eq_true h
  refine ⟨table, made, ?_, ?_⟩
  · exact (predictive_run_decides Grammar.brackets_built made _).mp accepted
  · intro sentence
    exact rejected ((predictive_run_decides Grammar.brackets_built made _).mpr sentence)

end TableParsing.Predictive
