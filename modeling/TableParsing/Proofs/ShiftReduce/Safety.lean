import TableParsing.Proofs.ShiftReduce.Language

/- What shift-reduce tables promise whatever sets of following symbols they are built from. The
   automaton has one target for each transition and a production for each completed item, so the
   building stops at conflicts only. In a run the stack is a path of the automaton, its labels
   derive what has been read, and each reduction finds its body on the stack and a state to enter.
   The reductions of a run that accepts, read backwards, are a rightmost derivation. -/
namespace TableParsing

namespace Grammar

/-- Derivation steps each of which replaces the rightmost nonterminal, with their productions. -/
inductive Rightmost (g : Grammar) : List Symbol → List Production → List Symbol → Prop where
  | refl (w : List Symbol) : Rightmost g w [] w
  | replace {before after w : List Symbol} {p : Production} {ps : List Production}
      (rule : p ∈ g.productions) (terminal : ∀ s ∈ after, s ∈ g.terminals)
      (rest : Rightmost g (before ++ p.body ++ after) ps w) :
      Rightmost g (before ++ p.lhs :: after) (p :: ps) w

variable {g : Grammar}

theorem Rightmost.trans {u v w : List Symbol} {ps qs : List Production}
    (first : g.Rightmost u ps v) (later : g.Rightmost v qs w) : g.Rightmost u (ps ++ qs) w := by
  induction first with
  | refl => exact later
  | replace rule terminal _ ih => exact .replace rule terminal (ih later)

/-- The productions of a forest, from its last tree to its first and from the roots down, derive its
yield. -/
theorem rightmost_of_forest {f : Forest} (conforms : f.Conforms g)
    (before after : List Symbol) (terminal : ∀ s ∈ after, s ∈ g.terminals) :
    g.Rightmost (before ++ f.roots ++ after) f.postorder.reverse (before ++ f.yield ++ after) := by
  induction f generalizing before after with
  | nil => exact .refl _
  | leaf s rest ih =>
    have tail := ih conforms.2 (before ++ [s]) after terminal
    simpa only [Forest.roots, Forest.yield, Forest.postorder, List.append_assoc,
      List.cons_append, List.nil_append] using tail
  | node p children rest ihc ihr =>
    obtain ⟨rule, body, hc, hr⟩ := conforms
    have behind : ∀ s ∈ rest.yield ++ after, s ∈ g.terminals := by
      intro s hs
      rcases List.mem_append.mp hs with hs | hs
      · exact Forest.yield_terminals hr s hs
      · exact terminal s hs
    have right := ihr hr (before ++ [p.lhs]) after terminal
    have inner := ihc hc before _ behind
    rw [body] at inner
    have below := Rightmost.replace rule behind inner
    have whole := right.trans (by
      simpa only [List.append_assoc, List.cons_append, List.nil_append] using below)
    simpa only [Forest.roots, Forest.yield, Forest.postorder, List.append_assoc, List.cons_append,
      List.nil_append, List.reverse_append, List.reverse_cons] using whole

end Grammar

namespace ShiftReduce
open Automaton

variable {g : Grammar} {follow : SymbolSets} {m : Automaton}

section Building

/-- A claim for an action changes neither the mode nor the transitions, or it is a conflict. -/
theorem setAction_result (b : Builder) (state : Int) (s : Symbol) (act : Action) :
    (∃ e, b.setAction state s act = .ok e ∧ e.mode = b.mode ∧ e.goto = b.goto) ∨
      ∃ c, b.setAction state s act = .error ⟨.conflict c, b⟩ := by
  unfold Builder.setAction
  cases b.action.get? (state, s) with
  | none => exact Or.inl ⟨_, rfl, rfl, rfl⟩
  | some existing =>
    dsimp only
    split
    · exact Or.inl ⟨b, rfl, rfl, rfl⟩
    · split
      · exact Or.inl ⟨b, rfl, rfl, rfl⟩
      · split
        · exact Or.inl ⟨_, rfl, rfl, rfl⟩
        · cases b.mode with
          | stop => exact Or.inr ⟨_, rfl⟩
          | collect => exact Or.inl ⟨_, rfl, rfl, rfl⟩

theorem exists_setGoto {b : Builder} {state : Int} {s : Symbol} {target : Int}
    (fits : ∀ existing, b.goto.get? (state, s) = some existing → existing = target) :
    ∃ e, b.setGoto state s target = .ok e := by
  unfold Builder.setGoto
  cases entry : b.goto.get? (state, s) with
  | none => exact ⟨_, rfl⟩
  | some existing => exact ⟨b, if_pos (fits existing entry)⟩

/-- The claims that never fail: actions, and the transitions of an automaton. -/
def Lawful (m : Automaton) (c : Claim) : Prop :=
  (∃ state s act, c = .action state s act) ∨
    ∃ (state : Int) (s : Symbol) (k : Nat), c = .goto state s k ∧
      m.transitions.get? (state, s) = some k

theorem lawful_of_mem_claims (d : g.Declared) (e : Finished (.ofGrammar g) g.symbols m)
    {c : Claim × Automaton} (h : c ∈ (claims follow m).1) : Lawful m c.1 := by
  obtain ⟨_, n, items, here, claimed⟩ := (mem_claims d e c).mp h
  obtain ⟨read, rfl⟩ := e.reached items (List.mem_of_getElem? here)
  rcases claimed with ofItem | ⟨s, hs, ofNonterminal⟩
  · obtain ⟨s, act, same, _⟩ := (mem_claimsOfItem d e here).mp ofItem
    exact Or.inl ⟨n, s, act, same⟩
  · rw [e.augmented] at hs
    rw [claimsOfNonterminal_eq e here hs, List.mem_map] at ofNonterminal
    obtain ⟨k, move, same⟩ := ofNonterminal
    exact Or.inr ⟨n, s, k, same.symm, Option.mem_toList.mp move⟩

/-- Settling lawful claims stops at a conflict or not at all. -/
theorem conflict_of_foldlM_settle {cs : Claims} (lawful : ∀ c ∈ cs, Lawful m c.1) {b : Builder}
    (sound : ∀ cell target, b.goto.get? cell = some target →
      ∃ k : Nat, m.transitions.get? cell = some k ∧ target = k)
    {stopped : Stopped} (h : cs.foldlM Builder.settle b = .error stopped) :
    ∃ c, stopped.error = .conflict c := by
  induction cs generalizing b with
  | nil => cases h
  | cons claim rest ih =>
    have others : ∀ c ∈ rest, Lawful m c.1 := fun c hc => lawful c (List.mem_cons_of_mem claim hc)
    have own := lawful claim List.mem_cons_self
    obtain ⟨c, found⟩ := claim
    rw [List.foldlM_cons] at h
    rcases own with ⟨state, s, act, rfl⟩ | ⟨state, s, k, rfl, move⟩
    · rcases setAction_result { b with automaton := found } state s act with
        ⟨e, settled, _, kept⟩ | ⟨conflict, failed⟩
      · have first : b.settle (.action state s act, found) = .ok e := settled
        rw [first] at h
        exact ih others (kept ▸ sound) h
      · have first : b.settle (.action state s act, found) =
            .error ⟨.conflict conflict, { b with automaton := found }⟩ := failed
        rw [first] at h
        cases h
        exact ⟨conflict, rfl⟩
    · -- the cell is free, or it holds the only target of the transition
      have fits : ∀ existing, b.goto.get? (state, s) = some existing → existing = k := by
        intro existing entry
        obtain ⟨j, move', rfl⟩ := sound (state, s) existing entry
        rw [Option.some.inj (move.symm.trans move')]
      obtain ⟨e, first⟩ : ∃ e, b.settle (.goto state s k, found) = .ok e := exists_setGoto fits
      rw [first] at h
      obtain ⟨_, _, cells⟩ := get?_setGoto first
      refine ih others ?_ h
      intro cell target entry
      rcases (cells cell target).mp entry with old | ⟨rfl, rfl⟩
      · exact sound cell target old
      · exact ⟨k, move, rfl⟩

/-- A builder that has found the states and settled no claim. -/
def started (g : Grammar) (follow : SymbolSets) (mode : OnConflict) : Builder :=
  { Builder.new g follow mode with automaton := automaton g }

theorem build_new (mode : OnConflict) : (Builder.new g follow mode).build =
    ((claims follow (automaton g)).1.foldlM Builder.settle (started g follow mode)).map fun b =>
      { b with automaton := (claims follow (automaton g)).2 } := rfl

theorem conflict_of_build (d : g.Declared) {mode : OnConflict} {stopped : Stopped}
    (h : (Builder.new g follow mode).build = .error stopped) :
    ∃ c, stopped.error = .conflict c := by
  rw [build_new] at h
  cases settled : (claims follow (automaton g)).1.foldlM Builder.settle
      (started g follow mode) with
  | ok e =>
    rw [settled] at h
    cases h
  | error failed =>
    rw [settled] at h
    cases h
    refine conflict_of_foldlM_settle
      (fun c hc => lawful_of_mem_claims d (finished_automaton g) hc) ?_ settled
    intro cell target entry
    have none : (∅ : GotoTable).get? cell = some target := entry
    rw [CellMap.get?_empty] at none
    cases none

theorem claimsFrom_unchanged (d : g.Declared) (e : Finished (.ofGrammar g) g.symbols m)
    (limit n : Nat) : (claimsFrom follow limit n m).2 = m := by
  induction limit generalizing n with
  | zero => rfl
  | succ limit ih =>
    unfold claimsFrom
    cases here : m.states[n]? with
    | none => rfl
    | some items =>
      dsimp only
      rw [(claimsOfState_unchanged d e here).1]
      exact ih (n + 1)

theorem states_of_build (d : g.Declared) {t : Tables} (built : build g follow = .ok t) :
    t.states = (automaton g).states := by
  unfold build at built
  cases made : (Builder.new g follow .stop).build with
  | error stopped =>
    rw [made] at built
    cases built
  | ok last =>
    rw [made] at built
    cases built
    rw [build_new] at made
    cases settled : (claims follow (automaton g)).1.foldlM Builder.settle
        (started g follow .stop) with
    | error stopped =>
      rw [settled] at made
      cases made
    | ok e =>
      rw [settled] at made
      have same := Except.ok.inj made
      have kept := congrArg Builder.automaton same
      dsimp only at kept
      have whole : (claims follow (automaton g)).2 = automaton g :=
        claimsFrom_unchanged d (finished_automaton g) _ _
      change last.automaton.states = (automaton g).states
      rw [← kept, whole]

end Building

section Runs

variable {t : Tables}

/-- What holds of a configuration in a run on some tokens: the stack is a path whose labels derive
the tokens read so far, the end marker is still to come, and the next step does not break. -/
structure Consistent (g : Grammar) (t : Tables) (tokens : List Symbol) (c : Config) : Prop where
  spelled : ∃ labels consumed left, Path (automaton g) c.stack labels ∧
    g.Derives labels consumed ∧ tokens = consumed ++ left ∧ c.input = left ++ [Symbol.endMarker]
  no_fault : ∀ why, step t c ≠ .fault why
  no_dead_end : ∀ p popped why, step t c ≠ .deadEnd p popped why

variable (d : g.Declared) (built : build g follow = .ok t) {tokens : List Symbol} {f : Forest}
include d built

theorem Spells.consistent {c : Config} (h : Spells g tokens c f) : Consistent g t tokens c := by
  have unread : c.input ≠ [] := by
    intro none
    have read := h.read
    rw [none, List.append_nil] at read
    have marked : Symbol.endMarker ∈ f.yield := read ▸ List.mem_append_right _ List.mem_cons_self
    exact d.endMarker_not_terminal (Forest.yield_terminals h.conforms _ marked)
  have ends : c.input = c.input.dropLast ++ [Symbol.endMarker] := by
    have last := congrArg List.getLast? h.read
    rw [List.getLast?_append_of_ne_nil _ unread, List.getLast?_concat] at last
    exact (List.dropLast_append_getLast? _ last).symm
  have whole : tokens = f.yield ++ c.input.dropLast := by
    have read := h.read
    rw [ends, ← List.append_assoc] at read
    exact (List.append_inj_left' read rfl).symm
  refine ⟨⟨f.roots, f.yield, _, h.path, Grammar.derives_of_forest h.conforms, whole, ends⟩, ?_, ?_⟩
  all_goals
    rcases step_spelled d built h with ⟨_, _, _, same, _⟩ | ⟨_, _, _, _, same, _⟩ | ⟨same, _⟩ |
      ⟨_, _, same⟩
    all_goals
      rw [same]
      simp

/-- A run ends with acceptance or because the table has no action. -/
theorem outcome_cases {c : Config} (h : Spells g tokens c f) {n : Nat} {o : Outcome}
    (ends : outcome t n c = some o) :
    o = .accepted ∨ ∃ state s, o = .rejected (.noAction state s) := by
  induction n generalizing c f with
  | zero => cases ends
  | succ n ih =>
    rcases step_spelled d built h with ⟨s, target, next, same, spells⟩ |
      ⟨p, a, b, next, same, _, spells⟩ | ⟨same, _⟩ | ⟨state, s, same⟩
    all_goals rw [outcome, same] at ends
    · exact ih spells ends
    · exact ih spells ends
    · exact Or.inl (Option.some.inj ends).symm
    · exact Or.inr ⟨state, s, (Option.some.inj ends).symm⟩

theorem run_cases {o : Outcome} (ends : run g t tokens = some o) :
    o = .accepted ∨ (∃ s, o = .rejected (.undeclared s)) ∨
      ∃ state s, o = .rejected (.noAction state s) := by
  unfold run at ends
  split at ends
  · exact Or.inr (Or.inl ⟨_, (Option.some.inj ends).symm⟩)
  · rcases outcome_cases d built (spells_initial tokens) ends with accepted | rejected
    · exact Or.inl accepted
    · exact Or.inr (Or.inr rejected)

theorem rightmost_of_accepted (accepted : run g t tokens = some .accepted) :
    g.Rightmost [g.start] (reductions t (stepLimit t tokens) (initial tokens)).reverse tokens := by
  obtain ⟨terminal, ends⟩ := run_accepted_iff.mp accepted
  obtain ⟨f, ⟨roots, conforms, yield⟩, reduced⟩ := parses_of_accepted d built terminal ends
  have derivation := Grammar.rightmost_of_forest conforms [] [] (by simp)
  simpa only [roots, yield, reduced, List.nil_append, List.append_nil] using derivation

end Runs

/-- Whatever symbols are said to follow, the building of tables stops at conflicts only; every
configuration of a run is consistent, a run ends with a verdict about its input, and acceptance
comes with a rightmost derivation of the input. -/
theorem shiftReduce_run_certifies (built : g.Built) (follow : SymbolSets) :
    (∀ mode stopped, (Builder.new g follow mode).build = .error stopped →
      ∃ c, stopped.error = .conflict c) ∧
    ∀ t, build g follow = .ok t → t.states = (automaton g).states ∧ ∀ tokens,
      (∀ ps c, Moves t (initial tokens) ps c → Consistent g t tokens c) ∧
      (∀ o, run g t tokens = some o → o = .accepted ∨ (∃ s, o = .rejected (.undeclared s)) ∨
        ∃ state s, o = .rejected (.noAction state s)) ∧
      (run g t tokens = some .accepted → g.Rightmost [g.start]
        (reductions t (stepLimit t tokens) (initial tokens)).reverse tokens) := by
  have d := Grammar.built_declared built
  refine ⟨fun mode stopped => conflict_of_build d, ?_⟩
  intro t made
  refine ⟨states_of_build d made, ?_⟩
  intro tokens
  refine ⟨?_, fun o => run_cases d made, rightmost_of_accepted d made⟩
  intro ps c moves
  obtain ⟨f, spells, _⟩ := spells_moves d made moves (spells_initial tokens)
  exact spells.consistent d made

/-- More than what follows the start symbol of the brackets. -/
def loose : SymbolSets :=
  OrderedMap.ofList [(.nonterminal "S",
    SortedSet.ofList [.terminal "b", .terminal "c", .endMarker, .nonterminal "S"])]

theorem brackets_run_certifies :
    ∃ t, build Grammar.brackets loose = .ok t ∧
      run Grammar.brackets t [.terminal "a", .terminal "b"] = some .accepted ∧
      Grammar.brackets.Rightmost [.nonterminal "S"]
        [⟨.nonterminal "S", [.terminal "a", .epsilon, .nonterminal "S", .terminal "b"]⟩,
          ⟨.nonterminal "S", [.epsilon]⟩] [.terminal "a", .terminal "b"] := by
  have runs : (build Grammar.brackets loose).toOption.any (fun t =>
      run Grammar.brackets t [.terminal "a", .terminal "b"] = some .accepted ∧
      (reductions t (stepLimit t [.terminal "a", .terminal "b"])
        (initial [.terminal "a", .terminal "b"])).reverse =
        [⟨.nonterminal "S", [.terminal "a", .epsilon, .nonterminal "S", .terminal "b"]⟩,
          ⟨.nonterminal "S", [.epsilon]⟩]) = true := by
    decide +kernel
  obtain ⟨t, made, h⟩ := exists_ok_of_any runs
  obtain ⟨accepted, reduced⟩ := of_decide_eq_true h
  have certified :=
    (((shiftReduce_run_certifies Grammar.brackets_built loose).2 t made).2 _).2.2 accepted
  rw [reduced] at certified
  exact ⟨t, made, accepted, certified⟩

end ShiftReduce
end TableParsing
