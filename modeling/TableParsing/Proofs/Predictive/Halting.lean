import TableParsing.Proofs.Predictive.Language
import TableParsing.Proofs.Sets.Markers

/- Runs of the predictive engine end. A production is expanded under a lookahead for one of two
   reasons. Either the lookahead can begin its body: then the expansions that follow bring the
   lookahead to the top of the stack, where it is read. Or the body can vanish: then it does, and
   the stack is shorter than before. Both come from the sets being least: what they hold has a
   finite derivation, and the table leaves no other choice than to follow it. -/
namespace TableParsing.Predictive

variable {g : Grammar} {table : Table}

def Ends (g : Grammar) (table : Table) (c : Config) : Prop :=
  ∃ n o, outcome g table n c = some o

theorem Ends.of_moves {c next : Config} {ps : List Production} (h : Ends g table next)
    (moves : Moves g table c ps next) : Ends g table c := by
  obtain ⟨n, o, ends⟩ := h
  obtain ⟨k, same⟩ := moves.outcome
  exact ⟨n + k, o, (same n).1.trans ends⟩

section Table

variable (d : g.Declared) (made : build g (FirstFollow.ofGrammar g) = .ok table)
include d made

/-- A production whose body can vanish does so under a symbol that may follow it. -/
theorem moves_vanishing {p : Production} (rule : p ∈ g.productions) (vanishes : g.Vanishes p.rhs)
    {ahead : Symbol} (follows : Trails g p.lhs ahead) (below rest : List Symbol) :
    ∃ ps, Moves g table ⟨p.lhs :: below, ahead :: rest⟩ ps ⟨below, ahead :: rest⟩ := by
  obtain ⟨children, conforms, roots, yield⟩ := Grammar.forest_of_derives vanishes (by simp)
  have tree : (Forest.node p children .nil).Conforms g := ⟨rule, roots, conforms, trivial⟩
  have fits : (Forest.node p children .nil).Fits (FirstFollow.ofGrammar g).follow
      (ahead :: rest) := ⟨⟨ahead, rest, rfl, (mem_followSets d).mpr follows⟩, trivial⟩
  have moves := moves_forest d made tree fits below
  simp only [Forest.yield, yield, List.nil_append] at moves
  exact ⟨_, moves⟩

theorem get?_of_leads {p : Production} (rule : p ∈ g.productions) {ahead : Symbol}
    (leads : Leads g p.rhs ahead) (shown : ahead ≠ Symbol.epsilon) :
    table.get? (p.lhs, ahead) = some p :=
  (get?_build made).mpr ⟨rule, rfl, mem_aheadOf.mpr (Or.inl ⟨(mem_firstOf d).mpr leads, shown⟩)⟩

variable (harmless : g.HarmlessMarkers)
include harmless

/-- A symbol with which the rest of an alternative can begin is brought to the top of the stack. -/
theorem moves_to_ahead {p : Production} (rule : p ∈ g.productions) {before todo : List Symbol}
    (split : p.rhs = before ++ todo) {ahead : Symbol} (leads : Leads g todo ahead)
    (shown : ahead ≠ Symbol.epsilon) (below rest : List Symbol) :
    ∃ ps left, Moves g table ⟨visible todo ++ below, ahead :: rest⟩ ps
      ⟨ahead :: left, ahead :: rest⟩ := by
  induction leads generalizing p before below with
  | done => exact absurd rfl shown
  | marker => exact absurd rfl shown
  | @afterMarker todo _ _ ih =>
    have split' : p.rhs = (before ++ [Symbol.epsilon]) ++ todo := by simpa using split
    rw [visible_marker]
    exact ih rule split' shown below
  | @plain s visible' _ todo =>
    rw [visible_cons visible']
    exact ⟨[], visible todo ++ below, .refl _⟩
  | @within q x inside leads' _ todo ih =>
    have member := d.lhs_mem inside
    have expand : step g table ⟨q.lhs :: (visible todo ++ below), x :: rest⟩ =
        .expanded q ⟨q.body ++ (visible todo ++ below), x :: rest⟩ :=
      step_nonterminal (nonterminal_ne_endMarker d member) member
        (get?_of_leads d made inside leads' shown)
    obtain ⟨ps, left, moves⟩ := ih inside (List.nil_append _).symm shown (visible todo ++ below)
    rw [visible_cons (d.nonterminal_ne_epsilon member)]
    exact ⟨q :: ps, left, .expanded expand moves⟩
  | @after q todo x inside vanishes later _ ih =>
    have member := d.lhs_mem inside
    have empty : g.Vanishes q.rhs :=
      harmless.vanishes d inside (List.nil_append _).symm Grammar.passable_nil vanishes
    have follows : Trails g q.lhs x := .ahead rule split member later shown
    obtain ⟨qs, first⟩ := moves_vanishing d made inside empty follows (visible todo ++ below) rest
    have split' : p.rhs = (before ++ [q.lhs]) ++ todo := by simpa using split
    obtain ⟨ps, left, moves⟩ := ih rule split' shown below
    rw [visible_cons (d.nonterminal_ne_epsilon member)]
    exact ⟨qs ++ ps, left, first.trans moves⟩

/-- Unless the run ends, the next symbol of the input is read, or the top of the stack vanishes. -/
theorem progress (top ahead : Symbol) (below rest : List Symbol) :
    Ends g table ⟨top :: below, ahead :: rest⟩ ∨
    (∃ ps left, Moves g table ⟨top :: below, ahead :: rest⟩ ps ⟨left, rest⟩ ∧
      ahead ≠ Symbol.endMarker) ∨
    ∃ ps, Moves g table ⟨top :: below, ahead :: rest⟩ ps ⟨below, ahead :: rest⟩ := by
  cases here : step g table ⟨top :: below, ahead :: rest⟩ with
  | accept last => exact Or.inl ⟨1, .accepted, by rw [outcome, here]⟩
  | reject why last => exact Or.inl ⟨1, .rejected why, by rw [outcome, here]⟩
  | matched s next =>
    obtain ⟨left, _, ne, found, rfl⟩ := step_matched here
    have read : s = ahead := found
    exact Or.inr (Or.inl ⟨[], left, .matched here (.refl _), read ▸ ne⟩)
  | expanded p next =>
    obtain ⟨_, _, split, _, _, cell, rfl⟩ := step_expanded here
    obtain ⟨rfl, rfl⟩ := List.cons.inj split
    obtain ⟨rule, rfl, claimed⟩ := (get?_build made).mp cell
    rcases mem_aheadOf.mp claimed with ⟨first, shown⟩ | ⟨vanishes, follows⟩
    · have terminal : ahead ∈ g.terminals :=
        (firstOf_within (firstSets_within d) (known_rhs d rule) ahead first).resolve_right shown
      obtain ⟨ps, left, moves⟩ := moves_to_ahead d made harmless rule (List.nil_append _).symm
        ((mem_firstOf d).mp first) shown below rest
      have reads : step g table ⟨ahead :: left, ahead :: rest⟩ = .matched ahead ⟨left, rest⟩ :=
        step_terminal (d.ne_endMarker terminal) (d.terminal_not_nonterminal terminal)
      have all := Moves.expanded here (moves.trans (.matched reads (.refl _)))
      exact Or.inr (Or.inl ⟨_, left, all, d.ne_endMarker terminal⟩)
    · have empty : g.Vanishes p.rhs := harmless.vanishes d rule (List.nil_append _).symm
        Grammar.passable_nil ((mem_firstOf d).mp vanishes)
      have follows := (mem_followSets d).mp follows
      exact Or.inr (Or.inr (moves_vanishing d made rule empty follows below rest))

/-- Every run ends: by induction on the input that is left, then on the stack. -/
theorem ends_of_harmless (tokens stack : List Symbol) :
    Ends g table ⟨stack, tokens ++ [Symbol.endMarker]⟩ := by
  induction tokens generalizing stack with
  | nil =>
    induction stack with
    | nil => exact ⟨1, _, rfl⟩
    | cons top below ih =>
      rcases progress d made harmless top Symbol.endMarker below [] with
        ends | ⟨_, _, _, ne⟩ | ⟨_, moves⟩
      · exact ends
      · exact absurd rfl ne
      · exact ih.of_moves moves
  | cons a tokens shorter =>
    induction stack with
    | nil => exact ⟨1, _, rfl⟩
    | cons top below ih =>
      rcases progress d made harmless top a below (tokens ++ [Symbol.endMarker]) with
        ends | ⟨_, left, moves, _⟩ | ⟨_, moves⟩
      · exact ends
      · exact (shorter left).of_moves moves
      · exact ih.of_moves moves

theorem run_of_harmless (tokens : List Symbol) : ∃ o, run g table tokens = some o := by
  unfold run
  split
  · exact ⟨_, rfl⟩
  · obtain ⟨n, o, ends⟩ :=
      ends_of_harmless d made harmless tokens [g.start, Symbol.endMarker]
    exact ⟨o, outcome_stepLimit ends⟩

end Table

/-- With markers only where an alternative is empty, every run of the predictive engine ends, and
within its limit. -/
theorem predictive_run_halts (built : g.Built) (sole : g.SoleMarkers)
    (made : build g (FirstFollow.ofGrammar g) = .ok table) (tokens : List Symbol) :
    (∃ n o, outcome g table n (initial g tokens) = some o) ∧
      ∃ o, run g table tokens = some o := by
  have d := Grammar.built_declared built
  exact ⟨ends_of_harmless d made sole.harmless tokens [g.start, Symbol.endMarker],
    run_of_harmless d made sole.harmless tokens⟩

/-- A left-recursive nonterminal that derives no sentence, and another one that only leads to
itself and is never reached. -/
def detour : Grammar :=
  (((Grammar.ofStart (.nonterminal "S")).define (.nonterminal "S")
    [[.terminal "a", .nonterminal "U"], []]).define (.nonterminal "U")
    [[.nonterminal "U", .terminal "c"]]).define (.nonterminal "V") [[.nonterminal "V"]]

theorem detour_built : detour.Built := by
  refine Grammar.built_define (Grammar.built_define (Grammar.built_define
    (Grammar.built_ofStart rfl) rfl ?_) rfl ?_) rfl ?_
  all_goals decide

theorem detour_run_halts :
    detour.SoleMarkers ∧ ∃ table, build detour (FirstFollow.ofGrammar detour) = .ok table ∧
      ∀ tokens, ∃ o, run detour table tokens = some o := by
  have sole : detour.SoleMarkers := by
    unfold Grammar.SoleMarkers
    decide +kernel
  have filled : (build detour (FirstFollow.ofGrammar detour)).toOption.any
      (fun _ => true) = true := by
    decide +kernel
  obtain ⟨table, made, _⟩ := exists_ok_of_any filled
  refine ⟨sole, table, made, ?_⟩
  intro tokens
  exact (predictive_run_halts detour_built sole made tokens).2

end TableParsing.Predictive
